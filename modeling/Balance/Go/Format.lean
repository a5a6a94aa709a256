import Mathlib.Data.Nat.Digits.Defs

/-! How Go writes numbers, bytes and durations, and that it writes them without white space. -/

namespace Go

section Writing

/-- The minus sign. -/
def minus : UInt8 := 45

/-- The decimal point. -/
def point : UInt8 := 46

/-- The digit for a number below ten. -/
def digit (d : Nat) : UInt8 := .ofNat (48 + d)

/-- A number in decimal digits. -/
def fmtInt (v : Nat) : List UInt8 :=
  if v = 0 then [digit 0] else ((Nat.digits 10 v).map digit).reverse

/-- An integer in decimal digits, with its sign if it is negative. -/
def itoa (i : Int) : List UInt8 :=
  if i < 0 then minus :: fmtInt i.natAbs else fmtInt i.natAbs

/--
The last digits of a number as a fraction, and the number without them.

Zeros at the end are left out, and the point as well if nothing else is left. A digit is written
once there is one behind it, so that what was written tells whether to go on.
-/
def fmtFrac : Nat → Nat → List UInt8 → List UInt8 × Nat
  | 0, v, text => (if text = [] then [] else point :: text, v)
  | prec + 1, v, text =>
    fmtFrac prec (v / 10) (if text = [] ∧ v % 10 = 0 then [] else digit (v % 10) :: text)

/-- A number of the given unit with a fraction of some digits. -/
def fmtUnit (prec v : Nat) (unit : List UInt8) : List UInt8 :=
  let (frac, whole) := fmtFrac prec v []
  fmtInt whole ++ (frac ++ unit)

/-- A number of nanoseconds, from one second on. -/
def fmtClock (v : Nat) : List UInt8 :=
  let (frac, seconds) := fmtFrac 9 v []
  let text := fmtInt (seconds % 60) ++ (frac ++ [115])
  let minutes := seconds / 60
  if minutes = 0 then text
  else
    let text := fmtInt (minutes % 60) ++ 109 :: text
    let hours := minutes / 60
    if hours = 0 then text else fmtInt hours ++ 104 :: text

/-- A duration in nanoseconds, in the units that Go chooses for it. -/
def durationString (d : Int) : List UInt8 :=
  let u := d.natAbs
  let text :=
    if u = 0 then [48, 115]
    else if u < 1000 then fmtUnit 0 u [110, 115]
    -- The micro sign takes two bytes.
    else if u < 1000000 then fmtUnit 3 u [0xC2, 0xB5, 115]
    else if u < 1000000000 then fmtUnit 6 u [109, 115]
    else fmtClock u
  if d < 0 then minus :: text else text

/-- The digit for a number below sixteen. -/
def hexDigit (d : Nat) : UInt8 := if d < 10 then .ofNat (48 + d) else .ofNat (87 + d)

/-- Bytes as pairs of hexadecimal digits. -/
def hexString (bytes : List UInt8) : List UInt8 :=
  bytes.flatMap fun byte => [hexDigit (byte.toNat / 16), hexDigit (byte.toNat % 16)]

end Writing

/-- A text without white space and control characters. -/
def Solid (text : List UInt8) : Prop := ∀ byte ∈ text, 32 < byte

section Solid

variable {first second text : List UInt8} {byte : UInt8}

/-- The empty text has nothing in it. -/
@[simp] theorem solid_nil : Solid [] := by
  intro byte member
  cases member

/-- A text is solid if its first byte and the rest are. -/
@[simp] theorem solid_cons : Solid (byte :: text) ↔ 32 < byte ∧ Solid text :=
  List.forall_mem_cons

/-- Two solid texts make one. -/
@[simp] theorem solid_append : Solid (first ++ second) ↔ Solid first ∧ Solid second :=
  List.forall_mem_append

/-- Turning a text around changes nothing about it. -/
@[simp] theorem solid_reverse : Solid text.reverse ↔ Solid text := by
  simp [Solid]

/-- A number that fits into a byte is the same as a byte. -/
theorem lt_ofNat {n : Nat} (low : 32 < n) (high : n < 256) : 32 < UInt8.ofNat n := by
  rw [UInt8.lt_iff_toNat_lt, UInt8.toNat_ofNat_of_lt' high]
  exact low

/-- Digits are not white space. -/
theorem lt_digit {d : Nat} (small : d < 10) : 32 < digit d := lt_ofNat (by omega) (by omega)

/-- A number is written in digits. -/
@[simp] theorem solid_fmtInt (v : Nat) : Solid (fmtInt v) := by
  rw [fmtInt]
  split
  · simp [lt_digit]
  · -- Every byte stands for one of the digits, which are below the base.
    intro byte member
    rw [List.mem_reverse] at member
    obtain ⟨d, listed, rfl⟩ := List.mem_map.mp member
    exact lt_digit (Nat.digits_lt_base (by omega) listed)

/-- An integer is written in digits and a sign. -/
@[simp] theorem solid_itoa (i : Int) : Solid (itoa i) := by
  rw [itoa]
  split <;> simp [minus]

/-- A fraction is written in digits and a point. -/
theorem solid_fmtFrac (prec v : Nat) {text : List UInt8} (solid : Solid text) :
    Solid (fmtFrac prec v text).1 := by
  -- The induction is on the digits that are still to be written, in front of those that were.
  induction prec generalizing v text with
  | zero =>
    rw [fmtFrac]
    split <;> simp [point, solid]
  | succ prec ih =>
    rw [fmtFrac]
    refine ih _ ?_
    split
    · exact solid_nil
    · exact solid_cons.mpr ⟨lt_digit (Nat.mod_lt _ (by omega)), solid⟩

/-- A number with a unit is as solid as the unit. -/
theorem solid_fmtUnit (prec v : Nat) {unit : List UInt8} (solid : Solid unit) :
    Solid (fmtUnit prec v unit) := by
  simp [fmtUnit, solid_fmtFrac prec v solid_nil, solid]

/-- Hours, minutes and seconds are written in digits and letters. -/
theorem solid_fmtClock (v : Nat) : Solid (fmtClock v) := by
  have frac := solid_fmtFrac 9 v solid_nil
  simp only [fmtClock]
  split
  · simp [frac]
  · split <;> simp [frac]

/-- A duration is written in digits, letters and signs. -/
@[simp] theorem solid_durationString (d : Int) : Solid (durationString d) := by
  -- Whichever unit is chosen, only the sign may come in front.
  simp only [durationString]
  generalize d.natAbs = u
  have text : Solid (if u = 0 then [48, 115] else if u < 1000 then fmtUnit 0 u [110, 115]
      else if u < 1000000 then fmtUnit 3 u [0xC2, 0xB5, 115]
      else if u < 1000000000 then fmtUnit 6 u [109, 115] else fmtClock u) := by
    split_ifs
    · simp
    · exact solid_fmtUnit _ _ (by simp)
    · exact solid_fmtUnit _ _ (by simp)
    · exact solid_fmtUnit _ _ (by simp)
    · exact solid_fmtClock u
  split
  · exact solid_cons.mpr ⟨by decide, text⟩
  · exact text

/-- Hexadecimal digits are not white space. -/
theorem lt_hexDigit {d : Nat} (small : d < 16) : 32 < hexDigit d := by
  rw [hexDigit]
  split
  · exact lt_ofNat (by omega) (by omega)
  · exact lt_ofNat (by omega) (by omega)

/-- Bytes are written in hexadecimal digits. -/
@[simp] theorem solid_hexString (bytes : List UInt8) : Solid (hexString bytes) := by
  -- A byte is below 256, so that both of its halves are below sixteen.
  intro byte member
  obtain ⟨source, _, written⟩ := List.mem_flatMap.mp member
  have bound := source.toNat_lt
  rcases List.mem_cons.mp written with rfl | last
  · exact lt_hexDigit (by omega)
  · rw [List.mem_singleton.mp last]
    exact lt_hexDigit (by omega)

end Solid

end Go
