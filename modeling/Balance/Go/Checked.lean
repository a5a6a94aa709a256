import Mathlib.Algebra.Group.Nat.Defs
import Mathlib.Data.List.Basic

/-! Calls that read a slice of bytes, which may fail and may go out of range. -/

namespace Go

/-- Why a call has no result: it has panicked, or its rounds were not enough. -/
inductive Fault where
  | outOfRange
  | unfinished
  deriving DecidableEq, Repr

/-- A call that returns a value or an error, unless it comes to a fault. -/
abbrev Checked (ε α : Type) := ExceptT ε (Except Fault) α

section Calls

variable {ε : Type}

/-- The call stops with a fault. -/
def stopWith {α : Type} (fault : Fault) : Checked ε α := ExceptT.mk (.error fault)

/-- Return an error if something is wrong. -/
def failIf (wrong : Prop) [Decidable wrong] (error : ε) : Checked ε Unit :=
  if wrong then throw error else pure ()

/-- The byte at a position. -/
def byteAt (data : List UInt8) (pos : Nat) : Checked ε UInt8 :=
  match data[pos]? with
  | some byte => pure byte
  | none => stopWith .outOfRange

/-- The number in the two bytes at a position, the higher one first. -/
def uint16At (data : List UInt8) (pos : Nat) : Checked ε Nat := do
  let high ← byteAt data pos
  let low ← byteAt data (pos + 1)
  return high.toNat <<< 8 ||| low.toNat

/-- The bytes between two positions. -/
def slice (data : List UInt8) (first last : Nat) : Checked ε (List UInt8) :=
  if first ≤ last ∧ last ≤ data.length then pure ((data.drop first).take (last - first))
  else stopWith .outOfRange

end Calls

section Returns

variable {ε α β : Type} {call : Checked ε α} {rest : α → Checked ε β} {mid : α → Prop}
  {post : β → Prop}

/-- A call comes to no fault, and a value that it returns is as stated. -/
def Returns (call : Checked ε α) (post : α → Prop) : Prop :=
  ∃ result, call = ExceptT.mk (.ok result) ∧ ∀ value, result = .ok value → post value

/-- A value is returned as it is. -/
theorem returns_pure {value : β} (holds : post value) :
    Returns (pure value : Checked ε β) post := by
  refine ⟨.ok value, rfl, ?_⟩
  intro other same
  cases same
  exact holds

/-- An error is no fault. -/
theorem returns_throw (error : ε) : Returns (throw error : Checked ε β) post :=
  ⟨.error error, rfl, nofun⟩

/-- What follows a call may rely on the value that the call has returned. -/
theorem Returns.bind (first : Returns call mid) (next : ∀ value, mid value →
    Returns (rest value) post) : Returns (call >>= rest) post := by
  -- An error of the call is the error of the whole.
  obtain ⟨result, rfl, holds⟩ := first
  cases result with
  | error error => exact returns_throw error
  | ok value => exact next value (holds value rfl)

/-- What follows a call may be replaced where it returns, as long as it returns the same. -/
theorem bind_mono {other : α → Checked ε β} {result : Except ε β}
    (same : ∀ value, rest value = ExceptT.mk (.ok result) → other value = ExceptT.mk (.ok result))
    (returned : (call >>= rest) = ExceptT.mk (.ok result)) :
    (call >>= other) = ExceptT.mk (.ok result) := by
  -- What follows is reached with a value, and else makes no difference.
  rcases call with fault | error | value
  · cases returned
  · exact returned
  · exact same value returned

/-- What follows a check may rely on it. -/
theorem returns_failIf {wrong : Prop} [Decidable wrong] {error : ε} {rest : Unit → Checked ε β}
    (next : ¬ wrong → Returns (rest ()) post) : Returns (failIf wrong error >>= rest) post := by
  -- The call goes on exactly where the test fails.
  by_cases bad : wrong
  · rw [failIf, if_pos bad]
    exact returns_throw error
  · rw [failIf, if_neg bad]
    exact next bad

/-- A byte within the slice can be read. -/
theorem returns_byteAt {data : List UInt8} {pos : Nat} {rest : UInt8 → Checked ε β}
    (within : pos < data.length) (next : ∀ byte, Returns (rest byte) post) :
    Returns (byteAt data pos >>= rest) post := by
  rw [byteAt, List.getElem?_eq_getElem within]
  exact next _

/-- Two bytes within the slice can be read. -/
theorem returns_uint16At {data : List UInt8} {pos : Nat} {rest : Nat → Checked ε β}
    (within : pos + 1 < data.length) (next : ∀ number, Returns (rest number) post) :
    Returns (uint16At data pos >>= rest) post := by
  rw [uint16At, byteAt, byteAt, List.getElem?_eq_getElem (by omega : pos < data.length),
    List.getElem?_eq_getElem within]
  exact next _

/-- Bytes between two positions within the slice can be taken. -/
theorem returns_slice {data : List UInt8} {first last : Nat} (ordered : first ≤ last)
    (within : last ≤ data.length) :
    Returns (slice data first last : Checked ε (List UInt8)) fun _ => True := by
  rw [slice, if_pos ⟨ordered, within⟩]
  exact returns_pure trivial

end Returns

/-- The two bytes of a number, the higher one first. -/
def uint16 (number : Nat) : List UInt8 := [UInt8.ofNat (number / 256), UInt8.ofNat (number % 256)]

/-- Two bytes are two bytes. -/
@[simp] theorem length_uint16 (number : Nat) : (uint16 number).length = 2 := rfl

/-- A number that two bytes hold is read back from them. -/
theorem uint16_or {number : Nat} (fits : number < 2 ^ 16) :
    (UInt8.ofNat (number / 256)).toNat <<< 8 ||| (UInt8.ofNat (number % 256)).toNat = number := by
  -- The lower byte fills the bits that the shift leaves free.
  have high : (UInt8.ofNat (number / 256)).toNat = number / 256 :=
    UInt8.toNat_ofNat_of_lt' (by change _ < 256; omega)
  have low : (UInt8.ofNat (number % 256)).toNat = number % 256 :=
    UInt8.toNat_ofNat_of_lt' (by change _ < 256; omega)
  rw [high, low, ← Nat.shiftLeft_add_eq_or_of_lt (show number % 256 < 2 ^ 8 by omega),
    Nat.shiftLeft_eq]
  omega

/-- Numbers that two bytes hold are told apart by them. -/
theorem uint16_inj {first second : Nat} (firstFits : first < 2 ^ 16) (secondFits : second < 2 ^ 16)
    (same : uint16 first = uint16 second) : first = second := by
  simp only [uint16, List.cons.injEq, and_true] at same
  rw [← uint16_or firstFits, same.1, same.2, uint16_or secondFits]

/-- Any two bytes are those of a number. -/
theorem exists_uint16 (high low : UInt8) : ∃ number < 2 ^ 16, uint16 number = [high, low] := by
  have above := high.toNat_lt
  have below := low.toNat_lt
  refine ⟨high.toNat * 256 + low.toNat, by omega, ?_⟩
  rw [uint16, show (high.toNat * 256 + low.toNat) / 256 = high.toNat by omega,
    show (high.toNat * 256 + low.toNat) % 256 = low.toNat by omega, UInt8.ofNat_toNat,
    UInt8.ofNat_toNat]

/-- A position is within the slice, and these are the bytes from there on. -/
structure At (data : List UInt8) (pos : Nat) (ahead : List UInt8) : Prop where
  within : pos ≤ data.length
  bytes : data.drop pos = ahead

namespace At

variable {ε β : Type} {data ahead : List UInt8} {pos : Nat}

/-- From the start of a slice, all of it is ahead. -/
theorem start (data : List UInt8) : At data 0 data := ⟨Nat.zero_le _, rfl⟩

/-- The length of a slice is what lies behind a position and what is ahead of it. -/
theorem length_eq (here : At data pos ahead) : data.length = pos + ahead.length := by
  have left := here.within
  rw [← here.bytes, List.length_drop]
  omega

/-- Behind the bytes next to come are those after them. -/
theorem advance {next : List UInt8} (here : At data pos (next ++ ahead)) :
    At data (pos + next.length) ahead := by
  have total := here.length_eq
  rw [List.length_append] at total
  refine ⟨by omega, ?_⟩
  rw [← List.drop_drop, here.bytes, List.drop_left]

/-- Behind the next byte are those after it. -/
theorem tail {byte : UInt8} (here : At data pos (byte :: ahead)) : At data (pos + 1) ahead :=
  advance (show At data pos ([byte] ++ ahead) from here)

/-- As many bytes as there is room for can be set apart. -/
theorem exists_append (here : At data pos ahead) {count : Nat}
    (room : pos + count ≤ data.length) :
    ∃ next rest, next.length = count ∧ ahead = next ++ rest ∧ At data (pos + count) rest := by
  have total := here.length_eq
  have size : (ahead.take count).length = count := by
    rw [List.length_take]
    omega
  have split : ahead = ahead.take count ++ ahead.drop count := (List.take_append_drop _ _).symm
  refine ⟨_, _, size, split, ?_⟩
  have behind := At.advance (split ▸ here)
  rwa [size] at behind

/-- A byte can be set apart. -/
theorem exists_cons (here : At data pos ahead) (room : pos + 1 ≤ data.length) :
    ∃ byte rest, ahead = byte :: rest ∧ At data (pos + 1) rest := by
  obtain ⟨next, rest, size, rfl, behind⟩ := here.exists_append room
  obtain ⟨byte, rfl⟩ := List.length_eq_one_iff.mp size
  exact ⟨byte, rest, rfl, behind⟩

/-- Two bytes can be set apart, as those of a number. -/
theorem exists_number (here : At data pos ahead) (room : pos + 2 ≤ data.length) :
    ∃ number rest, number < 2 ^ 16 ∧ ahead = uint16 number ++ rest ∧ At data (pos + 2) rest := by
  obtain ⟨next, rest, size, rfl, behind⟩ := here.exists_append room
  obtain ⟨high, low, rfl⟩ := List.length_eq_two.mp size
  obtain ⟨number, fits, same⟩ := exists_uint16 high low
  exact ⟨number, rest, fits, by rw [same], behind⟩

/-- The next byte is what is read. -/
theorem byteAt_bind {byte : UInt8} (here : At data pos (byte :: ahead))
    (rest : UInt8 → Checked ε β) : (byteAt data pos >>= rest) = rest byte := by
  -- The cursor stands at the byte, so that the read is in range.
  have found : data[pos]? = some byte := by
    have first := congrArg List.head? here.bytes
    rwa [List.head?_drop] at first
  rw [byteAt, found]
  rfl

/-- The number in the next two bytes is what is read. -/
theorem uint16At_bind {number : Nat} (here : At data pos (uint16 number ++ ahead))
    (fits : number < 2 ^ 16) (rest : Nat → Checked ε β) :
    (uint16At data pos >>= rest) = rest number := by
  have second : At data (pos + 1) (UInt8.ofNat (number % 256) :: ahead) := here.tail
  rw [uint16At, bind_assoc, here.byteAt_bind, bind_assoc, second.byteAt_bind, pure_bind,
    uint16_or fits]

/-- The bytes next to come are what is taken. -/
theorem slice_eq {next : List UInt8} (here : At data pos (next ++ ahead)) :
    (slice data pos (pos + next.length) : Checked ε (List UInt8)) = pure next := by
  have total := here.length_eq
  rw [List.length_append] at total
  rw [slice, if_pos ⟨by omega, by omega⟩, here.bytes, Nat.add_sub_cancel_left, List.take_left]

end At

/-- Nothing is wrong, and the call goes on. -/
theorem failIf_bind {ε β : Type} {wrong : Prop} [Decidable wrong] (right : ¬ wrong) (error : ε)
    (rest : Unit → Checked ε β) : (failIf wrong error >>= rest) = rest () := by
  rw [failIf, if_neg right]
  rfl

/-- A call that returns a value has found nothing wrong on its way. -/
theorem of_failIf_bind {ε β : Type} {wrong : Prop} [Decidable wrong] {error : ε}
    {rest : Unit → Checked ε β} {value : β}
    (returned : (failIf wrong error >>= rest) = pure value) :
    ¬ wrong ∧ rest () = pure value := by
  by_cases bad : wrong
  · rw [failIf, if_pos bad] at returned
    cases returned
  · rw [failIf_bind bad] at returned
    exact ⟨bad, returned⟩

end Go
