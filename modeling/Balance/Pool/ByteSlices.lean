import Balance.Go.Bits
import Balance.Go.Collections
import Balance.Machine.Run

/-! The pool of byte slices, which files them by their capacity, rounded up to a power of two. -/

namespace Balance

open Machine

section Rounding

/-- The highest bit of a number copied to the 31 places below it. -/
def smear (n : Nat) : Nat :=
  let n := n ||| n >>> 1
  let n := n ||| n >>> 2
  let n := n ||| n >>> 4
  let n := n ||| n >>> 8
  n ||| n >>> 16

/-- Rounds up to a power of two, as far as 32 bits reach. -/
def roundUpPowerOf2 (n : Int) : Int :=
  if n ≤ 0 then 1
  else if n.toNat &&& (n.toNat - 1) = 0 then n
  else Go.wrap64 (smear (n.toNat - 1) + 1)

end Rounding

/-- A slice of bytes, of which only the sizes matter. -/
structure ByteSlice where
  len : Nat
  cap : Nat
  within : len ≤ cap
  deriving DecidableEq

namespace ByteSlice

/-- A slice of zeros. -/
def make (size : Int) : ByteSlice := ⟨size.toNat, size.toNat, Nat.le_refl _⟩

/-- The first bytes of a slice up to its capacity, where going beyond that is a panic. -/
def upTo (buf : ByteSlice) (size : Int) : Option ByteSlice :=
  if fits : 0 ≤ size ∧ size ≤ buf.cap then some ⟨size.toNat, buf.cap, by omega⟩ else none

/-- A slice in its full capacity. -/
def full (buf : ByteSlice) : ByteSlice := ⟨buf.cap, buf.cap, Nat.le_refl _⟩

end ByteSlice

/-- The slices that wait to be used again, for each class that has been asked for. -/
structure ByteSlicePool where
  pools : Int → Option (List ByteSlice)

namespace ByteSlicePool

/-- A new pool has no classes. -/
def new : ByteSlicePool := ⟨fun _ => none⟩

/-- A pool with the slices of one class replaced. -/
def withClass (bsp : ByteSlicePool) (poolSize : Int) (buffers : List ByteSlice) : ByteSlicePool :=
  ⟨Function.update bsp.pools poolSize (some buffers)⟩

/--
A slice of some size, from one that waits in its class or from a new one.

Which one it is the runtime decides. There is no slice if the one that is taken is too short.
-/
def get (bsp : ByteSlicePool) (size : Int) (reused : Option Nat) :
    Option (ByteSlicePool × Option ByteSlice) :=
  let poolSize := roundUpPowerOf2 size
  -- A class that is not there yet is made.
  let buffers := (bsp.pools poolSize).getD []
  match reused with
  | none => some (bsp.withClass poolSize buffers, (ByteSlice.make poolSize).upTo size)
  | some i =>
    buffers[i]?.map fun buf => (bsp.withClass poolSize (buffers.eraseIdx i), buf.upTo size)

/-- Gives a slice back to the class of its capacity, if there is one. -/
def put (bsp : ByteSlicePool) (buf : ByteSlice) : ByteSlicePool :=
  if buf.len = 0 then bsp
  else
    match bsp.pools (roundUpPowerOf2 buf.cap) with
    | some buffers => bsp.withClass (roundUpPowerOf2 buf.cap) (buffers ++ [buf.full])
    | none => bsp

end ByteSlicePool

/-- What is asked of a pool of slices. -/
inductive SliceRequest where
  | get (size : Int)
  | put (buf : ByteSlice)
  deriving DecidableEq

/-- What is done with a pool of slices. -/
inductive SliceCall where
  -- With the place of the slice that the runtime takes, if it takes one that waits.
  | get (size : Int) (reused : Option Nat)
  | put (buf : ByteSlice)

namespace SliceRequest

/-- A size is at most 2^31, and a capacity is an `int`. -/
def InRange : SliceRequest → Prop
  | .get size => 0 ≤ size ∧ size ≤ 2 ^ 31
  | .put buf => buf.cap < 2 ^ 63

instance : DecidablePred InRange
  | .get _ => inferInstanceAs (Decidable (_ ∧ _))
  | .put _ => inferInstanceAs (Decidable (_ < _))

/-- The request carried out without a slice that waits. -/
def fresh : SliceRequest → SliceCall
  | .get size => .get size none
  | .put buf => .put buf

/-- A class was asked for. -/
def Asked (past : List SliceRequest) (poolSize : Int) : Prop :=
  ∃ size, .get size ∈ past ∧ roundUpPowerOf2 size = poolSize

/-- A slice that is not empty was given back after its class had been asked for. -/
def Filed (past : List SliceRequest) (buf : ByteSlice) : Prop :=
  ∃ earlier later, past = earlier ++ .put buf :: later ∧ buf.len ≠ 0 ∧
    Asked earlier (roundUpPowerOf2 buf.cap)

/-- No size is asked for that is above the capacity of a slice filed in its class before. -/
def Roomy (requests : List SliceRequest) : Prop :=
  ∀ past size later, requests = past ++ .get size :: later → ∀ buf, Filed past buf →
    roundUpPowerOf2 buf.cap = roundUpPowerOf2 size → size ≤ buf.cap

end SliceRequest

/-- What a call was asked to do. -/
def SliceCall.request : SliceCall → SliceRequest
  | .get size _ => .get size
  | .put buf => .put buf

/-- A pool of slices, and what its calls of `Get` have returned. -/
structure SliceUse where
  bsp : ByteSlicePool
  answers : List (Int × Option ByteSlice)

namespace SliceUse

/-- A new pool. -/
def start : SliceUse := ⟨.new, []⟩

/-- One call, for a size of at most 2^31 or with a slice whose capacity is an `int`. -/
def step (use : SliceUse) (call : SliceCall) : Option SliceUse :=
  if call.request.InRange then
    match call with
    | .get size reused =>
      (use.bsp.get size reused).map fun (bsp, answer) => ⟨bsp, use.answers ++ [(size, answer)]⟩
    | .put buf => some { use with bsp := use.bsp.put buf }
  else none

/-- Every `Get` has returned a slice of the size that was asked for. -/
def Served (use : SliceUse) : Prop :=
  ∀ answer ∈ use.answers, ∃ buf, answer.2 = some buf ∧ (buf.len : Int) = answer.1

/-- Whichever slices the runtime takes, every `Get` returns a slice of the size asked for. -/
def AlwaysServed (requests : List SliceRequest) : Prop :=
  ∀ calls use, calls.map SliceCall.request = requests → exec step start calls = some use →
    use.Served

end SliceUse

/-- A number that was smeared has each of its bits in 32 places. -/
theorem smear_spreads (n : Nat) : Go.Spread 32 n (smear n) :=
  (Go.Spread.refl n).double.double.double.double.double

/-- A power of two is rounded to itself. -/
theorem roundUpPowerOf2_of_power {n : Nat} (some : 0 < n) (power : n.isPowerOfTwo) :
    roundUpPowerOf2 n = n := by
  rw [roundUpPowerOf2, if_neg (by omega), Int.toNat_natCast,
    if_pos ((Nat.and_sub_one_eq_zero_iff_isPowerOfTwo (by omega)).mpr power)]

/-- Below the highest bit of a number, there are nowhere 32 zeros in a row. -/
def Gapless (n : Nat) : Prop := ∀ i ≤ n.log2, ∃ d < 32, n.testBit (i + d) = true

instance (n : Nat) : Decidable (Gapless n) :=
  inferInstanceAs (Decidable (∀ i ≤ n.log2, ∃ d < 32, n.testBit (i + d) = true))

/-- A number of at most 32 bits has no room for a gap. -/
theorem gapless_of_lt {n : Nat} (some : n ≠ 0) (small : n < 2 ^ 32) : Gapless n := by
  have low : n.log2 < 32 := (Nat.log2_lt some).mpr small
  intro i below
  refine ⟨n.log2 - i, by omega, ?_⟩
  rw [show i + (n.log2 - i) = n.log2 by omega]
  exact Nat.testBit_log2 some

/-- A number that was smeared is followed by a power of two just if it has no gaps. -/
theorem smear_add_one_iff (n : Nat) : smear n + 1 = 2 ^ (n.log2 + 1) ↔ Gapless n := by
  have positive : 0 < 2 ^ (n.log2 + 1) := Nat.two_pow_pos _
  rw [Gapless, ← (smear_spreads n).eq_two_pow_sub_one_iff]
  omega

/-- The powers of two that are not below a number. -/
def powersFrom (n : Int) : Set Int := {power | ∃ k : Nat, power = (2 ^ k : Nat) ∧ n ≤ power}

/-- The least of them is found from the highest bit of the number before. -/
theorem isLeast_powersFrom {n : Nat} (several : 2 ≤ n) :
    IsLeast (powersFrom n) (2 ^ ((n - 1).log2 + 1) : Nat) := by
  -- Not to be below a number is to be above the number before.
  obtain ⟨⟨_, above⟩, least⟩ := Go.isLeast_two_pow (n - 1) (by omega)
  refine ⟨⟨_, rfl, by omega⟩, ?_⟩
  rintro power ⟨k, rfl, reaches⟩
  have below := least ⟨⟨k, rfl⟩, (by omega : n - 1 < 2 ^ k)⟩
  exact_mod_cast below

/-- Up to 2^62, rounding does not overflow. -/
theorem roundUpPowerOf2_of_not_power {n : Nat} (some : 0 < n) (small : n ≤ 2 ^ 62)
    (other : ¬ n.isPowerOfTwo) : roundUpPowerOf2 n = (smear (n - 1) + 1 : Nat) := by
  have below : smear (n - 1) < 2 ^ 62 := (smear_spreads (n - 1)).lt_two_pow (by omega)
  rw [roundUpPowerOf2, if_neg (by omega), Int.toNat_natCast,
    if_neg (mt (Nat.and_sub_one_eq_zero_iff_isPowerOfTwo (by omega)).mp other),
    Go.wrap64_of_fits (by omega) (by omega)]
  push_cast
  rfl

/-- A power of two is the least that is not below it. -/
theorem isLeast_of_power {n : Nat} (some : 0 < n) (power : n.isPowerOfTwo) :
    IsLeast (powersFrom n) (roundUpPowerOf2 n) := by
  rw [roundUpPowerOf2_of_power some power]
  obtain ⟨k, rfl⟩ := power
  refine ⟨⟨k, rfl, le_refl _⟩, ?_⟩
  rintro power ⟨_, _, above⟩
  exact above

/-- Any other number is rounded to the least power just if the number before has no gaps. -/
theorem isLeast_iff_gapless {n : Nat} (some : 0 < n) (small : n ≤ 2 ^ 62)
    (other : ¬ n.isPowerOfTwo) :
    IsLeast (powersFrom n) (roundUpPowerOf2 n) ↔ Gapless (n - 1) := by
  -- There is only one least power, which is one place above the highest bit.
  have several : 2 ≤ n := by
    by_contra few
    exact other ⟨0, by omega⟩
  have least := isLeast_powersFrom several
  rw [roundUpPowerOf2_of_not_power some small other, ← smear_add_one_iff]
  constructor
  · intro found
    exact_mod_cast found.unique least
  · intro same
    rwa [same]

/--
Rounding up gives the least power of two that is not below a number, if and only if the number is a
power itself or the number before has no gaps.

The shifts reach 32 places, so that up to 2^32 there is no room for a gap.
-/
theorem roundUpPowerOf2_least_iff {n : Int} (positive : 1 ≤ n) (small : n ≤ 2 ^ 62) :
    IsLeast (powersFrom n) (roundUpPowerOf2 n) ↔
      n.toNat.isPowerOfTwo ∨ Gapless (n.toNat - 1) := by
  obtain ⟨n, rfl⟩ := Int.eq_ofNat_of_zero_le (by omega : 0 ≤ n)
  rw [Int.toNat_natCast]
  by_cases power : n.isPowerOfTwo
  · exact iff_of_true (isLeast_of_power (by omega) power) (.inl power)
  · rw [or_iff_right power]
    exact isLeast_iff_gapless (by omega) (by omega) power

/-- With bits close enough to each other, a number beyond 32 bits is rounded right as well. -/
theorem roundUpPowerOf2_least_beyond :
    IsLeast (powersFrom (2 ^ 40 + 2 ^ 20 + 1)) (roundUpPowerOf2 (2 ^ 40 + 2 ^ 20 + 1)) :=
  (roundUpPowerOf2_least_iff (by norm_num) (by norm_num)).mpr (.inr (by decide +kernel))

/-- The number after 2^32 is rounded to one less than a power of two. -/
theorem roundUpPowerOf2_misses :
    roundUpPowerOf2 (2 ^ 32 + 1) = 2 ^ 33 - 1 ∧
      ¬ IsLeast (powersFrom (2 ^ 32 + 1)) (roundUpPowerOf2 (2 ^ 32 + 1)) := by
  have rounded : roundUpPowerOf2 (2 ^ 32 + 1) = 2 ^ 33 - 1 := by decide +kernel
  refine ⟨rounded, ?_⟩
  -- The result is odd and not one.
  rintro ⟨⟨k, power, _⟩, _⟩
  rw [rounded] at power
  cases k with
  | zero => exact absurd power (by norm_num)
  | succ k =>
    rw [Nat.pow_succ] at power
    omega

/-- No size up to 2^31 is rounded down. -/
theorem le_roundUpPowerOf2 {size : Int} (nonneg : 0 ≤ size) (small : size ≤ 2 ^ 31) :
    size ≤ roundUpPowerOf2 size := by
  obtain ⟨n, rfl⟩ := Int.eq_ofNat_of_zero_le nonneg
  rcases Nat.eq_zero_or_pos n with rfl | some
  · decide
  by_cases power : n.isPowerOfTwo
  · exact (isLeast_of_power some power).1.choose_spec.2
  · -- The number before is not zero, since one is a power of two.
    have before : n - 1 ≠ 0 := by
      intro zero
      exact power ⟨0, by omega⟩
    have gapless : Gapless (n - 1) := gapless_of_lt before (by omega)
    exact ((isLeast_iff_gapless some (by omega) power).mpr gapless).1.choose_spec.2

namespace SliceRequest

variable {past requests : List SliceRequest} {poolSize size : Int} {buf : ByteSlice}

/-- A request for a size asks for the class of that size. -/
theorem asked_concat_get :
    Asked (past ++ [.get size]) poolSize ↔
      Asked past poolSize ∨ roundUpPowerOf2 size = poolSize := by
  constructor
  · rintro ⟨other, member, rounded⟩
    rcases List.mem_append.mp member with earlier | last
    · exact .inl ⟨other, earlier, rounded⟩
    · cases List.mem_singleton.mp last
      exact .inr rounded
  · rintro (⟨other, member, rounded⟩ | rounded)
    · exact ⟨other, List.mem_append_left _ member, rounded⟩
    · exact ⟨size, List.mem_concat_self, rounded⟩

/-- A slice that is given back asks for nothing. -/
theorem asked_concat_put : Asked (past ++ [.put buf]) poolSize ↔ Asked past poolSize := by
  simp [Asked]

/-- What was filed stays filed. -/
theorem Filed.append (filed : Filed past buf) (more : List SliceRequest) :
    Filed (past ++ more) buf := by
  obtain ⟨earlier, later, rfl, nonempty, asked⟩ := filed
  exact ⟨earlier, later ++ more, by simp, nonempty, asked⟩

/-- A slice is filed as soon as it is given back. -/
theorem Filed.concat (nonempty : buf.len ≠ 0) (asked : Asked past (roundUpPowerOf2 buf.cap)) :
    Filed (past ++ [.put buf]) buf :=
  ⟨past, [], rfl, nonempty, asked⟩

/-- Requests stay within the slices if they are cut short. -/
theorem Roomy.of_concat {request : SliceRequest} (roomy : Roomy (past ++ [request])) :
    Roomy past := by
  rintro first size later rfl
  exact roomy first size (later ++ [request]) (by simp)

/-- Slices whose capacity is a power of two have room for every size of their class. -/
theorem roomy_of_powers (inRange : ∀ request ∈ requests, request.InRange)
    (powers : ∀ buf, .put buf ∈ requests → roundUpPowerOf2 buf.cap = buf.cap) :
    Roomy requests := by
  -- The capacity is the class, and a size is never above its class.
  rintro past size later rfl buf ⟨earlier, between, rfl, _, _⟩ same
  obtain ⟨nonneg, small⟩ := inRange (.get size) (by simp)
  calc size ≤ roundUpPowerOf2 size := le_roundUpPowerOf2 nonneg small
    _ = roundUpPowerOf2 buf.cap := same.symm
    _ = buf.cap := powers buf (by simp)

end SliceRequest

namespace ByteSlicePool

variable {bsp next : ByteSlicePool} {poolSize size : Int} {buffers : List ByteSlice}

/-- A slice waits in a class. -/
def Waits (bsp : ByteSlicePool) (poolSize : Int) (buf : ByteSlice) : Prop :=
  ∃ buffers, bsp.pools poolSize = some buffers ∧ buf ∈ buffers

/-- The slices of a class, if there is one, are those that wait. -/
theorem mem_getD_pools {buf : ByteSlice} :
    buf ∈ (bsp.pools poolSize).getD [] ↔ bsp.Waits poolSize buf := by
  cases found : bsp.pools poolSize with
  | none => simp [Waits, found]
  | some buffers => simp [Waits, found]

/-- The class that is replaced has the new slices, and the others have theirs. -/
theorem withClass_pools (bsp : ByteSlicePool) (poolSize : Int) (buffers : List ByteSlice)
    (other : Int) : (bsp.withClass poolSize buffers).pools other =
      if other = poolSize then some buffers else bsp.pools other :=
  Function.update_apply bsp.pools poolSize (some buffers) other

/-- In the class that is replaced the new slices wait, and in the others those from before. -/
theorem waits_withClass {other : Int} {buf : ByteSlice} :
    (bsp.withClass poolSize buffers).Waits other buf ↔
      if other = poolSize then buf ∈ buffers else bsp.Waits other buf := by
  simp only [Waits, withClass_pools]
  split
  · simp
  · rfl

/-- Replacing a class makes it, if it was not there. -/
theorem withClass_ne_none {other : Int} :
    (bsp.withClass poolSize buffers).pools other ≠ none ↔
      bsp.pools other ≠ none ∨ poolSize = other := by
  rw [withClass_pools]
  split
  case isTrue same => simp [same]
  case isFalse differs => simp [Ne.symm differs]

/-- What is taken is a new slice of the class or one that waits there, and the others stay. -/
theorem get_eq_some {reused : Option Nat} {answer : Option ByteSlice}
    (got : bsp.get size reused = some (next, answer)) :
    ∃ buf rest, next = bsp.withClass (roundUpPowerOf2 size) rest ∧ answer = buf.upTo size ∧
      (buf = .make (roundUpPowerOf2 size) ∨ bsp.Waits (roundUpPowerOf2 size) buf) ∧
      ∀ other ∈ rest, bsp.Waits (roundUpPowerOf2 size) other := by
  -- The runtime makes a new slice, or takes one out of the class.
  cases reused with
  | none =>
    cases got
    exact ⟨_, _, rfl, rfl, .inl rfl, fun _ listed => mem_getD_pools.mp listed⟩
  | some i =>
    obtain ⟨buf, found, same⟩ := Option.map_eq_some_iff.mp got
    cases same
    refine ⟨buf, _, rfl, rfl, .inr (mem_getD_pools.mp (List.mem_of_getElem? found)), ?_⟩
    exact fun _ listed => mem_getD_pools.mp (List.mem_of_mem_eraseIdx listed)

/-- A slice can be cut to any size up to its capacity. -/
theorem upTo_eq_some {buf : ByteSlice} (nonneg : 0 ≤ size) (fits : size ≤ buf.cap) :
    ∃ cut, buf.upTo size = some cut ∧ (cut.len : Int) = size := by
  rw [ByteSlice.upTo, dif_pos ⟨nonneg, fits⟩]
  exact ⟨_, rfl, Int.toNat_of_nonneg nonneg⟩

/-- A slice that waits in the class of a size can be the one that is taken for it. -/
theorem Waits.get {buf : ByteSlice} (waits : bsp.Waits (roundUpPowerOf2 size) buf) :
    ∃ i next, bsp.get size (some i) = some (next, buf.upTo size) := by
  obtain ⟨buffers, found, listed⟩ := waits
  obtain ⟨i, placed⟩ := List.mem_iff_getElem?.mp listed
  refine ⟨i, bsp.withClass (roundUpPowerOf2 size) (buffers.eraseIdx i), ?_⟩
  rw [ByteSlicePool.get, found, Option.getD_some, placed]
  rfl

/-- A slice that is not empty joins the others of its class. -/
theorem put_of_found {buf : ByteSlice} (nonempty : buf.len ≠ 0)
    (found : bsp.pools (roundUpPowerOf2 buf.cap) = some buffers) :
    bsp.put buf = bsp.withClass (roundUpPowerOf2 buf.cap) (buffers ++ [buf.full]) := by
  rw [put, if_neg nonempty, found]

/-- A slice that is empty or has no class is dropped. -/
theorem put_of_dropped {buf : ByteSlice}
    (dropped : buf.len = 0 ∨ bsp.pools (roundUpPowerOf2 buf.cap) = none) :
    bsp.put buf = bsp := by
  rw [put]
  split
  · rfl
  case isFalse nonempty => rw [dropped.resolve_left nonempty]

/-- Giving a slice back makes no class. -/
theorem put_ne_none {buf : ByteSlice} :
    (bsp.put buf).pools poolSize ≠ none ↔ bsp.pools poolSize ≠ none := by
  -- The class of a slice that is filed was there before.
  by_cases dropped : buf.len = 0 ∨ bsp.pools (roundUpPowerOf2 buf.cap) = none
  · rw [put_of_dropped dropped]
  obtain ⟨nonempty, there⟩ := not_or.mp dropped
  obtain ⟨buffers, found⟩ := Option.ne_none_iff_exists'.mp there
  rw [put_of_found nonempty found, withClass_ne_none, or_iff_left_iff_imp]
  rintro rfl
  exact there

/-- What waits after a slice was given back is that slice, if it was filed, or waited before. -/
theorem waits_put {buf other : ByteSlice} :
    (bsp.put buf).Waits poolSize other ↔ bsp.Waits poolSize other ∨
      buf.len ≠ 0 ∧ bsp.pools poolSize ≠ none ∧ roundUpPowerOf2 buf.cap = poolSize ∧
        other = buf.full := by
  by_cases dropped : buf.len = 0 ∨ bsp.pools (roundUpPowerOf2 buf.cap) = none
  · -- Nothing changes, and the slice was not filed.
    rw [put_of_dropped dropped, eq_comm, or_iff_left]
    rintro ⟨nonempty, there, rfl, _⟩
    exact there (dropped.resolve_left nonempty)
  obtain ⟨nonempty, there⟩ := not_or.mp dropped
  obtain ⟨buffers, found⟩ := Option.ne_none_iff_exists'.mp there
  rw [put_of_found nonempty found, waits_withClass]
  split
  case isTrue same => simp [same, Waits, found, nonempty]
  case isFalse differs => simp [Ne.symm differs]

end ByteSlicePool

namespace SliceUse

open SliceRequest

variable {use next : SliceUse} {past requests : List SliceRequest}

/-- A call of `Get` adds its answer to those before. -/
theorem step_get {size : Int} {reused : Option Nat}
    (taken : use.step (.get size reused) = some next) :
    (SliceRequest.get size).InRange ∧ ∃ answer,
      use.bsp.get size reused = some (next.bsp, answer) ∧
        next.answers = use.answers ++ [(size, answer)] := by
  obtain ⟨inRange, called⟩ := Option.ite_none_right_eq_some.mp taken
  obtain ⟨⟨bsp, answer⟩, got, rfl⟩ := Option.map_eq_some_iff.mp called
  exact ⟨inRange, answer, got, rfl⟩

/-- A call of `Put` leaves the answers as they are. -/
theorem step_put {buf : ByteSlice} (taken : use.step (.put buf) = some next) :
    next = { use with bsp := use.bsp.put buf } := by
  obtain ⟨_, called⟩ := Option.ite_none_right_eq_some.mp taken
  exact (Option.some.inj called).symm

/-- One more answer is as it should be if it is a slice of the size that was asked for. -/
theorem Served.concat (served : use.Served) {size : Int} {answer : Option ByteSlice}
    (listed : next.answers = use.answers ++ [(size, answer)])
    (cut : ∃ buf, answer = some buf ∧ (buf.len : Int) = size) : next.Served := by
  intro other member
  rw [listed] at member
  rcases List.mem_append.mp member with earlier | last
  · exact served other earlier
  · rw [List.mem_singleton.mp last]
    exact cut

section History

/-- The classes are those that were asked for, and only slices that were filed wait in them. -/
structure Recorded (past : List SliceRequest) (bsp : ByteSlicePool) : Prop where
  made : ∀ poolSize, bsp.pools poolSize ≠ none ↔ Asked past poolSize
  filed : ∀ poolSize buf, bsp.Waits poolSize buf →
    ∃ given, Filed past given ∧ roundUpPowerOf2 given.cap = poolSize ∧ buf = given.full

/-- A call of `Get` makes its class, and leaves slices that were filed. -/
theorem Recorded.get (recorded : Recorded past use.bsp) {size : Int} {reused : Option Nat}
    {bsp : ByteSlicePool} {answer : Option ByteSlice}
    (got : use.bsp.get size reused = some (bsp, answer)) :
    Recorded (past ++ [.get size]) bsp := by
  obtain ⟨_, rest, rfl, _, _, kept⟩ := ByteSlicePool.get_eq_some got
  constructor
  case made =>
    intro poolSize
    rw [ByteSlicePool.withClass_ne_none, recorded.made, asked_concat_get]
  case filed =>
    intro poolSize buf waits
    have before : use.bsp.Waits poolSize buf := by
      rw [ByteSlicePool.waits_withClass] at waits
      split at waits
      case isTrue same =>
        rw [same]
        exact kept buf waits
      case isFalse => exact waits
    obtain ⟨given, filed, rest⟩ := recorded.filed poolSize buf before
    exact ⟨given, filed.append _, rest⟩

/-- A call of `Put` files a slice if its class was asked for. -/
theorem Recorded.put (recorded : Recorded past use.bsp) (buf : ByteSlice) :
    Recorded (past ++ [.put buf]) (use.bsp.put buf) := by
  constructor
  case made =>
    intro poolSize
    rw [ByteSlicePool.put_ne_none, recorded.made, asked_concat_put]
  case filed =>
    intro poolSize other waits
    rcases ByteSlicePool.waits_put.mp waits with before | ⟨nonempty, there, rfl, rfl⟩
    · obtain ⟨given, filed, rest⟩ := recorded.filed poolSize other before
      exact ⟨given, filed.append _, rest⟩
    · exact ⟨buf, .concat nonempty ((recorded.made _).mp there), rfl, rfl⟩

/-- A pool is what has been asked of it. -/
theorem recorded_exec {calls : List SliceCall} (ran : exec step start calls = some use) :
    Recorded (calls.map SliceCall.request) use.bsp := by
  refine exec_history (fun past use => Recorded (past.map SliceCall.request) use.bsp) ?_ ?_ ran
  · exact ⟨fun _ => by simp [start, ByteSlicePool.new, Asked],
      fun _ _ ⟨_, found, _⟩ => (nomatch found)⟩
  · rintro past use (⟨size, reused⟩ | buf) next _ recorded taken
    · obtain ⟨_, answer, got, _⟩ := step_get taken
      rw [List.map_append]
      exact recorded.get got
    · obtain rfl := step_put taken
      rw [List.map_append]
      exact recorded.put buf

/-- A size is served if each slice filed in its class before has room for it. -/
theorem Recorded.serves (recorded : Recorded past use.bsp) {size : Int} {reused : Option Nat}
    (inRange : (SliceRequest.get size).InRange) (roomy : Roomy (past ++ [.get size]))
    {bsp : ByteSlicePool} {answer : Option ByteSlice}
    (got : use.bsp.get size reused = some (bsp, answer)) :
    ∃ cut, answer = some cut ∧ (cut.len : Int) = size := by
  obtain ⟨nonneg, small⟩ := inRange
  obtain ⟨buf, _, _, rfl, taken, _⟩ := ByteSlicePool.get_eq_some got
  refine ByteSlicePool.upTo_eq_some nonneg ?_
  rcases taken with rfl | waits
  · -- A new slice has the size of the class.
    exact (le_roundUpPowerOf2 nonneg small).trans (Int.self_le_toNat _)
  · obtain ⟨given, filed, same, rfl⟩ := recorded.filed _ _ waits
    exact roomy past size [] rfl given filed same

/-- Requests that the slices have room for are served. -/
theorem served_of_roomy {calls : List SliceCall} (ran : exec step start calls = some use)
    (roomy : Roomy (calls.map SliceCall.request)) : use.Served := by
  -- What the pool holds before each call is known from the requests up to then.
  refine exec_history (fun past use => Roomy (past.map SliceCall.request) → use.Served) ?_ ?_
    ran roomy
  · exact fun _ _ member => (nomatch member)
  · intro past use call next ran served taken roomy
    rw [List.map_append] at roomy
    have before := served roomy.of_concat
    cases call with
    | get size reused =>
      obtain ⟨inRange, answer, got, listed⟩ := step_get taken
      exact before.concat listed ((recorded_exec ran).serves inRange roomy got)
    | put buf =>
      obtain rfl := step_put taken
      exact before

end History

section Fresh

/-- What was answered and what waits in one use of a pool is still there in another. -/
structure Keeps (use final : SliceUse) : Prop where
  answers : use.answers ⊆ final.answers
  waiting : ∀ poolSize buf, use.bsp.Waits poolSize buf → final.bsp.Waits poolSize buf

/-- Nothing goes missing if no slice is used again. -/
theorem step_fresh (use : SliceUse) {request : SliceRequest} (inRange : request.InRange) :
    ∃ next, use.step request.fresh = some next ∧ use.Keeps next := by
  cases request with
  | get size =>
    -- The class is replaced by the slices that it has.
    refine ⟨_, if_pos inRange, List.subset_append_left _ _, ?_⟩
    intro poolSize buf waits
    rw [ByteSlicePool.waits_withClass]
    split
    case isTrue same =>
      rw [same] at waits
      exact ByteSlicePool.mem_getD_pools.mpr waits
    case isFalse => exact waits
  | put buf =>
    exact ⟨_, if_pos inRange, List.Subset.refl _,
      fun _ _ waits => ByteSlicePool.waits_put.mpr (.inl waits)⟩

/-- All requests can be carried out without using a slice again. -/
theorem exec_fresh (use : SliceUse) (inRange : ∀ request ∈ requests, request.InRange) :
    ∃ final, exec step use (requests.map fresh) = some final ∧ use.Keeps final := by
  induction requests generalizing use with
  | nil => exact ⟨use, rfl, List.Subset.refl _, fun _ _ waits => waits⟩
  | cons request rest ih =>
    obtain ⟨first, others⟩ := List.forall_mem_cons.mp inRange
    obtain ⟨next, taken, kept⟩ := step_fresh use first
    obtain ⟨final, ran, later⟩ := ih next others
    refine ⟨final, exec_cons_eq_some.mpr ⟨next, taken, ran⟩, ?_, ?_⟩
    · exact List.Subset.trans kept.answers later.answers
    · exact fun poolSize buf waits => later.waiting _ _ (kept.waiting poolSize buf waits)

/-- The calls without slices used again are for what was asked. -/
theorem map_request_fresh (requests : List SliceRequest) :
    (requests.map fresh).map SliceCall.request = requests := by
  have inverse : SliceCall.request ∘ fresh = id := by
    funext request
    cases request <;> rfl
  rw [List.map_map, inverse, List.map_id]

/-- A slice that was filed waits for as long as no slice is used again. -/
theorem waits_of_filed {buf : ByteSlice} (inRange : ∀ request ∈ past, request.InRange)
    (filed : Filed past buf) :
    ∃ use, exec step start (past.map fresh) = some use ∧
      use.bsp.Waits (roundUpPowerOf2 buf.cap) buf.full := by
  obtain ⟨earlier, later, rfl, nonempty, asked⟩ := filed
  obtain ⟨before, rest⟩ := List.forall_mem_append.mp inRange
  obtain ⟨given, after⟩ := List.forall_mem_cons.mp rest
  -- The class is there when the slice is given back.
  obtain ⟨first, ran, _⟩ := exec_fresh start before
  have there : first.bsp.pools (roundUpPowerOf2 buf.cap) ≠ none := by
    refine ((recorded_exec ran).made _).mpr ?_
    rwa [map_request_fresh]
  let second : SliceUse := { first with bsp := first.bsp.put buf }
  have gives : first.step (.put buf) = some second := if_pos given
  have waits : second.bsp.Waits (roundUpPowerOf2 buf.cap) buf.full :=
    ByteSlicePool.waits_put.mpr (.inr ⟨nonempty, there, rfl, rfl⟩)
  obtain ⟨final, more, kept⟩ := exec_fresh second after
  refine ⟨final, ?_, kept.waiting _ _ waits⟩
  rw [List.map_append]
  exact exec_trans ran (exec_cons_eq_some.mpr ⟨second, gives, more⟩)

/-- A slice without room for a later size of its class may be the one that is taken for it. -/
theorem unserved_of_short {later : List SliceRequest} {size : Int} {buf : ByteSlice}
    (inRange : ∀ request ∈ past ++ .get size :: later, request.InRange) (filed : Filed past buf)
    (same : roundUpPowerOf2 buf.cap = roundUpPowerOf2 size) (short : buf.cap < size) :
    ¬ AlwaysServed (past ++ .get size :: later) := by
  -- The slice waits until it is taken, and what was answered then stays.
  obtain ⟨before, rest⟩ := List.forall_mem_append.mp inRange
  obtain ⟨asked, after⟩ := List.forall_mem_cons.mp rest
  obtain ⟨use, ran, waits⟩ := waits_of_filed before filed
  rw [same] at waits
  obtain ⟨i, bsp, got⟩ := waits.get
  have cut : buf.full.upTo size = none := dif_neg fun fits => absurd fits.2 (not_le.mpr short)
  rw [cut] at got
  let next : SliceUse := ⟨bsp, use.answers ++ [(size, none)]⟩
  have taken : use.step (.get size (some i)) = some next := by
    rw [step, SliceCall.request, if_pos asked, got]
    rfl
  obtain ⟨final, more, kept⟩ := exec_fresh next after
  intro always
  have served : final.Served := by
    refine always (past.map fresh ++ .get size (some i) :: later.map fresh) final ?_ ?_
    · rw [List.map_append, List.map_cons, map_request_fresh, map_request_fresh]
      rfl
    · exact exec_trans ran (exec_cons_eq_some.mpr ⟨next, taken, more⟩)
  obtain ⟨_, other, _⟩ := served (size, none) (kept.answers (by simp [next]))
  cases other

end Fresh

/--
A pool of slices serves all requests, whichever slices are used again, if and only if each slice
that is filed has room for the later sizes of its class.
-/
theorem sizes_served_iff (inRange : ∀ request ∈ requests, request.InRange) :
    AlwaysServed requests ↔ Roomy requests := by
  constructor
  · rintro always past size later rfl buf filed same
    by_contra short
    exact unserved_of_short inRange filed same (not_le.mp short) always
  · rintro roomy calls use rfl ran
    exact served_of_roomy ran roomy

/-- A slice of eight bytes is given back between two requests. -/
def ownSlice : List SliceRequest := [.get 8, .put ⟨8, 8, Nat.le_refl 8⟩, .get 7]

/-- With slices of the pool itself every request is served. -/
theorem sizes_served_own_slice : AlwaysServed ownSlice := by
  have inRange : ∀ request ∈ ownSlice, request.InRange := by decide
  refine (sizes_served_iff inRange).mpr (roomy_of_powers inRange ?_)
  intro buf member
  obtain rfl : buf = ⟨8, 8, Nat.le_refl 8⟩ := by simpa [ownSlice] using member
  rfl

/-- A slice of five bytes is given back between two requests. -/
def foreignSlice : List SliceCall :=
  [.get 8 none, .put ⟨5, 5, Nat.le_refl 5⟩, .get 7 (some 0)]

/-- A request for seven bytes gets the five that were filed with the slices of eight. -/
theorem foreign_slice_too_short :
    ∃ use, exec step start foreignSlice = some use ∧ use.answers.getLast? = some (7, none) ∧
      ¬ use.Served := by
  have ran : exec step start foreignSlice = some _ := rfl
  refine ⟨_, ran, rfl, ?_⟩
  intro served
  obtain ⟨cut, other, _⟩ := served (7, none) (List.mem_of_getLast? rfl)
  cases other

end SliceUse

end Balance
