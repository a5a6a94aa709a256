import Mathlib.Data.List.Basic
import Mathlib.Data.Rat.Floor
import Mathlib.Logic.Function.Basic

/-! Go's integers and binary search, and maps filled by writing one key after the other. -/

namespace Go

/-- The value of a 64-bit integer after an operation that may have overflowed. -/
def wrap64 (value : Int) : Int := Int.bmod value (2 ^ 64)

/-- The value of a 32-bit integer after a conversion that may have dropped higher bits. -/
def wrap32 (value : Int) : Int := Int.bmod value (2 ^ 32)

/-- Values that a 64-bit integer holds are not changed. -/
theorem wrap64_of_fits {value : Int} (low : -2 ^ 63 ≤ value) (high : value < 2 ^ 63) :
    wrap64 value = value :=
  Int.bmod_eq_of_le (by omega) (by omega)

/-- Zero does not overflow. -/
theorem wrap64_zero : wrap64 0 = 0 := by decide

/-- A value that is not negative only gets less by overflowing. -/
theorem wrap64_le {value : Int} (nonneg : 0 ≤ value) : wrap64 value ≤ value := by
  unfold wrap64
  rw [Int.bmod_def]
  split <;> omega

/-- Overflow before an addition makes no difference to the sum. -/
theorem wrap64_add (value more : Int) : wrap64 (wrap64 value + more) = wrap64 (value + more) :=
  Int.bmod_add_bmod

/-- A value that falls short of the range comes out at its other end. -/
theorem wrap64_of_below {value : Int} (low : -2 ^ 64 - 2 ^ 63 ≤ value) (high : value < -2 ^ 63) :
    wrap64 value = value + 2 ^ 64 := by
  -- Adding the modulus once brings the value into range.
  have shifted : wrap64 (value + 2 ^ 64) = wrap64 value := Int.add_bmod_right value (2 ^ 64)
  rw [← shifted]
  exact wrap64_of_fits (by omega) (by omega)

/--
The 64-bit integer that a floating-point number, read as exact, is converted to.

Go leaves a number that does not fit to the machine, and amd64 makes it the least integer.
-/
def toInt64 (number : ℚ) : Int :=
  let whole := if 0 ≤ number then ⌊number⌋ else ⌈number⌉
  if -2 ^ 63 ≤ whole ∧ whole < 2 ^ 63 then whole else -2 ^ 63

/-- A number that is not negative and fits loses its fraction. -/
theorem toInt64_of_fits {number : ℚ} (nonneg : 0 ≤ number) (fits : number < 2 ^ 63) :
    toInt64 number = ⌊number⌋ := by
  -- Neither end of the range is passed.
  have low : 0 ≤ ⌊number⌋ := Int.floor_nonneg.mpr nonneg
  have high : ⌊number⌋ < 2 ^ 63 := Int.floor_lt.mpr (by exact_mod_cast fits)
  simp only [toInt64, if_pos nonneg]
  rw [if_pos ⟨by omega, high⟩]

/-- A number beyond the range becomes negative. -/
theorem toInt64_of_beyond {number : ℚ} (beyond : 2 ^ 63 ≤ number) :
    toInt64 number = -2 ^ 63 := by
  -- Its whole part does not fit.
  have nonneg : 0 ≤ number := le_trans (by norm_num) beyond
  have high : 2 ^ 63 ≤ ⌊number⌋ := Int.le_floor.mpr (by exact_mod_cast beyond)
  simp only [toInt64, if_pos nonneg]
  rw [if_neg]
  omega

/-- A number that is not negative comes out as its whole part at most. -/
theorem toInt64_le_floor {number : ℚ} (nonneg : 0 ≤ number) : toInt64 number ≤ ⌊number⌋ := by
  rcases lt_or_ge number (2 ^ 63) with within | beyond
  · rw [toInt64_of_fits nonneg within]
  · rw [toInt64_of_beyond beyond]
    exact le_trans (by decide) (Int.floor_nonneg.mpr nonneg)

/-- A number that is not positive does not come out positive. -/
theorem toInt64_nonpos {number : ℚ} (nonpos : number ≤ 0) : toInt64 number ≤ 0 := by
  have low : ⌊number⌋ ≤ 0 := by exact_mod_cast Int.floor_le_floor nonpos
  have high : ⌈number⌉ ≤ 0 := Int.ceil_le.mpr (by exact_mod_cast nonpos)
  simp only [toInt64]
  split <;> split <;> omega

/-- Every number comes out within the range. -/
theorem toInt64_lt (number : ℚ) : toInt64 number < 2 ^ 63 := by
  simp only [toInt64]
  split <;> omega

/-- A number that is not negative comes out between zero and a bound if it is below the next. -/
theorem toInt64_mem_iff {number : ℚ} {bound : Int} (nonneg : 0 ≤ number) (fits : bound < 2 ^ 63) :
    0 ≤ toInt64 number ∧ toInt64 number ≤ bound ↔ number < bound + 1 := by
  rcases lt_or_ge number (2 ^ 63) with within | beyond
  · -- The whole part is within the bound as long as the number is short of the next one.
    have upper : ⌊number⌋ ≤ bound ↔ number < bound + 1 := by
      rw [← Int.lt_add_one_iff, Int.floor_lt, Int.cast_add, Int.cast_one]
    rw [toInt64_of_fits nonneg within, upper]
    exact and_iff_right (Int.floor_nonneg.mpr nonneg)
  · -- A number that does not fit comes out negative, and is beyond every bound.
    have large : ((bound + 1 : Int) : ℚ) ≤ number := by
      refine le_trans ?_ beyond
      exact_mod_cast Int.add_one_le_of_lt fits
    rw [toInt64_of_beyond beyond]
    refine iff_of_false (by omega) ?_
    push_cast at large
    exact not_lt.mpr large

section Search

variable (f : Nat → Bool)

/-- The loop of `sort.Search` between two positions, with one unit of fuel for each round. -/
def searchBetween : Nat → Nat → Nat → Nat
  | 0, low, _ => low
  | fuel + 1, low, high =>
    if low < high then
      let middle := (low + high) / 2
      if f middle then searchBetween fuel low middle else searchBetween fuel (middle + 1) high
    else low

/-- The first of a number of positions at which a monotone test holds, or that number. -/
def search (n : Nat) : Nat := searchBetween f n 0 n

/-- A test that holds everywhere holds at the first position. -/
theorem searchBetween_of_all {low high : Nat} (all : ∀ i, f i = true) {fuel : Nat}
    (enough : high - low ≤ fuel) : searchBetween f fuel low high = low := by
  -- Every round keeps the lower half, whose lower end never moves.
  induction fuel generalizing low high with
  | zero => rfl
  | succ fuel ih =>
    simp only [searchBetween, all, if_true]
    split
    · exact ih (by omega)
    · rfl

/-- The search ends between a position that fails the test and one that passes it. -/
theorem searchBetween_spec {low high : Nat} (ordered : low ≤ high) {fuel : Nat}
    (enough : high - low ≤ fuel) :
    searchBetween f fuel low high ≤ high ∧
      (low < searchBetween f fuel low high → f (searchBetween f fuel low high - 1) = false) ∧
      (searchBetween f fuel low high < high → f (searchBetween f fuel low high) = true) ∧
      low ≤ searchBetween f fuel low high := by
  -- Each round moves one end to the middle, and the test there is what is asked of that end.
  induction fuel generalizing low high with
  | zero =>
    simp only [searchBetween]
    exact ⟨ordered, by omega, by omega, Nat.le_refl low⟩
  | succ fuel ih =>
    by_cases room : low < high
    · simp only [searchBetween, if_pos room]
      cases passed : f ((low + high) / 2) with
      | true =>
        obtain ⟨upper, before, at_, lower⟩ := ih (show low ≤ (low + high) / 2 by omega)
          (by omega)
        rw [if_pos rfl]
        refine ⟨by omega, before, ?_, lower⟩
        intro below
        rcases Nat.lt_or_ge (searchBetween f fuel low ((low + high) / 2)) ((low + high) / 2)
          with inside | end_
        · exact at_ inside
        · rw [Nat.le_antisymm upper end_, passed]
      | false =>
        obtain ⟨upper, before, at_, lower⟩ := ih (show (low + high) / 2 + 1 ≤ high by omega)
          (by omega)
        rw [if_neg Bool.false_ne_true]
        refine ⟨upper, ?_, at_, by omega⟩
        intro above
        rcases Nat.lt_or_ge ((low + high) / 2 + 1)
          (searchBetween f fuel ((low + high) / 2 + 1) high) with inside | end_
        · exact before inside
        · rw [Nat.le_antisymm end_ lower, Nat.add_sub_cancel, passed]
    · simp only [searchBetween, if_neg room]
      exact ⟨ordered, by omega, by omega, Nat.le_refl low⟩

/-- The position found passes the test, if it is one, and the position before it fails. -/
theorem search_spec (n : Nat) :
    search f n ≤ n ∧ (0 < search f n → f (search f n - 1) = false) ∧
      (search f n < n → f (search f n) = true) := by
  obtain ⟨upper, before, at_, _⟩ :=
    searchBetween_spec f (Nat.zero_le n) (Nat.le_of_eq (Nat.sub_zero n))
  exact ⟨upper, before, at_⟩

end Search

section Maps

variable {κ ν : Type*} [DecidableEq κ]

/-- Write the entries into a map in order. -/
def writeAll (entries : List (κ × ν)) (contents : κ → Option ν) : κ → Option ν :=
  entries.foldl (fun contents entry => Function.update contents entry.1 (some entry.2)) contents

/-- The first entry is written before the others. -/
theorem writeAll_cons (entry : κ × ν) (rest : List (κ × ν)) (contents : κ → Option ν) :
    writeAll (entry :: rest) contents =
      writeAll rest (Function.update contents entry.1 (some entry.2)) := rfl

/-- Writing goes on from what was written before. -/
theorem writeAll_append (first second : List (κ × ν)) (contents : κ → Option ν) :
    writeAll (first ++ second) contents = writeAll second (writeAll first contents) := by
  -- A fold over a concatenation is two folds in a row.
  simp [writeAll]

/-- Keys that no entry has keep their value. -/
theorem writeAll_of_not_mem {entries : List (κ × ν)} {key : κ}
    (absent : ∀ entry ∈ entries, entry.1 ≠ key) (contents : κ → Option ν) :
    writeAll entries contents key = contents key := by
  -- The first entry writes elsewhere, and so do all later ones.
  induction entries generalizing contents with
  | nil => rfl
  | cons entry rest ih =>
    have other : key ≠ entry.1 := fun same => absent entry (by simp) same.symm
    have kept := ih (fun later member => absent later (by simp [member]))
      (Function.update contents entry.1 (some entry.2))
    rw [Function.update_of_ne other] at kept
    exact kept

/-- A written key holds the value of one of its entries. -/
theorem writeAll_mem {entries : List (κ × ν)} {key : κ} {value : ν}
    (contents : κ → Option ν) (found : writeAll entries contents key = some value) :
    (key, value) ∈ entries ∨ contents key = some value := by
  -- Either a later entry wrote the value, or it was there when they began.
  induction entries generalizing contents with
  | nil => exact .inr found
  | cons entry rest ih =>
    rw [writeAll_cons] at found
    rcases ih _ found with later | earlier
    · exact .inl (by simp [later])
    · by_cases here : key = entry.1
      · subst here
        rw [Function.update_self] at earlier
        obtain rfl := Option.some.inj earlier
        exact .inl (by simp)
      · rw [Function.update_of_ne here] at earlier
        exact .inr earlier

/-- A key that some entry has holds the value of one of its entries afterwards. -/
theorem writeAll_of_mem {entries : List (κ × ν)} {key : κ}
    (present : ∃ entry ∈ entries, entry.1 = key) (contents : κ → Option ν) :
    ∃ value, (key, value) ∈ entries ∧ writeAll entries contents key = some value := by
  -- The last entry of the key decides.
  induction entries generalizing contents with
  | nil => simp at present
  | cons entry rest ih =>
    by_cases again : ∃ later ∈ rest, later.1 = key
    · obtain ⟨value, member, written⟩ :=
        ih again (Function.update contents entry.1 (some entry.2))
      exact ⟨value, List.mem_cons_of_mem entry member, written⟩
    · -- Nothing later is written to the key, so the first entry stays.
      have absent : ∀ later ∈ rest, later.1 ≠ key := by
        intro later member equal
        exact again ⟨later, member, equal⟩
      obtain ⟨found, member, rfl⟩ := present
      rcases List.mem_cons.mp member with rfl | later
      · refine ⟨found.2, List.mem_cons_self, ?_⟩
        rw [writeAll_cons, writeAll_of_not_mem absent, Function.update_self]
      · exact absurd rfl (absent found later)

/-- Entries that all have one value leave that value at each of their keys. -/
theorem writeAll_of_forall_eq {entries : List (κ × ν)} {key : κ} {value : ν}
    (present : ∃ entry ∈ entries, entry.1 = key) (same : ∀ entry ∈ entries, entry.2 = value)
    (contents : κ → Option ν) : writeAll entries contents key = some value := by
  -- Whichever entry decides, it has the one value.
  obtain ⟨found, member, written⟩ := writeAll_of_mem present contents
  rw [written, ← same (key, found) member]

end Maps

end Go
