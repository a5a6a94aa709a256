import Mathlib.Data.Nat.Find

/-! Rounds of work that a ticker sets off, where ticks that come during a round but one are lost. -/

namespace Machine

/-- The first tick after a time. -/
def nextTick (created interval time : Int) : Int :=
  created + interval * ((time - created) / interval + 1)

/--
When the rounds of a loop begin and end.

A round is over after one interval, and the next begins with the first tick since, or at once if
that has come already. Each of these may happen late, by a lag.
-/
structure Ticked where
  interval : Int
  lag : Int
  created : Int
  began : Nat → Int
  ended : Nat → Int
  positive : 0 < interval
  nonneg : 0 ≤ lag
  first : created ≤ began 0 ∧ began 0 ≤ created + lag
  lasts : ∀ k, began k ≤ ended k ∧ ended k ≤ began k + interval + lag
  resumes : ∀ k, max (ended k) (nextTick created interval (began k)) ≤ began (k + 1) ∧
    began (k + 1) ≤ max (ended k) (nextTick created interval (began k)) + lag

/-- The next tick comes later, by one interval at most. -/
theorem nextTick_bounds (created time : Int) {interval : Int} (positive : 0 < interval) :
    time < nextTick created interval time ∧
      nextTick created interval time ≤ time + interval := by
  -- The ticks so far take no longer than the time that has passed, and one more takes longer.
  have above := Int.lt_ediv_add_one_mul_self (time - created) positive
  have below := Int.ediv_mul_le (time - created) (Int.ne_of_gt positive)
  rw [nextTick, Int.mul_add, Int.mul_one, Int.mul_comm]
  rw [Int.add_mul, Int.one_mul] at above
  omega

namespace Ticked

variable (loop : Ticked)

/-- The longest time between two rounds. -/
def period : Int := loop.interval + 2 * loop.lag

/-- Each round begins later than the one before. -/
theorem began_lt (k : Nat) : loop.began k < loop.began (k + 1) := by
  have tick := (nextTick_bounds loop.created (loop.began k) loop.positive).1
  have late := (loop.resumes k).1
  omega

/-- Each round begins at most a period after the one before. -/
theorem began_le (k : Nat) : loop.began (k + 1) ≤ loop.began k + loop.period := by
  have tick := (nextTick_bounds loop.created (loop.began k) loop.positive).2
  have lasts := (loop.lasts k).2
  have lag := loop.nonneg
  have next := (loop.resumes k).2
  rw [period]
  omega

/-- No later round begins or ends earlier. -/
theorem began_ended_mono (k count : Nat) :
    loop.began k ≤ loop.began (k + count) ∧ loop.ended k ≤ loop.ended (k + count) := by
  -- A round is over before the next begins, and so before that ends.
  induction count with
  | zero => exact ⟨Int.le_refl _, Int.le_refl _⟩
  | succ count ih =>
    have began := loop.began_lt (k + count)
    have next := (loop.resumes (k + count)).1
    have lasts := (loop.lasts (k + count + 1)).1
    rw [← Nat.add_assoc]
    omega

/-- So many rounds later, so many periods have passed at most. -/
theorem began_add_le (k count : Nat) :
    loop.began (k + count) ≤ loop.began k + count * loop.period := by
  induction count with
  | zero => simp
  | succ count ih =>
    have next := loop.began_le (k + count)
    rw [← Nat.add_assoc, Int.natCast_add, Int.add_mul, Int.natCast_one, Int.one_mul]
    omega

/-- Some round is the first since a time, and it begins within a period. -/
theorem exists_first {since : Int} (started : loop.created ≤ since) :
    ∃ k, since ≤ loop.began k ∧ loop.began k ≤ since + loop.period := by
  classical
  -- Rounds begin later and later.
  have grows (k : Nat) : loop.created + k ≤ loop.began k := by
    induction k with
    | zero => simpa using loop.first.1
    | succ k ih =>
      have next := loop.began_lt k
      omega
  have reached : ∃ k, since ≤ loop.began k :=
    ⟨(since - loop.created).toNat, by have := grows (since - loop.created).toNat; omega⟩
  refine ⟨Nat.find reached, Nat.find_spec reached, ?_⟩
  have lag := loop.nonneg
  have positive := loop.positive
  cases found : Nat.find reached with
  | zero =>
    have first := loop.first.2
    rw [period]
    omega
  | succ k =>
    -- The round before began earlier.
    have before := Nat.find_min reached (m := k) (by omega)
    have next := loop.began_le k
    omega

/-- Some time after a moment, so many rounds that began since then are over. -/
theorem exists_rounds {since time : Int} {count n : Nat} (some : 1 ≤ count)
    (started : loop.created ≤ since) (late : since + (count + 1) * loop.period ≤ time)
    (unfinished : time < loop.ended n) :
    ∃ k, k + count ≤ n ∧ ∀ j, k ≤ j → since ≤ loop.began j := by
  obtain ⟨k, after, soon⟩ := loop.exists_first started
  refine ⟨k, ?_, ?_⟩
  · -- The last of them is over in time, and later rounds are over later.
    by_contra few
    obtain ⟨last, rfl⟩ := Nat.exists_eq_add_of_le' some
    obtain ⟨more, same⟩ := Nat.exists_eq_add_of_le (show n ≤ k + last by omega)
    have earlier := (loop.began_ended_mono n more).2
    have lasts := (loop.lasts (k + last)).2
    have began := loop.began_add_le k last
    have lag := loop.nonneg
    rw [← same] at earlier
    rw [Int.natCast_add, Int.natCast_one, Int.add_mul, Int.add_mul, Int.one_mul] at late
    have within : loop.period = loop.interval + 2 * loop.lag := rfl
    omega
  · intro j later
    obtain ⟨more, rfl⟩ := Nat.exists_eq_add_of_le later
    exact Int.le_trans after (loop.began_ended_mono k more).1

end Ticked

end Machine
