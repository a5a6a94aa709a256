import Balance.Resilience.RetryOutcome
import Mathlib.Algebra.BigOperators.Group.Finset.Basic
import Mathlib.Algebra.BigOperators.Intervals

/-! When a call with retries gives up because its context is done. -/

namespace Balance

namespace RetryPolicy

variable {ε : Type*} {policy : RetryPolicy ε} {rounds : Nat → RetryRound ε} {done : Int}

/-- The delay after a round. -/
def delayAt (policy : RetryPolicy ε) (rounds : Nat → RetryRound ε) (n : Nat) : Int :=
  policy.calculateBackoff (n + 1) (rounds n).draw

/-- When the rounds of a loop happen, where the context is done at some time. -/
structure RetryClock (policy : RetryPolicy ε) (rounds : Nat → RetryRound ε) (done : Int) where
  begun : Nat → Int
  ended : Nat → Int
  woken : Nat → Int
  called : ∀ n, begun n ≤ ended n
  -- The context is asked as soon as the function has returned.
  asked : ∀ n, (rounds n).cancelled = none ↔ ended n < done
  waited : ∀ n, ended n ≤ woken n
  -- A wait ends with the delay, even if the context is done as well by then, or with the context.
  ripened : ∀ n, (rounds n).interrupted = none → ended n + policy.delayAt rounds n ≤ woken n
  broken : ∀ n, (rounds n).interrupted ≠ none → done ≤ woken n
  resumed : ∀ n, woken n < begun (n + 1)

/-- A round leads to another one. -/
def Continues (policy : RetryPolicy ε) (rounds : Nat → RetryRound ε) (n : Nat) : Prop :=
  ¬ policy.Ends rounds n ∧ (rounds n).cancelled = none ∧ (rounds n).interrupted = none

/-- What is announced in a round that gets as far as its delay. -/
def announcement (policy : RetryPolicy ε) (rounds : Nat → RetryRound ε) (n : Nat) :
    List (Nat × ε × Int) :=
  if policy.onRetry then
    (rounds n).result.toList.map fun err => (n + 1, err, policy.delayAt rounds n)
  else []

/-- A round that does not end the loop by itself leaves it to the context. -/
theorem retryFrom_of_ongoing {n : Nat} (ongoing : ¬ policy.Ends rounds n) (fuel : Nat)
    (announced : List (Nat × ε × Int)) :
    policy.retryFrom rounds (fuel + 1) n announced =
      let told := announced ++ policy.announcement rounds n
      (rounds n).cancelled.elim
        ((rounds n).interrupted.elim (policy.retryFrom rounds fuel (n + 1) told)
          fun cause => some ⟨n + 1, told, some (.cancelledInBackoff cause)⟩)
        fun cause => some ⟨n + 1, announced, some (.cancelled (n + 1) cause)⟩ := by
  -- Its result is an error worth another call, and there may be another one.
  obtain ⟨unsettled, more⟩ := not_or.mp ongoing
  cases result : (rounds n).result with
  | none => simp [result, settles] at unsettled
  | some err =>
    have worth : ¬ policy.refuses err = true := by simpa [result, settles] using unsettled
    have told : (if policy.onRetry then
        announced ++ [(n + 1, err, policy.calculateBackoff (n + 1) (rounds n).draw)]
          else announced) = announced ++ policy.announcement rounds n := by
      cases tells : policy.onRetry <;> simp [announcement, tells, result, delayAt]
    simp only [retryFrom, result, told, if_neg worth, if_neg more]
    cases (rounds n).cancelled with
    | some cause => rfl
    | none => cases (rounds n).interrupted <;> rfl

/-- The loop goes on up to a round if all before it lead to another one. -/
theorem retryFrom_reaches {last : Nat} (continues : ∀ n < last, policy.Continues rounds n)
    (fuel : Nat) : policy.retryWithContext rounds (fuel + last) =
      policy.retryFrom rounds fuel last
        ((List.range last).flatMap (policy.announcement rounds)) := by
  -- Each round takes one unit of fuel and makes its announcement.
  induction last generalizing fuel with
  | zero => rfl
  | succ last ih =>
    obtain ⟨ongoing, uncancelled, uninterrupted⟩ := continues last (Nat.lt_succ_self last)
    have split : fuel + (last + 1) = fuel + 1 + last := by omega
    rw [split, ih (fun n early => continues n (by omega)), retryFrom_of_ongoing ongoing,
      uncancelled, uninterrupted, List.range_succ, List.flatMap_append, List.flatMap_singleton]
    rfl

namespace RetryClock

/-- Each call begins later than the one before. -/
theorem begun_lt (clock : RetryClock policy rounds done) (n : Nat) :
    clock.begun n < clock.begun (n + 1) :=
  lt_of_le_of_lt ((clock.called n).trans (clock.waited n)) (clock.resumed n)

/-- Time passes with the rounds. -/
theorem add_le_begun (clock : RetryClock policy rounds done) (n : Nat) :
    clock.begun 0 + n ≤ clock.begun n := by
  induction n with
  | zero => simp
  | succ n ih =>
    have later := clock.begun_lt n
    push_cast
    omega

/-- At the latest when the context is done, a round is the last. -/
theorem exists_not_continues (clock : RetryClock policy rounds done) :
    ∃ n, ¬ policy.Continues rounds n := by
  -- By then, so many rounds have taken so many nanoseconds at least.
  refine ⟨(done - clock.begun 0).toNat, fun continues => ?_⟩
  have early := (clock.asked _).mp continues.2.1
  have late := clock.add_le_begun (done - clock.begun 0).toNat
  have order := clock.called (done - clock.begun 0).toNat
  omega

/-- Between calls the delays are kept, as long as rounds lead to one another. -/
theorem sum_delays_le (clock : RetryClock policy rounds done) {n : Nat}
    (continues : ∀ m < n, policy.Continues rounds m) :
    clock.begun 0 + ∑ m ∈ Finset.range n, policy.delayAt rounds m ≤ clock.begun n := by
  -- A round that leads to another one was not interrupted, and has waited for its delay.
  induction n with
  | zero => simp
  | succ n ih =>
    have before := ih fun m earlier => continues m (by omega)
    have delay := clock.ripened n (continues n (Nat.lt_succ_self n)).2.2
    have order := clock.called n
    have later := clock.resumed n
    rw [Finset.sum_range_succ]
    omega

end RetryClock

/--
With a context that is done at some time, the loop ends, whatever the limit. Only its last call may
begin when the context is done already, the calls before keep their delays and are announced, and
the context is blamed only if it is done and the last call does not end the loop by itself.
-/
theorem retry_stops_with_context (clock : RetryClock policy rounds done) :
    ∃ last outcome, (∀ fuel, last < fuel → policy.retryWithContext rounds fuel = some outcome) ∧
      outcome.calls = last + 1 ∧ (∀ n < last, clock.ended n < done) ∧
      (∀ n ≤ last,
        clock.begun 0 + ∑ m ∈ Finset.range n, policy.delayAt rounds m ≤ clock.begun n) ∧
      (policy.Ends rounds last → outcome.error = policy.errorAt rounds last ∧
        outcome.announced = (List.range last).flatMap (policy.announcement rounds)) ∧
      (¬ policy.Ends rounds last → ∃ cause,
        outcome.error = some (.cancelled (last + 1) cause) ∧ done ≤ clock.ended last ∧
          outcome.announced = (List.range last).flatMap (policy.announcement rounds) ∨
        outcome.error = some (.cancelledInBackoff cause) ∧ done ≤ clock.woken last ∧
          outcome.announced = (List.range (last + 1)).flatMap (policy.announcement rounds)) := by
  classical
  -- The last round is the first that does not lead to another one.
  let last := Nat.find clock.exists_not_continues
  have stops : ¬ policy.Continues rounds last := Nat.find_spec clock.exists_not_continues
  have continues : ∀ n < last, policy.Continues rounds n := fun n early =>
    not_not.mp (Nat.find_min clock.exists_not_continues early)
  have reached {outcome : Retried ε} (ended : ∀ fuel, policy.retryFrom rounds (fuel + 1) last
      ((List.range last).flatMap (policy.announcement rounds)) = some outcome) (fuel : Nat)
      (enough : last < fuel) : policy.retryWithContext rounds fuel = some outcome := by
    obtain ⟨rest, rfl⟩ := Nat.exists_eq_add_of_lt enough
    have split : last + rest + 1 = rest + 1 + last := by omega
    rw [split, retryFrom_reaches continues, ended]
  have early (n : Nat) (before : n < last) : clock.ended n < done :=
    (clock.asked n).mp (continues n before).2.1
  have paced (n : Nat) (within : n ≤ last) :=
    clock.sum_delays_le fun m before => continues m (lt_of_lt_of_le before within)
  by_cases ends : policy.Ends rounds last
  · -- The last call ends the loop, whatever the context is.
    exact ⟨last, _, reached fun fuel => retryFrom_of_ends ends fuel _, rfl, early, paced,
      fun _ => ⟨rfl, rfl⟩, fun ongoing => absurd ends ongoing⟩
  · -- The context ends it, after the call or during the delay.
    cases cancelled : (rounds last).cancelled with
    | some cause =>
      refine ⟨last, ⟨last + 1, (List.range last).flatMap (policy.announcement rounds),
        some (.cancelled (last + 1) cause)⟩, reached fun fuel => ?_, rfl, early, paced,
        fun settled => absurd settled ends,
        fun _ => ⟨cause, .inl ⟨rfl, not_lt.mp fun undone => ?_, rfl⟩⟩⟩
      · rw [retryFrom_of_ongoing ends, cancelled]
        rfl
      · have uncancelled := (clock.asked last).mpr undone
        rw [cancelled] at uncancelled
        cases uncancelled
    | none =>
      cases interrupted : (rounds last).interrupted with
      | none => exact absurd ⟨ends, cancelled, interrupted⟩ stops
      | some cause =>
        refine ⟨last, ⟨last + 1, (List.range (last + 1)).flatMap (policy.announcement rounds),
          some (.cancelledInBackoff cause)⟩, reached fun fuel => ?_, rfl, early, paced,
          fun settled => absurd settled ends,
          fun _ => ⟨cause, .inr ⟨rfl, clock.broken last ?_, rfl⟩⟩⟩
        · rw [retryFrom_of_ongoing ends, cancelled, interrupted, List.range_succ,
            List.flatMap_append, List.flatMap_singleton]
          rfl
        · rw [interrupted]
          exact Option.some_ne_none cause

/-- Calls without a limit, one nanosecond apart. -/
def unlimited : RetryPolicy Unit :=
  ⟨0, 1, 1, 1, 0, none, false, by decide⟩

/-- A function that always fails, with a context that is done after five nanoseconds. -/
def failing (n : Nat) : RetryRound Unit :=
  ⟨some (), 0, if 2 * (n : Int) < 5 then none else some (), none⟩

/-- Every delay is one nanosecond. -/
theorem unlimited_delayAt (n : Nat) : unlimited.delayAt failing n = 1 := by
  simp [delayAt, calculateBackoff, baseDelay, unlimited, Go.toInt64]

/-- Calls that take no time, every two nanoseconds. -/
def failingClock : RetryClock unlimited failing 5 where
  begun n := 2 * n
  ended n := 2 * n
  woken n := 2 * n + 1
  called n := le_refl _
  asked n := by
    simp only [failing]
    split <;> simp_all
  waited n := by omega
  ripened n _ := by rw [unlimited_delayAt]
  broken n interrupted := absurd rfl interrupted
  resumed n := by
    push_cast
    omega

/-- Calls without a limit end with the context. -/
theorem retry_stops_with_context_failing :
    ∃ outcome, unlimited.retryWithContext failing 10 = some outcome ∧ outcome.calls ≤ 4 := by
  obtain ⟨last, outcome, ended, calls, early, _⟩ := retry_stops_with_context failingClock
  have few : last ≤ 3 := by
    by_contra many
    have late : (6 : Int) < 5 := early 3 (by omega)
    omega
  exact ⟨outcome, ended 10 (by omega), by omega⟩

end RetryPolicy

end Balance
