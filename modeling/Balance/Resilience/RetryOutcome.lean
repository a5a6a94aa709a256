import Balance.Resilience.Retry
import Mathlib.Order.Bounds.Basic

/-! How a call with retries ends: how many calls, which announcements and what error. -/

namespace Balance

/-- What an error with which no further call is made wraps. -/
inductive RetryCause (ε : Type*) where
  /-- An error of the function or of the context. -/
  | given (err : ε)
  | errMaxRetriesExceeded
  deriving DecidableEq

/-- The error that another one wraps. -/
def RetryError.unwrap {ε : Type*} : RetryError ε → RetryCause ε
  | nonRetryable err => .given err
  -- The last error of the function is quoted, not wrapped.
  | maxRetriesExceeded _ _ => .errMaxRetriesExceeded
  | cancelled _ cause => .given cause
  | cancelledInBackoff cause => .given cause

namespace RetryPolicy

variable {ε : Type*} {policy : RetryPolicy ε} {rounds : Nat → RetryRound ε}

/-- A round ends the loop: its result settles it, or it was the last one allowed. -/
def Ends (policy : RetryPolicy ε) (rounds : Nat → RetryRound ε) (n : Nat) : Prop :=
  policy.settles (rounds n).result = true ∨
    0 < policy.maxAttempts ∧ policy.maxAttempts ≤ ((n + 1 : Nat) : Int)

/-- The error that a round ends the loop with. -/
def errorAt (policy : RetryPolicy ε) (rounds : Nat → RetryRound ε) (n : Nat) :
    Option (RetryError ε) :=
  match (rounds n).result with
  | none => none
  | some err =>
    if policy.refuses err then some (.nonRetryable err)
    else some (.maxRetriesExceeded (n + 1) err)

/-- A round that ends the loop makes one more call and announces nothing. -/
theorem retryFrom_of_ends {calls : Nat} (ends : policy.Ends rounds calls) (fuel : Nat)
    (announced : List (Nat × ε × Int)) :
    policy.retryFrom rounds (fuel + 1) calls announced =
      some ⟨calls + 1, announced, policy.errorAt rounds calls⟩ := by
  -- The checks are made in order: success, then refusal, then the limit.
  unfold Ends at ends
  simp only [retryFrom, errorAt]
  cases result : (rounds calls).result with
  | none => rfl
  | some err =>
    by_cases refused : policy.refuses err = true
    · simp only [if_pos refused]
    · have last : policy.maxAttempts > 0 ∧ ((calls + 1 : Nat) : Int) ≥ policy.maxAttempts := by
        simpa [result, settles, refused] using ends
      simp only [if_neg refused, if_pos last]

/-- Any other round of a context that is not cancelled announces its error and goes on. -/
theorem retryFrom_of_not_ends (uncancelled : Uncancelled rounds) {calls : Nat}
    (ongoing : ¬policy.Ends rounds calls) :
    ∃ err delay, (rounds calls).result = some err ∧ ∀ fuel announced,
      policy.retryFrom rounds (fuel + 1) calls announced =
        policy.retryFrom rounds fuel (calls + 1)
          (if policy.onRetry then announced ++ [(calls + 1, err, delay)] else announced) := by
  -- None of the checks applies, and neither look at the context finds it cancelled.
  unfold Ends at ongoing
  obtain ⟨unsettled, more⟩ := not_or.mp ongoing
  cases result : (rounds calls).result with
  | none => simp [result, settles] at unsettled
  | some err =>
    have worth : ¬policy.refuses err = true := by simpa [result, settles] using unsettled
    refine ⟨err, policy.calculateBackoff (calls + 1) (rounds calls).draw, rfl, ?_⟩
    intro fuel announced
    simp only [retryFrom, result, (uncancelled calls).1, (uncancelled calls).2]
    rw [if_neg worth, if_neg more]

/-- The loop ends in the first round that ends it, and announces each round before that. -/
theorem retryFrom_eq (uncancelled : Uncancelled rounds) {last : Nat}
    (ends : policy.Ends rounds last) {left calls : Nat} (ahead : calls + left = last)
    (ongoing : ∀ n, calls ≤ n → n < last → ¬policy.Ends rounds n)
    (announced : List (Nat × ε × Int)) :
    ∃ more, (∀ fuel, left < fuel → policy.retryFrom rounds fuel calls announced =
        some ⟨last + 1, announced ++ more, policy.errorAt rounds last⟩) ∧
      more.map (fun told => (told.1, some told.2.1)) =
        if policy.onRetry then
          (List.range' calls left).map fun n => (n + 1, (rounds n).result)
        else [] := by
  -- Each round before the last takes one unit of fuel and makes one announcement.
  induction left generalizing calls announced with
  | zero =>
    obtain rfl : calls = last := ahead
    refine ⟨[], ?_, by simp⟩
    intro fuel enough
    obtain ⟨fuel, rfl⟩ := Nat.exists_eq_add_one.mpr enough
    rw [retryFrom_of_ends ends, List.append_nil]
  | succ left ih =>
    obtain ⟨err, delay, result, next⟩ := retryFrom_of_not_ends uncancelled
      (ongoing calls (Nat.le_refl calls) (by omega))
    obtain ⟨more, ended, listed⟩ := ih (show calls + 1 + left = last by omega)
      (fun n begun => ongoing n (by omega))
      (if policy.onRetry then announced ++ [(calls + 1, err, delay)] else announced)
    refine ⟨if policy.onRetry then (calls + 1, err, delay) :: more else more, ?_, ?_⟩
    · intro fuel enough
      obtain ⟨fuel, rfl⟩ := Nat.exists_eq_add_one.mpr (Nat.zero_lt_of_lt enough)
      rw [next, ended fuel (by omega)]
      cases policy.onRetry <;> simp
    · rw [List.range'_succ]
      cases told : policy.onRetry <;> simpa [told, result] using listed

/-- Which attempts can be the last: a success, an error not worth another, or the limit. -/
def Settled (policy : RetryPolicy ε) (rounds : Nat → RetryRound ε) (attempt : Nat) : Prop :=
  (rounds (attempt - 1)).result = none ∨
    (∃ err, (rounds (attempt - 1)).result = some err ∧ policy.refuses err = true) ∨
    (attempt : Int) = policy.maxAttempts

/-- Up to the limit, an attempt is settled exactly if its round ends the loop. -/
theorem settled_iff_ends {attempt : Nat} (started : 1 ≤ attempt)
    (within : (attempt : Int) ≤ policy.maxAttempts) :
    policy.Settled rounds attempt ↔ policy.Ends rounds (attempt - 1) := by
  -- Attempts are counted from one, and rounds from zero.
  have limit : (attempt : Int) = policy.maxAttempts ↔
      0 < policy.maxAttempts ∧ policy.maxAttempts ≤ ((attempt - 1 + 1 : Nat) : Int) := by omega
  rw [Settled, Ends, limit, ← or_assoc]
  apply or_congr_left
  cases (rounds (attempt - 1)).result <;> simp [settles]

/-- Some attempt up to the limit is the first that is settled. -/
theorem exists_least_settled (positive : 1 ≤ policy.maxAttempts) :
    ∃ k : Nat, (k : Int) ≤ policy.maxAttempts ∧
      IsLeast {attempt | 1 ≤ attempt ∧ policy.Settled rounds attempt} k := by
  classical
  -- The attempt at the limit is settled, if none before it is.
  have last : ∃ attempt : Nat, 1 ≤ attempt ∧ policy.Settled rounds attempt :=
    ⟨policy.maxAttempts.toNat, by omega, .inr (.inr (by omega))⟩
  have limit := Nat.find_min' last
    (show 1 ≤ policy.maxAttempts.toNat ∧ policy.Settled rounds policy.maxAttempts.toNat from
      ⟨by omega, .inr (.inr (by omega))⟩)
  refine ⟨Nat.find last, by omega, Nat.find_spec last, ?_⟩
  intro attempt settled
  exact Nat.find_min' last settled

/--
With a positive limit and a context that is never cancelled, the function is called up to the first
attempt that is settled. Each attempt before that is announced, if anybody is told, with its error.
A success ends without an error, an error not worth another attempt is wrapped, and else the error
says that there are no attempts left.
-/
theorem retry_outcome (policy : RetryPolicy ε) (rounds : Nat → RetryRound ε)
    (positive : 1 ≤ policy.maxAttempts) (uncancelled : Uncancelled rounds) :
    ∃ k outcome, IsLeast {attempt | 1 ≤ attempt ∧ policy.Settled rounds attempt} k ∧
      (∀ fuel, k ≤ fuel → policy.retryWithContext rounds fuel = some outcome) ∧
      outcome.calls = k ∧
      outcome.announced.map (fun told => (told.1, some told.2.1)) =
        (if policy.onRetry then
          (List.range (k - 1)).map fun n => (n + 1, (rounds n).result)
        else []) ∧
      outcome.error.map RetryError.unwrap =
        match (rounds (k - 1)).result with
        | none => none
        | some err => some (if policy.refuses err then .given err else .errMaxRetriesExceeded) := by
  -- The loop runs up to the first attempt that is settled.
  obtain ⟨k, within, least⟩ := exists_least_settled positive
  obtain ⟨started, settled⟩ := least.1
  have ends := (settled_iff_ends started within).mp settled
  have ongoing : ∀ n, 0 ≤ n → n < k - 1 → ¬policy.Ends rounds n := by
    intro n _ early done
    have earlier : policy.Settled rounds (n + 1) := by
      rw [settled_iff_ends (by omega) (by omega)]
      exact done
    have := least.2 ⟨by omega, earlier⟩
    omega
  obtain ⟨announced, ended, listed⟩ := retryFrom_eq uncancelled ends (Nat.zero_add (k - 1))
    ongoing []
  refine ⟨k, _, least, fun fuel enough => ended fuel (by omega), ?_, ?_, ?_⟩
  · show k - 1 + 1 = k
    omega
  · rw [List.nil_append, listed, List.range_eq_range']
  · show (policy.errorAt rounds (k - 1)).map RetryError.unwrap = _
    unfold errorAt
    cases (rounds (k - 1)).result with
    | none => rfl
    | some err =>
      dsimp only
      split <;> rfl

/-- A function that fails once is called twice, and the failure is announced. -/
theorem retry_outcome_second_succeeds :
    ∃ outcome, ({ defaultRetryPolicy (fun _ : Unit => false) with onRetry := true }
        : RetryPolicy Unit).retryWithContext
          (fun n => ⟨if n = 0 then some () else none, 0, none, none⟩) 3 = some outcome ∧
      outcome.calls = 2 ∧
      outcome.announced.map (fun told => (told.1, some told.2.1)) = [(1, some ())] ∧
      outcome.error = none := by
  obtain ⟨k, outcome, least, ended, calls, announced, error⟩ :=
    retry_outcome { defaultRetryPolicy (fun _ : Unit => false) with onRetry := true }
      (fun n => ⟨if n = 0 then some () else none, 0, none, none⟩) (by decide) fun _ => ⟨rfl, rfl⟩
  obtain ⟨⟨started, settled⟩, lowest⟩ := least
  have upper : k ≤ 2 := lowest ⟨by decide, .inl rfl⟩
  have second : k ≠ 1 := by
    rintro rfl
    simp [Settled, refuses, defaultRetryPolicy] at settled
  obtain rfl : k = 2 := by omega
  exact ⟨outcome, ended 3 (by decide), calls, announced, by simpa using error⟩

end RetryPolicy

end Balance
