import Balance.Go.Collections
import Balance.Go.Time
import Mathlib.Tactic.Linarith

/-! Calling a function again until it succeeds, with growing delays between the calls. -/

namespace Balance

/-- Which errors are worth another call, how many calls there are, and the delays between them. -/
structure RetryPolicy (ε : Type*) where
  maxAttempts : Int
  initialDelay : Int
  maxDelay : Int
  multiplier : ℚ
  jitter : ℚ
  -- Without a test, every error is worth another call.
  retryableErrors : Option (ε → Bool)
  -- Whether somebody is told before each further call.
  onRetry : Bool
  -- Durations are 64-bit integers.
  short : initialDelay ≤ Go.maxDuration ∧ maxDelay ≤ Go.maxDuration

/-- Three calls, and none after an error of the context. -/
def defaultRetryPolicy {ε : Type*} (ofContext : ε → Bool) : RetryPolicy ε where
  maxAttempts := 3
  initialDelay := 100000000
  maxDelay := 10 * Go.second
  multiplier := 2
  jitter := 1 / 10
  retryableErrors := some fun err => !ofContext err
  onRetry := false
  short := by decide

/-- The errors with which no further call is made. -/
inductive RetryError (ε : Type*) where
  | nonRetryable (err : ε)
  | maxRetriesExceeded (attempts : Nat) (lastErr : ε)
  | cancelled (attempts : Nat) (cause : ε)
  | cancelledInBackoff (cause : ε)
  deriving DecidableEq

/-- The text of an error, given those of the errors that it wraps. -/
def RetryError.message {ε : Type*} (text : ε → String) : RetryError ε → String
  | nonRetryable err => "non-retryable error: " ++ text err
  | maxRetriesExceeded attempts lastErr =>
    "maximum retry attempts exceeded after " ++ toString attempts ++ " attempts: " ++ text lastErr
  | cancelled attempts cause =>
    "context cancelled after " ++ toString attempts ++ " attempts: " ++ text cause
  | cancelledInBackoff cause => "context cancelled during backoff: " ++ text cause

/-- What the function, the random numbers and the context bring in one round of the loop. -/
structure RetryRound (ε : Type*) where
  -- What the call returns, where nothing is a success.
  result : Option ε
  draw : ℚ
  -- The error of the context after the call, and if it is done before the delay is over.
  cancelled : Option ε
  interrupted : Option ε

/-- How a call with retries has ended. -/
structure Retried (ε : Type*) where
  calls : Nat
  -- Whom a retry was announced to was told these.
  announced : List (Nat × ε × Int)
  error : Option (RetryError ε)

namespace RetryPolicy

variable {ε : Type*} (policy : RetryPolicy ε)

/-- The delay after a call, before it is made random, where calls are counted from one. -/
def baseDelay (attempt : Nat) : ℚ :=
  let delay := policy.initialDelay * policy.multiplier ^ (attempt - 1)
  if delay > policy.maxDelay then policy.maxDelay else delay

/-- The delay after a call. -/
def calculateBackoff (attempt : Nat) (draw : ℚ) : Int :=
  let delay := policy.baseDelay attempt
  if policy.jitter > 0 then
    let delay := delay + delay * policy.jitter * (draw * 2 - 1)
    Go.toInt64 (if delay < 0 then 0 else delay)
  else Go.toInt64 delay

/-- Whether an error is not worth another call. -/
def refuses (err : ε) : Bool :=
  match policy.retryableErrors with
  | none => false
  | some retryable => !retryable err

/-- Whether a result is a success, or an error that is not worth another call. -/
def settles : Option ε → Bool
  | none => true
  | some err => policy.refuses err

/-- The loop, for so many rounds at most, after some calls and announcements. -/
def retryFrom (rounds : Nat → RetryRound ε) :
    Nat → Nat → List (Nat × ε × Int) → Option (Retried ε)
  | 0, _, _ => none
  | fuel + 1, calls, announced =>
    let attempts := calls + 1
    match (rounds calls).result with
    | none => some ⟨attempts, announced, none⟩
    | some err =>
      if policy.refuses err then some ⟨attempts, announced, some (.nonRetryable err)⟩
      else if policy.maxAttempts > 0 ∧ (attempts : Int) ≥ policy.maxAttempts then
        some ⟨attempts, announced, some (.maxRetriesExceeded attempts err)⟩
      else
        match (rounds calls).cancelled with
        | some cause => some ⟨attempts, announced, some (.cancelled attempts cause)⟩
        | none =>
          let delay := policy.calculateBackoff attempts (rounds calls).draw
          let announced :=
            if policy.onRetry then announced ++ [(attempts, err, delay)] else announced
          match (rounds calls).interrupted with
          | some cause => some ⟨attempts, announced, some (.cancelledInBackoff cause)⟩
          | none => retryFrom rounds fuel attempts announced

/-- A call with retries, of which so many rounds are looked at. -/
def retryWithContext (rounds : Nat → RetryRound ε) (fuel : Nat) : Option (Retried ε) :=
  policy.retryFrom rounds fuel 0 []

/-- The context is never cancelled. -/
def Uncancelled (rounds : Nat → RetryRound ε) : Prop :=
  ∀ n, (rounds n).cancelled = none ∧ (rounds n).interrupted = none

variable {policy} {rounds : Nat → RetryRound ε}

/-- No more calls are made than there are rounds. -/
theorem retryFrom_calls_le {fuel calls : Nat} {announced : List (Nat × ε × Int)}
    {outcome : Retried ε}
    (ended : policy.retryFrom rounds fuel calls announced = some outcome) :
    outcome.calls ≤ calls + fuel := by
  -- Every round makes one call, and the loop ends in one of them.
  induction fuel generalizing calls announced with
  | zero => cases ended
  | succ fuel ih =>
    have here {announced : List (Nat × ε × Int)} {error : Option (RetryError ε)}
        (same : some (⟨calls + 1, announced, error⟩ : Retried ε) = some outcome) :
        outcome.calls ≤ calls + (fuel + 1) := by
      obtain rfl := Option.some.inj same
      show calls + 1 ≤ calls + (fuel + 1)
      omega
    simp only [retryFrom] at ended
    split at ended
    · exact here ended
    · split at ended
      · exact here ended
      · split at ended
        · exact here ended
        · split at ended
          · exact here ended
          · split at ended
            · exact here ended
            · have := ih ended
              omega

/-- Some round ends the loop exactly if it brings a result that settles it, or uses up the calls. -/
theorem retryFrom_isSome_iff (uncancelled : Uncancelled rounds) {fuel calls : Nat}
    {announced : List (Nat × ε × Int)} :
    (policy.retryFrom rounds fuel calls announced).isSome = true ↔
      ∃ n < fuel, policy.settles (rounds (calls + n)).result = true ∨
        0 < policy.maxAttempts ∧ policy.maxAttempts ≤ ((calls + n + 1 : Nat) : Int) := by
  -- The first round ends the loop, or is followed by those that are left.
  induction fuel generalizing calls announced with
  | zero => simp [retryFrom]
  | succ fuel ih =>
    have later : (∃ n < fuel + 1, policy.settles (rounds (calls + n)).result = true ∨
          0 < policy.maxAttempts ∧ policy.maxAttempts ≤ ((calls + n + 1 : Nat) : Int)) ↔
        (policy.settles (rounds calls).result = true ∨
          0 < policy.maxAttempts ∧ policy.maxAttempts ≤ ((calls + 1 : Nat) : Int)) ∨
        ∃ n < fuel, policy.settles (rounds (calls + 1 + n)).result = true ∨
          0 < policy.maxAttempts ∧ policy.maxAttempts ≤ ((calls + 1 + n + 1 : Nat) : Int) := by
      rw [Nat.exists_lt_succ_left]
      simp only [Nat.add_zero, Nat.add_comm, Nat.add_left_comm]
    rw [later]
    simp only [retryFrom]
    cases result : (rounds calls).result with
    | none => simp [settles]
    | some err =>
      have settled : policy.settles (some err) = policy.refuses err := rfl
      dsimp only
      rw [settled]
      split
      · next refused => simp [refused]
      · next worth =>
        split
        · next last => exact iff_of_true rfl (.inl (.inr last))
        · next more =>
          rw [(uncancelled calls).1, (uncancelled calls).2]
          dsimp only
          rw [ih]
          exact (or_iff_right (not_or.mpr ⟨worth, more⟩)).symm

/--
With a limit that is not negative and a context that is never cancelled, there are no more calls
than the documentation allows exactly if the limit is positive or the first call settles it.

A limit of zero is documented to allow one call, and allows any number.
-/
theorem attempts_bounded_iff (policy : RetryPolicy ε) (rounds : Nat → RetryRound ε)
    (nonneg : 0 ≤ policy.maxAttempts) (uncancelled : Uncancelled rounds) :
    (∃ outcome, policy.retryWithContext rounds (max 1 policy.maxAttempts.toNat) = some outcome ∧
      outcome.calls ≤ max 1 policy.maxAttempts.toNat) ↔
      1 ≤ policy.maxAttempts ∨ policy.settles (rounds 0).result = true := by
  -- The loop ends within so many rounds exactly if one of them ends it.
  have ends : (∃ outcome, policy.retryWithContext rounds (max 1 policy.maxAttempts.toNat) =
      some outcome ∧ outcome.calls ≤ max 1 policy.maxAttempts.toNat) ↔
      (policy.retryFrom rounds (max 1 policy.maxAttempts.toNat) 0 []).isSome = true := by
    rw [Option.isSome_iff_exists]
    constructor
    · intro given
      obtain ⟨outcome, ended, _⟩ := given
      exact ⟨outcome, ended⟩
    · intro given
      obtain ⟨outcome, ended⟩ := given
      have few := retryFrom_calls_le ended
      exact ⟨outcome, ended, by omega⟩
  rw [ends, retryFrom_isSome_iff uncancelled]
  constructor
  · intro given
    obtain ⟨n, within, settled | used⟩ := given
    · rcases Int.lt_or_le 0 policy.maxAttempts with positive | zero
      · exact .inl positive
      · -- Without a limit, only the first round is looked at.
        have first : n = 0 := by omega
        rw [first] at settled
        exact .inr settled
    · exact .inl used.1
  · intro given
    rcases given with positive | settled
    · exact ⟨policy.maxAttempts.toNat - 1, by omega, .inr ⟨positive, by omega⟩⟩
    · exact ⟨0, by omega, .inl settled⟩

/-- A function that always fails is called three times under the default policy. -/
theorem default_policy_stops :
    ∃ outcome, (defaultRetryPolicy fun _ : Unit => false).retryWithContext
        (fun _ => ⟨some (), 0, none, none⟩) 3 = some outcome ∧ outcome.calls ≤ 3 :=
  (attempts_bounded_iff (defaultRetryPolicy fun _ => false) (fun _ => ⟨some (), 0, none, none⟩)
    (by decide) fun _ => ⟨rfl, rfl⟩).mpr (.inl (by decide))

/-- Without retries, as it is documented, a function that always fails is called without end. -/
theorem no_retries_never_stops :
    let policy : RetryPolicy Unit := { defaultRetryPolicy (fun _ => false) with maxAttempts := 0 }
    ¬ ∃ fuel outcome, policy.retryWithContext (fun _ => ⟨some (), 0, none, none⟩) fuel =
      some outcome := by
  -- No result settles it and no call is the last.
  rintro policy ⟨fuel, outcome, ended⟩
  have some_round := (retryFrom_isSome_iff fun _ => ⟨rfl, rfl⟩).mp
    (Option.isSome_of_eq_some ended)
  obtain ⟨n, _, settled | used⟩ := some_round
  · cases settled
  · exact absurd used.1 (by decide)

section Backoff

variable (policy)

/-- The delay after a call, made random. -/
def jitteredDelay (attempt : Nat) (draw : ℚ) : ℚ :=
  policy.baseDelay attempt * (1 + policy.jitter * (2 * draw - 1))

/-- Delays, factors and jitter as they are meant to be. -/
structure Sensible : Prop where
  initialDelay : 0 ≤ policy.initialDelay
  maxDelay : 0 ≤ policy.maxDelay
  multiplier : 0 ≤ policy.multiplier
  jitter : 0 ≤ policy.jitter ∧ policy.jitter ≤ 1

variable {policy} (sensible : policy.Sensible) (attempt : Nat)

include sensible

/-- Before it is made random, a delay is within its limit. -/
theorem Sensible.baseDelay_mem :
    0 ≤ policy.baseDelay attempt ∧ policy.baseDelay attempt ≤ policy.maxDelay := by
  -- A delay beyond the limit is cut off there.
  have initial : (0 : ℚ) ≤ policy.initialDelay := Int.cast_nonneg sensible.initialDelay
  have grown := mul_nonneg initial (pow_nonneg sensible.multiplier (attempt - 1))
  unfold baseDelay
  dsimp only
  split
  · exact ⟨Int.cast_nonneg sensible.maxDelay, le_refl _⟩
  · next fits => exact ⟨grown, not_lt.mp fits⟩

/-- A random delay is never negative. -/
theorem Sensible.jitteredDelay_nonneg {draw : ℚ} (low : 0 ≤ draw) :
    0 ≤ policy.jitteredDelay attempt draw := by
  -- At most the whole delay is taken off.
  apply mul_nonneg (sensible.baseDelay_mem attempt).1
  have least := mul_le_mul_of_nonneg_left (show (-1 : ℚ) ≤ 2 * draw - 1 by linarith)
    sensible.jitter.1
  linarith [sensible.jitter.2]

/-- The delay is the random one, without its fraction. -/
theorem Sensible.calculateBackoff_eq {draw : ℚ} (low : 0 ≤ draw) :
    policy.calculateBackoff attempt draw = Go.toInt64 (policy.jitteredDelay attempt draw) := by
  -- The test for a negative delay never applies.
  have nonneg := sensible.jitteredDelay_nonneg attempt low
  unfold calculateBackoff
  dsimp only
  split
  · -- The sum of the code is the product.
    have same : policy.baseDelay attempt + policy.baseDelay attempt * policy.jitter *
        (draw * 2 - 1) = policy.jitteredDelay attempt draw := by
      unfold jitteredDelay
      ring
    rw [same, if_neg (not_lt.mpr nonneg)]
  · next still =>
    -- Without jitter the delay is left as it is.
    have none_added : policy.jitter = 0 := le_antisymm (not_lt.mp still) sensible.jitter.1
    rw [jitteredDelay, none_added, zero_mul, add_zero, mul_one]

/-- A delay is within its limit exactly if the random one is less than a nanosecond beyond it. -/
theorem Sensible.calculateBackoff_mem_iff {draw : ℚ} (low : 0 ≤ draw) :
    0 ≤ policy.calculateBackoff attempt draw ∧
        policy.calculateBackoff attempt draw ≤ policy.maxDelay ↔
      policy.jitteredDelay attempt draw < policy.maxDelay + 1 := by
  -- Rounding down takes off less than a nanosecond, and a limit always fits into 64 bits.
  have fits : policy.maxDelay < 2 ^ 63 := by
    have short := policy.short.2
    unfold Go.maxDuration at short
    omega
  rw [sensible.calculateBackoff_eq attempt low]
  exact Go.toInt64_mem_iff (sensible.jitteredDelay_nonneg attempt low) fits

end Backoff

/--
No random number takes a delay beyond its limit exactly if the greatest random delay is no more
than a nanosecond beyond it; and for each random number, exactly if its delay is less than that.

A delay is cut off at the limit before it is made random.
-/
theorem backoff_capped_iff (policy : RetryPolicy ε) (sensible : policy.Sensible) (attempt : Nat) :
    ((∀ draw, 0 ≤ draw → draw < 1 → 0 ≤ policy.calculateBackoff attempt draw ∧
        policy.calculateBackoff attempt draw ≤ policy.maxDelay) ↔
      policy.baseDelay attempt * (1 + policy.jitter) ≤ policy.maxDelay + 1) ∧
    ∀ draw, 0 ≤ draw → draw < 1 → (0 ≤ policy.calculateBackoff attempt draw ∧
        policy.calculateBackoff attempt draw ≤ policy.maxDelay ↔
      policy.jitteredDelay attempt draw < policy.maxDelay + 1) := by
  obtain ⟨nonneg, capped⟩ := sensible.baseDelay_mem attempt
  refine ⟨?_, fun draw low _ => sensible.calculateBackoff_mem_iff attempt low⟩
  have expanded (draw : ℚ) : policy.jitteredDelay attempt draw =
      policy.baseDelay attempt + policy.baseDelay attempt * policy.jitter * (2 * draw - 1) := by
    unfold jitteredDelay
    ring
  constructor
  · intro within
    by_contra beyond
    rw [not_le, mul_add, mul_one] at beyond
    -- The random number at which the delay is a nanosecond beyond its limit is short of one.
    have spread : 0 < policy.baseDelay attempt * policy.jitter := by linarith
    let missing := (policy.maxDelay + 1 - policy.baseDelay attempt) /
      (policy.baseDelay attempt * policy.jitter)
    have more : 0 ≤ missing := div_nonneg (by linarith) (le_of_lt spread)
    have less : missing < 1 := (div_lt_one spread).mpr (by linarith)
    have low : 0 ≤ (1 + missing) / 2 := by linarith
    have reached := (sensible.calculateBackoff_mem_iff attempt low).mp
      (within ((1 + missing) / 2) low (by linarith))
    have exactly : policy.baseDelay attempt * policy.jitter * missing =
        policy.maxDelay + 1 - policy.baseDelay attempt := mul_div_cancel₀ _ (ne_of_gt spread)
    rw [expanded, show 2 * ((1 + missing) / 2) - 1 = missing by ring, exactly] at reached
    linarith
  · intro within draw low high
    apply (sensible.calculateBackoff_mem_iff attempt low).mpr
    rw [mul_add, mul_one] at within
    rw [expanded]
    rcases eq_or_lt_of_le (mul_nonneg nonneg sensible.jitter.1) with none_added | spread
    · -- Without jitter the delay is the one that was cut off.
      rw [← none_added, zero_mul, add_zero]
      linarith
    · have less := mul_lt_mul_of_pos_left (show 2 * draw - 1 < 1 by linarith) spread
      linarith

/-- The first delay of the default policy is far from its limit. -/
theorem first_default_delay_capped :
    0 ≤ (defaultRetryPolicy fun _ : Unit => false).calculateBackoff 1 0 ∧
      (defaultRetryPolicy fun _ : Unit => false).calculateBackoff 1 0 ≤ 10 * Go.second :=
  (backoff_capped_iff (defaultRetryPolicy fun _ : Unit => false)
    ⟨by decide, by decide, by norm_num [defaultRetryPolicy], by norm_num [defaultRetryPolicy]⟩
    1).1.mpr
    (by norm_num [baseDelay, defaultRetryPolicy, Go.second]) 0 (le_refl 0) one_pos

/-- The tenth delay of the default policy can be most of a second beyond its limit. -/
theorem tenth_default_delay_exceeds_limit :
    (defaultRetryPolicy fun _ : Unit => false).calculateBackoff 10 (9 / 10) = 10800000000 ∧
      (defaultRetryPolicy fun _ : Unit => false).maxDelay = 10000000000 := by
  -- The limit is ten seconds, and eight hundredths of it are added.
  decide +kernel

end RetryPolicy

end Balance
