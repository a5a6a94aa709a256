import Balance.Go.Collections
import Balance.Go.Time
import Balance.Machine.Run
import Mathlib.Tactic.Linarith

/-! A budget for retries, renewed from time to time, and how many retries it grants until then. -/

namespace Balance

open Machine

/-- The settings of a retry budget, and what it has counted since it was last renewed. -/
structure RetryBudget where
  ttl : Int
  minRetriesPerSecond : Int
  retryRatio : ℚ
  requests : Int
  retries : Int
  lastReset : Int

/-- A new budget has counted nothing. -/
def newRetryBudget (ttl minRetriesPerSec : Int) (retryRatio : ℚ) (now : Int) : RetryBudget where
  ttl := ttl
  minRetriesPerSecond := minRetriesPerSec
  retryRatio := retryRatio
  requests := 0
  retries := 0
  lastReset := now

namespace RetryBudget

/-- Whether the time of a budget has run out. -/
def expired (rb : RetryBudget) (now : Int) : Bool := Go.since now rb.lastReset > rb.ttl

/-- Renew the budget if its time has run out, where the clock is read once more to store it. -/
def maybeReset (rb : RetryBudget) (now stored : Int) : RetryBudget :=
  if rb.expired now then { rb with requests := 0, retries := 0, lastReset := stored } else rb

/-- Whether either allowance has a retry left, by the time measured and by the requests. -/
def allows (rb : RetryBudget) (measured : Int) : Bool :=
  let elapsed := Go.since measured rb.lastReset
  let minRetries := Go.toInt64 (rb.minRetriesPerSecond * Go.seconds elapsed)
  let ratioRetries := Go.toInt64 (rb.requests * rb.retryRatio)
  rb.retries < minRetries ∨ rb.retries < ratioRetries

/-- Grant a retry if one is left, where the clock is read for the third time. -/
def canRetry (rb : RetryBudget) (now stored measured : Int) : RetryBudget × Bool :=
  let rb := rb.maybeReset now stored
  let allowed := rb.allows measured
  (if allowed then { rb with retries := Go.wrap64 (rb.retries + 1) } else rb, allowed)

/-- Count a request. -/
def recordRequest (rb : RetryBudget) (now stored : Int) : RetryBudget :=
  let rb := rb.maybeReset now stored
  { rb with requests := Go.wrap64 (rb.requests + 1) }

end RetryBudget

/-- One call of a budget, with the instants at which it reads the clock. -/
inductive BudgetCall where
  | canRetry (now stored measured : Int)
  | recordRequest (now stored : Int)
  deriving DecidableEq, Repr

/-- A budget in use: the last reading of the clock, and what happened since the last renewal. -/
structure Budgeting where
  budget : RetryBudget
  clock : Int
  /-- How many retries were granted. -/
  granted : Nat
  /-- How many requests were recorded. -/
  recorded : Nat

namespace Budgeting

/-- A new budget that nobody has used. -/
def start (budget : RetryBudget) : Budgeting := ⟨budget, budget.lastReset, 0, 0⟩

/-- What is counted up to a call, which begins anew if the call renews the budget. -/
def counted (state : Budgeting) (now : Int) (count : Nat) : Nat :=
  if state.budget.expired now then 0 else count

/-- One call, at a time not before the last one. -/
def step (state : Budgeting) : BudgetCall → Option Budgeting
  | .canRetry now stored measured =>
    if state.clock ≤ now ∧ now ≤ stored ∧ stored ≤ measured then
      let (budget, allowed) := state.budget.canRetry now stored measured
      some
        { budget := budget
          clock := measured
          granted := state.counted now state.granted + if allowed then 1 else 0
          recorded := state.counted now state.recorded }
    else none
  | .recordRequest now stored =>
    if state.clock ≤ now ∧ now ≤ stored then
      some
        { budget := state.budget.recordRequest now stored
          clock := stored
          granted := state.counted now state.granted
          recorded := state.counted now state.recorded + 1 }
    else none

/-- The larger one of the allowances: by the time that has passed, and by the requests. -/
def allowance (rate : Int) (ratio : ℚ) (state : Budgeting) : Int :=
  max ⌊rate * Go.seconds (state.clock - state.budget.lastReset)⌋ ⌊ratio * state.recorded⌋

/-- The counters of a budget are right, and it has granted no more than its allowance. -/
structure Kept (rate : Int) (ratio : ℚ) (state : Budgeting) : Prop where
  settings : state.budget.minRetriesPerSecond = rate ∧ state.budget.retryRatio = ratio
  past : state.budget.lastReset ≤ state.clock
  retries : state.budget.retries = state.granted
  requests : state.budget.requests = Go.wrap64 state.recorded
  within : state.granted ≤ state.allowance rate ratio

section Calls

variable {rate : Int} {ratio : ℚ} {state next : Budgeting}

/-- No allowance is negative. -/
theorem allowance_nonneg (steady : 0 ≤ rate) (past : state.budget.lastReset ≤ state.clock) :
    0 ≤ state.allowance rate ratio := by
  apply le_max_of_le_left
  apply Int.floor_nonneg.mpr
  exact mul_nonneg (Int.cast_nonneg steady) (Go.seconds_nonneg (by omega))

/-- An allowance only grows, as long as the budget is not renewed. -/
theorem allowance_mono (steady : 0 ≤ rate) (shared : 0 ≤ ratio)
    (same : next.budget.lastReset = state.budget.lastReset) (later : state.clock ≤ next.clock)
    (more : state.recorded ≤ next.recorded) :
    state.allowance rate ratio ≤ next.allowance rate ratio := by
  -- Neither the time nor the requests get less.
  apply max_le_max
  · apply Int.floor_le_floor
    apply mul_le_mul_of_nonneg_left _ (Int.cast_nonneg steady)
    exact Go.seconds_mono (by omega)
  · apply Int.floor_le_floor
    exact mul_le_mul_of_nonneg_left (by exact_mod_cast more) shared

/-- The budget and the counts after it was renewed, if its time had run out. -/
def renewed (state : Budgeting) (now stored : Int) : Budgeting where
  budget := state.budget.maybeReset now stored
  clock := stored
  granted := state.counted now state.granted
  recorded := state.counted now state.recorded

/-- Renewing keeps a budget right. -/
theorem Kept.renewed (kept : Kept rate ratio state) (steady : 0 ≤ rate) (shared : 0 ≤ ratio)
    {now stored : Int} (ordered : state.clock ≤ now) (after : now ≤ stored) :
    Kept rate ratio (state.renewed now stored) := by
  -- A budget that is not renewed only sees time pass.
  obtain ⟨settings, past, retries, requests, within⟩ := kept
  unfold Budgeting.renewed RetryBudget.maybeReset counted
  by_cases over_ : state.budget.expired now = true
  · -- Everything begins anew, and nothing has been granted.
    simp only [if_pos over_]
    refine ⟨settings, le_refl stored, rfl, Go.wrap64_zero.symm, ?_⟩
    exact allowance_nonneg steady (le_refl stored)
  · simp only [if_neg over_]
    refine ⟨settings, by simp only; omega, retries, requests, ?_⟩
    exact le_trans within (allowance_mono steady shared rfl (by simp only; omega) (le_refl _))

/-- Whatever is granted was left of the larger allowance. -/
theorem Kept.grant (kept : Kept rate ratio state) (steady : 0 ≤ rate) (shared : 0 ≤ ratio)
    {measured : Int} (later : state.clock ≤ measured)
    (allowed : state.budget.allows measured = true) :
    state.granted + 1 ≤ allowance rate ratio { state with clock := measured } := by
  -- One of the two allowances was above the number of retries.
  obtain ⟨⟨rfl, rfl⟩, past, retries, requests, within⟩ := kept
  simp only [RetryBudget.allows, decide_eq_true_eq, retries] at allowed
  rcases allowed with minimum | share
  · -- The time that is measured is no longer than what has passed.
    apply le_max_of_le_left
    have elapsed : Go.seconds (Go.since measured state.budget.lastReset) ≤
        Go.seconds (measured - state.budget.lastReset) :=
      Go.seconds_mono (Go.since_le_sub (by omega))
    have passed : 0 ≤ Go.seconds (Go.since measured state.budget.lastReset) :=
      Go.seconds_nonneg (Go.since_nonneg (by omega))
    have whole := Go.toInt64_le_floor (mul_nonneg (Int.cast_nonneg steady) passed)
    have floors := Int.floor_le_floor (mul_le_mul_of_nonneg_left elapsed
      (Int.cast_nonneg (R := ℚ) steady))
    exact le_trans (by omega) floors
  · -- A count of requests that has overflowed allows nothing.
    apply le_max_of_le_right
    have fewer : state.budget.requests ≤ state.recorded := by
      rw [requests]
      exact Go.wrap64_le (Int.natCast_nonneg _)
    rcases le_or_gt state.budget.requests 0 with nothing | positive
    · have none_left := Go.toInt64_nonpos
        (mul_nonpos_of_nonpos_of_nonneg (Int.cast_nonpos.mpr nothing) shared)
      omega
    · have whole := Go.toInt64_le_floor
        (mul_nonneg (Int.cast_nonneg (R := ℚ) positive.le) shared)
      have floors : ⌊state.budget.requests * state.budget.retryRatio⌋ ≤
          ⌊state.budget.retryRatio * state.recorded⌋ := by
        rw [mul_comm]
        exact Int.floor_le_floor (mul_le_mul_of_nonneg_left (by exact_mod_cast fewer) shared)
      exact le_trans (by omega) floors

/-- A retry that is granted is counted without overflow. -/
theorem Kept.retries_add_one (kept : Kept rate ratio state) {measured : Int}
    (allowed : state.budget.allows measured = true) :
    Go.wrap64 (state.budget.retries + 1) = (state.granted + 1 : Nat) := by
  -- Both allowances are numbers of 64 bits.
  have minimum := Go.toInt64_lt (state.budget.minRetriesPerSecond *
    Go.seconds (Go.since measured state.budget.lastReset))
  have share := Go.toInt64_lt (state.budget.requests * state.budget.retryRatio)
  have retries := kept.retries
  simp only [RetryBudget.allows, decide_eq_true_eq] at allowed
  rw [Go.wrap64_of_fits (by omega) (by omega)]
  omega

/-- The answer to a client keeps a budget right. -/
theorem Kept.answer (kept : Kept rate ratio state) (steady : 0 ≤ rate) (shared : 0 ≤ ratio)
    {measured : Int} (later : state.clock ≤ measured) :
    Kept rate ratio
      { budget :=
          if state.budget.allows measured = true then
            { state.budget with retries := Go.wrap64 (state.budget.retries + 1) }
          else state.budget
        clock := measured
        granted := state.granted + if state.budget.allows measured = true then 1 else 0
        recorded := state.recorded } := by
  -- A refusal changes nothing but the time.
  have past := le_trans kept.past later
  by_cases allowed : state.budget.allows measured = true
  · simp only [if_pos allowed]
    exact ⟨kept.settings, past, kept.retries_add_one allowed, kept.requests,
      kept.grant steady shared later allowed⟩
  · simp only [if_neg allowed]
    refine ⟨kept.settings, past, kept.retries, kept.requests, ?_⟩
    exact le_trans kept.within (allowance_mono steady shared rfl later (le_refl _))

/-- Another request keeps a budget right. -/
theorem Kept.record (kept : Kept rate ratio state) (steady : 0 ≤ rate) (shared : 0 ≤ ratio) :
    Kept rate ratio
      { state with
        budget :=
          { state.budget with requests := Go.wrap64 (state.budget.requests + 1) }
        recorded := state.recorded + 1 } := by
  -- Counting a request raises the allowance.
  refine ⟨kept.settings, kept.past, kept.retries, ?_, ?_⟩
  · simp only [kept.requests, Go.wrap64_add, Nat.cast_add, Nat.cast_one]
  · exact le_trans kept.within (allowance_mono steady shared rfl (le_refl _) (Nat.le_succ _))

/-- Every call keeps a budget right. -/
theorem Kept.step (kept : Kept rate ratio state) (steady : 0 ≤ rate) (shared : 0 ≤ ratio)
    {call : BudgetCall} (taken : state.step call = some next) : Kept rate ratio next := by
  -- Each call first renews the budget, if its time has run out.
  cases call with
  | canRetry now stored measured =>
    simp only [Budgeting.step] at taken
    split at taken
    · next ordered =>
      obtain rfl := Option.some.inj taken
      exact (kept.renewed steady shared ordered.1 ordered.2.1).answer steady shared ordered.2.2
    · cases taken
  | recordRequest now stored =>
    simp only [Budgeting.step] at taken
    split at taken
    · next ordered =>
      obtain rfl := Option.some.inj taken
      exact (kept.renewed steady shared ordered.1 ordered.2).record steady shared
    · cases taken

end Calls

/--
Since it was last renewed, a budget has never granted more retries than the larger one of its two
allowances: by the time that has passed since, and by the requests that were recorded.
-/
theorem retries_within_budget (ttl rate : Int) (ratio : ℚ) (now : Int) (steady : 0 ≤ rate)
    (shared : 0 ≤ ratio) (calls : List BudgetCall) {final : Budgeting}
    (ran : exec step (start (newRetryBudget ttl rate ratio now)) calls = some final) :
    (final.granted : Int) ≤
      max ⌊rate * Go.seconds (final.clock - final.budget.lastReset)⌋ ⌊ratio * final.recorded⌋ := by
  -- A new budget has granted nothing, and every call keeps it right.
  have initial : Kept rate ratio (start (newRetryBudget ttl rate ratio now)) := by
    refine ⟨⟨rfl, rfl⟩, le_refl now, rfl, Go.wrap64_zero.symm, ?_⟩
    exact allowance_nonneg steady (le_refl now)
  exact (exec_invariant (Kept rate ratio)
    (fun _ _ _ kept taken => kept.step steady shared taken) initial ran).within

/-- After two seconds, a budget of one retry a second grants the first one. -/
theorem retries_within_budget_two_seconds :
    ∃ final, exec step (start (newRetryBudget (10 * Go.second) 1 (1 / 10) 0))
        [.recordRequest 0 0, .canRetry (2 * Go.second) (2 * Go.second) (2 * Go.second)] =
          some final ∧
      final.granted = 1 ∧
      (final.granted : Int) ≤
        max ⌊(1 : Int) * Go.seconds (final.clock - final.budget.lastReset)⌋
          ⌊(1 / 10 : ℚ) * final.recorded⌋ :=
  ⟨_, rfl, by decide +kernel,
    retries_within_budget (10 * Go.second) 1 (1 / 10) 0 (by decide) (by norm_num)
      [.recordRequest 0 0, .canRetry (2 * Go.second) (2 * Go.second) (2 * Go.second)] rfl⟩

end Budgeting

end Balance
