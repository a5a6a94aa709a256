import Balance.Machine.History
import Balance.Resilience.Circuit

/-! What the failure counter of a closed circuit has counted, and when the circuit opens. -/

namespace Balance

open Machine

/--
One atomic call of a breaker.

Results may come at any time, which includes every interleaving of overlapping requests.
-/
inductive BreakerCall where
  /-- A client asks for admission. -/
  | beforeRequest (now : Int)
  /-- A request ends, with or without an error. -/
  | afterRequest (failed : Bool) (now : Int)
  /-- The circuit is closed by hand. -/
  | reset (now : Int)
  deriving DecidableEq, Repr

namespace BreakerCall

/-- A request ends with an error. -/
def isFailure : BreakerCall → Bool
  | .afterRequest failed _ => failed
  | _ => false

/-- A request ends without an error. -/
def isSuccess : BreakerCall → Bool
  | .afterRequest failed _ => !failed
  | _ => false

/-- The circuit is closed by hand. -/
def isReset : BreakerCall → Bool
  | .reset _ => true
  | _ => false

end BreakerCall

namespace CircuitBreaker

/-- Make one call. -/
def call (cb : CircuitBreaker) : BreakerCall → CircuitBreaker
  | .beforeRequest now => (cb.beforeRequest now).1
  | .afterRequest failed now => cb.afterRequest failed now
  | .reset now => cb.reset now

/-- A success while the circuit is closed, a transition to closed, or a reset. -/
def Anew (cb : CircuitBreaker) (call : BreakerCall) : Prop :=
  call.isSuccess = true ∧ cb.state = .stateClosed ∨
    cb.state ≠ .stateClosed ∧ (cb.call call).state = .stateClosed ∨ call.isReset = true
  deriving Decidable

/-- The requests that failed since the count last started anew, along the steps of a run. -/
def failuresSince (steps : List (CircuitBreaker × BreakerCall)) : Nat :=
  countSince (fun step => step.1.Anew step.2) (fun step => step.2.isFailure) steps

/-- The count starts anew, or goes up by one for a failure. -/
theorem failuresSince_concat (steps : List (CircuitBreaker × BreakerCall)) (cb : CircuitBreaker)
    (call : BreakerCall) :
    failuresSince (steps ++ [(cb, call)]) =
      if cb.Anew call then 0
      else if call.isFailure = true then failuresSince steps + 1 else failuresSince steps := by
  simp only [failuresSince, countSince_concat, decide_eq_true_eq]

/-- Asking for admission finds a circuit closed or leaves it so only if it was. -/
theorem beforeRequest_closed_iff (cb : CircuitBreaker) (now : Int) :
    (cb.beforeRequest now).1.state = .stateClosed ↔ cb.state = .stateClosed := by
  -- Only an open circuit changes its state here, and it becomes half open.
  rcases cb.beforeRequest_branch now with closed | early | elapsed | free | full
  · rw [beforeRequest_closed closed]
  · rw [beforeRequest_early early.1 early.2]
  · rw [beforeRequest_probe elapsed.1 elapsed.2]
    simp [elapsed.1]
  · rw [beforeRequest_slot free.1 free.2]
  · rw [beforeRequest_full full.1 full.2]

/-- A success that leaves the circuit closed clears the failure counter. -/
theorem afterRequest_success_failures {cb : CircuitBreaker} {now : Int}
    (closed : (cb.afterRequest false now).state = .stateClosed) :
    (cb.afterRequest false now).failures = 0 := by
  -- A success is counted in a closed circuit, or closes a half open one.
  rw [afterRequest_state] at closed
  cases at_ : cb.state with
  | stateClosed => simp [afterRequest, onSuccess, at_]
  | stateOpen => simp [at_] at closed
  | stateHalfOpen =>
    have enough : cb.successes + 1 ≥ cb.maxFailures / 2 := by simpa [at_] using closed
    simp [afterRequest, onSuccess, at_, enough]

/-- A failure leaves the circuit closed only if it was, and below the threshold. -/
theorem afterRequest_failure_closed_iff (cb : CircuitBreaker) (now : Int) :
    (cb.afterRequest true now).state = .stateClosed ↔
      cb.state = .stateClosed ∧ cb.failures + 1 < cb.maxFailures := by
  rw [afterRequest_state]
  cases cb.state <;> simp

/-- What the failure counter is once a call leaves the circuit closed. -/
theorem call_closed {cb : CircuitBreaker} {call : BreakerCall}
    (closed : (cb.call call).state = .stateClosed) :
    (cb.Anew call ∧ (cb.call call).failures = 0) ∨
      cb.state = .stateClosed ∧ ¬cb.Anew call ∧
        (call.isFailure = false ∧ (cb.call call).failures = cb.failures ∨
          call.isFailure = true ∧ cb.failures + 1 < cb.maxFailures ∧
            (cb.call call).failures = cb.failures + 1) := by
  cases call with
  | beforeRequest now =>
    -- Asking for admission counts nothing and closes nothing.
    have before := (cb.beforeRequest_closed_iff now).mp closed
    refine .inr ⟨before, ?_, .inl ⟨rfl, ?_⟩⟩
    · simp [Anew, BreakerCall.isSuccess, BreakerCall.isReset, before]
    · simp only [call, beforeRequest_closed before]
  | afterRequest failed now =>
    cases failed with
    | false =>
      -- A success finds the circuit closed, or has just closed it.
      left
      refine ⟨?_, afterRequest_success_failures closed⟩
      by_cases before : cb.state = .stateClosed
      · exact .inl ⟨rfl, before⟩
      · exact .inr (.inl ⟨before, closed⟩)
    | true =>
      obtain ⟨before, below⟩ := (cb.afterRequest_failure_closed_iff now).mp closed
      refine .inr ⟨before, ?_, .inr ⟨rfl, below, cb.afterRequest_failures now⟩⟩
      simp [Anew, BreakerCall.isSuccess, BreakerCall.isReset, before]
  | reset now => exact .inl ⟨.inr (.inr rfl), rfl⟩

/-- No call changes the threshold. -/
theorem call_maxFailures (cb : CircuitBreaker) (call : BreakerCall) :
    (cb.call call).maxFailures = cb.maxFailures := by
  cases call with
  | beforeRequest now => exact (settings_eq_iff.mp (cb.beforeRequest_settings now)).1
  | afterRequest failed now => exact (settings_eq_iff.mp (cb.afterRequest_settings failed now)).1
  | reset now => simp [CircuitBreaker.call, reset, setState_eq]

/-- Below a threshold, counting one more does not overflow. -/
theorem toNat_add_one {failures threshold : UInt32} (below : failures < threshold) :
    (failures + 1).toNat = failures.toNat + 1 := by
  have small := UInt32.lt_iff_toNat_lt.mp below
  have large := threshold.toNat_lt
  rw [UInt32.toNat_add, UInt32.toNat_one, Nat.mod_eq_of_lt (by omega)]

/-- The failure counter of a closed circuit is exact and below the threshold. -/
structure Counted (threshold : UInt32) (steps : List (CircuitBreaker × BreakerCall))
    (cb : CircuitBreaker) : Prop where
  maxFailures : cb.maxFailures = threshold
  closed : cb.state = .stateClosed →
    cb.failures.toNat = failuresSince steps ∧ cb.failures < threshold

/-- Every call keeps the counter exact. -/
theorem Counted.call {threshold : UInt32} {steps : List (CircuitBreaker × BreakerCall)}
    {cb : CircuitBreaker} (counted : Counted threshold steps cb) (positive : 0 < threshold)
    (call : BreakerCall) : Counted threshold (steps ++ [(cb, call)]) (cb.call call) := by
  -- A call starts the count anew, leaves it alone, or adds one failure to it.
  obtain ⟨fixed, closed⟩ := counted
  refine ⟨by rw [call_maxFailures, fixed], ?_⟩
  intro after
  rw [failuresSince_concat]
  rcases call_closed after with ⟨anew, cleared⟩ | ⟨before, ongoing, uncounted | failed⟩
  · rw [cleared, if_pos anew]
    exact ⟨rfl, positive⟩
  · obtain ⟨none_failed, same⟩ := uncounted
    rw [same, if_neg ongoing, none_failed, if_neg Bool.false_ne_true]
    exact closed before
  · obtain ⟨one_failed, short, more⟩ := failed
    obtain ⟨known, below⟩ := closed before
    rw [more, if_neg ongoing, if_pos one_failed, toNat_add_one below, known, ← fixed]
    exact ⟨rfl, short⟩

/-- In every run of a breaker, the counter of a closed circuit is exact. -/
theorem counted_foldl {config : CircuitBreakerConfig} (positive : 1 ≤ config.maxFailures)
    (now : Int) (calls : List BreakerCall) :
    Counted config.maxFailures (trace CircuitBreaker.call (newCircuitBreaker config now) calls)
      (calls.foldl CircuitBreaker.call (newCircuitBreaker config now)) := by
  -- A threshold that is given is not replaced by the default.
  have some_failures : config.maxFailures ≠ 0 := by
    rintro zero
    simp [zero] at positive
  have above := UInt32.pos_iff_ne_zero.mpr some_failures
  refine foldl_trace (Counted config.maxFailures) ⟨?_, ?_⟩ ?_ calls
  · simp [newCircuitBreaker, CircuitBreakerConfig.withDefaults, some_failures]
  · intro _
    exact ⟨rfl, above⟩
  · intro past cb call counted
    exact counted.call above call

/-- A closed circuit opens at a failure that brings the counter to the threshold, and only then. -/
theorem call_opens_iff {cb : CircuitBreaker} (closed : cb.state = .stateClosed)
    (below : cb.failures < cb.maxFailures) (call : BreakerCall) :
    (cb.call call).state = .stateOpen ↔
      call.isFailure = true ∧ (cb.call call).failures = cb.maxFailures := by
  cases call with
  | beforeRequest now =>
    simp [CircuitBreaker.call, beforeRequest_closed closed, closed, BreakerCall.isFailure]
  | afterRequest failed now =>
    cases failed with
    | false => simp [CircuitBreaker.call, afterRequest_state, closed, BreakerCall.isFailure]
    | true =>
      -- The counter has been below the threshold, so it can reach it but not pass it.
      have opened : cb.failures + 1 ≥ cb.maxFailures ↔ cb.failures + 1 = cb.maxFailures := by
        have counted := toNat_add_one below
        rw [ge_iff_le, UInt32.le_iff_toNat_le, ← UInt32.toNat_inj, counted]
        have short := UInt32.lt_iff_toNat_lt.mp below
        omega
      simp only [CircuitBreaker.call, afterRequest_state, closed, BreakerCall.isFailure,
        afterRequest_failures, opened]
      simp
  | reset now => simp [CircuitBreaker.call, reset, setState_eq, BreakerCall.isFailure]

/--
While a circuit is closed, its failure counter is the number of requests that failed since the
start, a success while closed, a transition to closed or a reset, whichever was last. The counter
is below the threshold, and the circuit opens exactly at the failure that brings it there.
-/
theorem closed_circuit_counts_failures (config : CircuitBreakerConfig)
    (positive : 1 ≤ config.maxFailures) (now : Int) (calls : List BreakerCall)
    (closed : (calls.foldl CircuitBreaker.call (newCircuitBreaker config now)).state =
      .stateClosed) :
    let cb := calls.foldl CircuitBreaker.call (newCircuitBreaker config now)
    cb.failures.toNat =
        failuresSince (trace CircuitBreaker.call (newCircuitBreaker config now) calls) ∧
      cb.failures < config.maxFailures ∧
      ∀ call, (cb.call call).state = .stateOpen ↔
        call.isFailure = true ∧ (cb.call call).failures = config.maxFailures := by
  -- The next call opens the circuit only by reaching the threshold.
  intro cb
  have counted := counted_foldl positive now calls
  obtain ⟨exact_, below⟩ := counted.closed closed
  refine ⟨exact_, below, ?_⟩
  intro call
  rw [← counted.maxFailures] at below ⊢
  exact call_opens_iff closed below call

/-- After a success and a failure, one more failure opens a circuit that bears two. -/
theorem closed_circuit_counts_failures_two :
    let cb := [.afterRequest true 1, .afterRequest false 2, .afterRequest true 3].foldl
      CircuitBreaker.call (newCircuitBreaker ⟨"", 2, 0, 0⟩ 0)
    cb.failures.toNat = 1 ∧ (cb.call (.afterRequest true 4)).state = .stateOpen := by
  intro cb
  obtain ⟨counted, _, opens⟩ := closed_circuit_counts_failures ⟨"", 2, 0, 0⟩ (by decide) 0
    [.afterRequest true 1, .afterRequest false 2, .afterRequest true 3] (by decide)
  exact ⟨counted.trans (by decide), (opens _).mpr (by decide)⟩

end CircuitBreaker

end Balance
