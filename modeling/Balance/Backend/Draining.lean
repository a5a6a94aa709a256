import Balance.Backend.State

/-! Health evidence that arrives while a backend is being drained. -/

namespace Balance

open Machine

namespace Monitored

/-- Evidence can always be recorded. -/
def step (monitored : Monitored) (recorded : HealthEvidence) : Option Monitored :=
  some (monitored.observe recorded)

/-- The backend is being drained and receives no new traffic. -/
def Draining (monitored : Monitored) : Prop :=
  monitored.machine.state = .stateDraining ∧
    monitored.heap.isHealthy monitored.machine.backend = false

/-- Outside the healthy state, the backend is out of rotation. -/
def OutOfRotation (monitored : Monitored) : Prop :=
  monitored.machine.state ≠ .stateHealthy →
    monitored.heap.isHealthy monitored.machine.backend = false

/-- Every transition leaves a backend that is not healthy out of rotation. -/
theorem transitionTo_outOfRotation {sm : StateMachine} {heap : BackendHeap}
    (before : sm.state ≠ .stateHealthy → heap.isHealthy sm.backend = false)
    (newState : BackendState) (now : Int) :
    OutOfRotation (sm.transitionTo heap newState now) := by
  -- A transition that writes, writes what the new state calls for.
  intro notHealthy
  simp only [StateMachine.transitionTo_state, StateMachine.transitionTo_backend] at notHealthy ⊢
  rw [StateMachine.transitionTo_isHealthy]
  split
  · simp [notHealthy]
  · -- Nothing was written, so the machine had left the healthy state before.
    rename_i unchanged
    have same : sm.state = newState := by simpa using unchanged
    exact before (same ▸ notHealthy)

/-- No event brings a backend into rotation without making its machine healthy. -/
theorem OutOfRotation.apply {monitored : Monitored} (out : OutOfRotation monitored)
    (event : MachineEvent) : OutOfRotation (monitored.apply event) := by
  -- Metrics alone say nothing about rotation, and the proxy only ever clears the flag.
  rcases monitored.apply_cases event with ⟨metrics, shape⟩ | ⟨metrics, newState, now, shape⟩ | shape
  all_goals rw [shape]
  · exact out
  · apply transitionTo_outOfRotation
    exact out
  · intro _
    simp [BackendHeap.markUnhealthy]

/-- In every history, a backend that is not healthy is out of rotation. -/
theorem OutOfRotation.history {monitored : Monitored} (out : OutOfRotation monitored)
    (history : List MachineEvent) : OutOfRotation (history.foldl Monitored.apply monitored) := by
  -- Each event hands the property on to the rest of the history.
  induction history generalizing monitored with
  | nil => exact out
  | cons event rest ih => exact ih (out.apply event)

/-- Draining takes effect in every history of the machine. -/
theorem startDraining_draining {monitored : Monitored} (out : OutOfRotation monitored)
    (now : Int) : Draining (monitored.apply (.startDraining now)) := by
  -- Draining is not the healthy state, and so the flag is down.
  have drained := out.apply (.startDraining now)
  have state : (monitored.apply (.startDraining now)).machine.state = .stateDraining :=
    StateMachine.transitionTo_state _ _ _ _
  exact ⟨state, drained (by simp [state])⟩

end Monitored

/--
No run of successes reaches the healthy threshold and no run of failures the unhealthy one.

Both runs go on from the given lengths, and each ends at a result of the other kind or a reset.
-/
def BelowThresholds (healthyThreshold unhealthyThreshold : Int) :
    Int → Int → List HealthEvidence → Prop
  | _, _, [] => True
  | successes, _, .recordSuccess _ :: rest =>
    successes + 1 < healthyThreshold ∧
      BelowThresholds healthyThreshold unhealthyThreshold (successes + 1) 0 rest
  | _, failures, .recordFailure _ :: rest =>
    failures + 1 < unhealthyThreshold ∧
      BelowThresholds healthyThreshold unhealthyThreshold 0 (failures + 1) rest
  | successes, failures, .recordRequest _ _ :: rest =>
    BelowThresholds healthyThreshold unhealthyThreshold successes failures rest
  | _, _, .reset _ :: rest => BelowThresholds healthyThreshold unhealthyThreshold 0 0 rest

namespace Monitored

/-- A success keeps the backend draining exactly when it is one short of the threshold. -/
theorem observe_success_draining {monitored : Monitored} (draining : Draining monitored)
    (now : Int) :
    Draining (monitored.observe (.recordSuccess now)) ↔
      monitored.machine.metrics.consecutiveSuccesses + 1 <
        monitored.machine.healthyThreshold := by
  -- The test looks at the count alone, not at the state.
  simp only [observe, StateMachine.recordSuccess]
  split
  · -- At the threshold the machine leaves draining for the healthy state.
    rename_i reached
    simp only [Draining, StateMachine.transitionTo_state, reduceCtorEq, false_and, false_iff]
    omega
  · rename_i short
    have below := Int.not_le.mp short
    exact iff_of_true draining below

/-- A failure keeps the backend draining exactly when it is one short of the threshold. -/
theorem observe_failure_draining {monitored : Monitored} (draining : Draining monitored)
    (now : Int) :
    Draining (monitored.observe (.recordFailure now)) ↔
      monitored.machine.metrics.consecutiveFailures + 1 <
        monitored.machine.unhealthyThreshold := by
  -- Here, too, the test looks at the count alone.
  simp only [observe, StateMachine.recordFailure]
  split
  · rename_i reached
    simp only [Draining, StateMachine.transitionTo_state, reduceCtorEq, false_and, false_iff]
    omega
  · rename_i short
    have below := Int.not_le.mp short
    exact iff_of_true draining below

/-- A draining backend stays so if it is draining after the first evidence and stays so then. -/
theorem always_draining_cons {monitored : Monitored} (draining : Draining monitored)
    (recorded : HealthEvidence) (rest : List HealthEvidence) :
    Always step Draining monitored (recorded :: rest) ↔
      Draining (monitored.observe recorded) ∧
        Always step Draining (monitored.observe recorded) rest := by
  simp only [Always, step, Option.some.injEq, forall_eq']
  constructor
  · rintro ⟨_, always⟩
    exact ⟨always.head, always⟩
  · rintro ⟨_, always⟩
    exact ⟨draining, always⟩

/-- A draining backend stays so under evidence exactly when the evidence stays below thresholds. -/
theorem always_draining_iff {monitored : Monitored} (draining : Draining monitored)
    (evidence : List HealthEvidence) :
    Always step Draining monitored evidence ↔
      BelowThresholds monitored.machine.healthyThreshold monitored.machine.unhealthyThreshold
        monitored.machine.metrics.consecutiveSuccesses
        monitored.machine.metrics.consecutiveFailures evidence := by
  -- The induction follows the evidence, with the counters of the machine as the two runs.
  induction evidence generalizing monitored with
  | nil => simpa [Always, BelowThresholds] using draining
  | cons recorded rest ih =>
    have thresholds := monitored.apply_thresholds (.evidence recorded)
    simp only [apply] at thresholds
    have later (still : Draining (monitored.observe recorded)) := ih still
    rw [thresholds.1, thresholds.2] at later
    rw [always_draining_cons draining]
    cases recorded with
    | recordSuccess now =>
      have runs := monitored.observe_success_runs now
      rw [runs.1, runs.2] at later
      rw [BelowThresholds, ← observe_success_draining draining now]
      exact and_congr_right later
    | recordFailure now =>
      have runs := monitored.observe_failure_runs now
      rw [runs.1, runs.2] at later
      rw [BelowThresholds, ← observe_failure_draining draining now]
      exact and_congr_right later
    | recordRequest success responseTime =>
      have runs := monitored.observe_request_runs success responseTime
      rw [runs.1, runs.2] at later
      have still : Draining (monitored.observe (.recordRequest success responseTime)) := by
        cases success <;> exact draining
      rw [BelowThresholds, ← later still]
      exact and_iff_right still
    | reset now =>
      have still : Draining (monitored.observe (.reset now)) := draining
      rw [BelowThresholds, and_iff_right still]
      exact later still

/-- No history changes the thresholds. -/
theorem history_thresholds (history : List MachineEvent) (monitored : Monitored) :
    (history.foldl apply monitored).machine.healthyThreshold =
        monitored.machine.healthyThreshold ∧
      (history.foldl apply monitored).machine.unhealthyThreshold =
        monitored.machine.unhealthyThreshold := by
  -- No single event changes them.
  induction history generalizing monitored with
  | nil => exact ⟨rfl, rfl⟩
  | cons event rest ih =>
    have kept := monitored.apply_thresholds event
    exact ⟨(ih _).1.trans kept.1, (ih _).2.trans kept.2⟩

/--
A draining backend is kept out of traffic exactly while its checks stay below the thresholds.

The runs of successes and failures go on from where they stood when draining began.
-/
theorem draining_stable_iff (heap : BackendHeap) (backend : Nat)
    (healthyThreshold unhealthyThreshold now drained : Int) (history : List MachineEvent)
    (evidence : List HealthEvidence) :
    let monitored := history.foldl apply
      (start heap backend healthyThreshold unhealthyThreshold now)
    Always step Draining (monitored.apply (.startDraining drained)) evidence ↔
      BelowThresholds healthyThreshold unhealthyThreshold
        monitored.machine.metrics.consecutiveSuccesses
        monitored.machine.metrics.consecutiveFailures evidence := by
  intro monitored
  -- The healthy state is the initial one, so nothing is claimed of the flag there.
  have out : OutOfRotation monitored :=
    OutOfRotation.history (by intro notHealthy; exact absurd rfl notHealthy) history
  have thresholds : monitored.machine.healthyThreshold = healthyThreshold ∧
      monitored.machine.unhealthyThreshold = unhealthyThreshold :=
    history_thresholds history _
  have kept := monitored.apply_thresholds (.startDraining drained)
  have runs := monitored.machine.transitionTo_runs monitored.heap .stateDraining drained
  have stable := always_draining_iff (startDraining_draining out drained) evidence
  rw [kept.1, kept.2, thresholds.1, thresholds.2] at stable
  rw [stable, apply, StateMachine.startDraining, runs.1, runs.2]

/-- Two passed checks bring a draining backend back into rotation. -/
theorem passing_checks_end_draining :
    let monitored := (start (fun _ => newBackend "test" "localhost:8080" 1) 0 2 3 0).apply
      (.startDraining 1)
    Draining monitored ∧
      ((monitored.observe (.recordSuccess 2)).observe (.recordSuccess 3)).machine.state =
        .stateHealthy ∧
      ((monitored.observe (.recordSuccess 2)).observe (.recordSuccess 3)).heap.isHealthy 0 = true ∧
      ¬ Always step Draining monitored [.recordSuccess 2, .recordSuccess 3] := by
  -- The state after the second check is computed, and it is not draining.
  refine ⟨⟨rfl, rfl⟩, rfl, rfl, ?_⟩
  intro given
  rcases given with ⟨_, later⟩
  have healthy := (((later _ rfl).2 _ rfl).1)
  exact absurd healthy (by decide)

end Monitored

end Balance
