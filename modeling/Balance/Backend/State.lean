import Balance.Backend.Backend
import Balance.Machine.Run

/-! The health state machine of a backend: its counters, thresholds and transitions. -/

namespace Balance

/-- The health state of a backend. -/
inductive BackendState where
  /-- The backend is healthy and accepts traffic. -/
  | stateHealthy
  /-- The backend has failed health checks. -/
  | stateUnhealthy
  /-- The backend is being gracefully removed. -/
  | stateDraining
  deriving DecidableEq, Repr

/-- The counters and instants kept for a backend. -/
structure HealthMetrics where
  consecutiveSuccesses : Int
  consecutiveFailures : Int
  totalSuccesses : Int
  totalFailures : Int
  lastCheckTime : Int
  lastStateChange : Int
  totalRequests : Int
  failedRequests : Int
  totalResponseTime : Int
  deriving DecidableEq

/-- The state machine of the backend behind a pointer. -/
structure StateMachine where
  backend : Nat
  state : BackendState
  metrics : HealthMetrics
  healthyThreshold : Int
  unhealthyThreshold : Int
  deriving DecidableEq

/-- A new machine is healthy, whatever the flag of its backend says. -/
def newStateMachine (backend : Nat) (healthyThreshold unhealthyThreshold now : Int) :
    StateMachine where
  backend := backend
  state := .stateHealthy
  metrics :=
    { consecutiveSuccesses := 0
      consecutiveFailures := 0
      totalSuccesses := 0
      totalFailures := 0
      lastCheckTime := now
      lastStateChange := now
      totalRequests := 0
      failedRequests := 0
      totalResponseTime := 0 }
  healthyThreshold := healthyThreshold
  unhealthyThreshold := unhealthyThreshold

/-- A machine and the backends it writes to, with the change its listeners are told. -/
structure Monitored where
  machine : StateMachine
  heap : BackendHeap
  changed : Option (BackendState × BackendState)

namespace StateMachine

variable (sm : StateMachine) (heap : BackendHeap)

/-- Move to a state and write the flag of the backend, unless the machine is there already. -/
def transitionTo (newState : BackendState) (now : Int) : Monitored :=
  if sm.state = newState then ⟨sm, heap, none⟩
  else
    { machine :=
        { sm with
          state := newState
          metrics := { sm.metrics with lastStateChange := now } }
      -- Every state but the healthy one takes the backend out of rotation.
      heap :=
        if newState = .stateHealthy then heap.markHealthy sm.backend
        else heap.markUnhealthy sm.backend
      changed := some (sm.state, newState) }

/-- Count a successful check, and become healthy when enough of them came in a row. -/
def recordSuccess (now : Int) : Monitored :=
  let sm :=
    { sm with
      metrics :=
        { sm.metrics with
          consecutiveSuccesses := sm.metrics.consecutiveSuccesses + 1
          consecutiveFailures := 0
          totalSuccesses := sm.metrics.totalSuccesses + 1
          lastCheckTime := now } }
  -- The state the machine is in plays no part in this test.
  if sm.metrics.consecutiveSuccesses ≥ sm.healthyThreshold then
    sm.transitionTo heap .stateHealthy now
  else ⟨sm, heap, none⟩

/-- Count a failed check, and become unhealthy when enough of them came in a row. -/
def recordFailure (now : Int) : Monitored :=
  let sm :=
    { sm with
      metrics :=
        { sm.metrics with
          consecutiveFailures := sm.metrics.consecutiveFailures + 1
          consecutiveSuccesses := 0
          totalFailures := sm.metrics.totalFailures + 1
          lastCheckTime := now } }
  if sm.metrics.consecutiveFailures ≥ sm.unhealthyThreshold then
    sm.transitionTo heap .stateUnhealthy now
  else ⟨sm, heap, none⟩

/-- Count a check that has succeeded or failed. -/
def record (success : Bool) (now : Int) : Monitored :=
  if success then sm.recordSuccess heap now else sm.recordFailure heap now

/-- Count a request that went to the backend. -/
def recordRequest (success : Bool) (responseTime : Int) : StateMachine :=
  let metrics := { sm.metrics with totalRequests := sm.metrics.totalRequests + 1 }
  if success then
    { sm with
      metrics := { metrics with totalResponseTime := metrics.totalResponseTime + responseTime } }
  else { sm with metrics := { metrics with failedRequests := metrics.failedRequests + 1 } }

/-- Begin to remove the backend gracefully. -/
def startDraining (now : Int) : Monitored := sm.transitionTo heap .stateDraining now

/-- Make the backend healthy by hand. -/
def forceHealthy (now : Int) : Monitored :=
  let sm :=
    { sm with
      metrics :=
        { sm.metrics with
          consecutiveSuccesses := sm.healthyThreshold
          consecutiveFailures := 0 } }
  sm.transitionTo heap .stateHealthy now

/-- Make the backend unhealthy by hand. -/
def forceUnhealthy (now : Int) : Monitored :=
  let sm :=
    { sm with
      metrics :=
        { sm.metrics with
          consecutiveFailures := sm.unhealthyThreshold
          consecutiveSuccesses := 0 } }
  sm.transitionTo heap .stateUnhealthy now

/-- Clear the metrics, but neither the state nor the flag. -/
def reset (now : Int) : StateMachine :=
  { sm with
    metrics :=
      { consecutiveSuccesses := 0
        consecutiveFailures := 0
        totalSuccesses := 0
        totalFailures := 0
        lastCheckTime := now
        lastStateChange := now
        totalRequests := 0
        failedRequests := 0
        totalResponseTime := 0 } }

/-- A transition ends in the state it aims at. -/
@[simp] theorem transitionTo_state (newState : BackendState) (now : Int) :
    (sm.transitionTo heap newState now).machine.state = newState := by
  -- A transition that does nothing is in the state already.
  unfold transitionTo
  split
  · assumption
  · rfl

/-- A transition never moves the machine to another backend. -/
@[simp] theorem transitionTo_backend (newState : BackendState) (now : Int) :
    (sm.transitionTo heap newState now).machine.backend = sm.backend := by
  unfold transitionTo
  split <;> rfl

/-- A transition keeps the thresholds. -/
@[simp] theorem transitionTo_thresholds (newState : BackendState) (now : Int) :
    (sm.transitionTo heap newState now).machine.healthyThreshold = sm.healthyThreshold ∧
      (sm.transitionTo heap newState now).machine.unhealthyThreshold = sm.unhealthyThreshold := by
  unfold transitionTo
  split <;> exact ⟨rfl, rfl⟩

/-- A transition keeps the runs of successes and failures. -/
@[simp] theorem transitionTo_runs (newState : BackendState) (now : Int) :
    (sm.transitionTo heap newState now).machine.metrics.consecutiveSuccesses =
        sm.metrics.consecutiveSuccesses ∧
      (sm.transitionTo heap newState now).machine.metrics.consecutiveFailures =
        sm.metrics.consecutiveFailures := by
  unfold transitionTo
  split <;> exact ⟨rfl, rfl⟩

/-- Only a real transition writes a flag, and only that of the machine's own backend. -/
theorem transitionTo_isHealthy (newState : BackendState) (now : Int) (b : Nat) :
    (sm.transitionTo heap newState now).heap.isHealthy b =
      if b = sm.backend ∧ sm.state ≠ newState then decide (newState = .stateHealthy)
      else heap.isHealthy b := by
  -- A machine that is in the state already leaves the flag as it finds it.
  unfold transitionTo
  by_cases same : sm.state = newState
  · simp [same]
  · by_cases healthy : newState = .stateHealthy
    · subst healthy
      simp [same, BackendHeap.markHealthy]
    · simp [same, healthy, BackendHeap.markUnhealthy]

/-- A transition renames no backend. -/
theorem transitionTo_name (newState : BackendState) (now : Int) (b : Nat) :
    ((sm.transitionTo heap newState now).heap b).name = (heap b).name := by
  -- At most one flag is written, and flags carry no names.
  unfold transitionTo
  split
  · rfl
  · split <;> exact BackendHeap.storeHealthy_name _ _ _ _

end StateMachine

/-- Results and requests recorded for a backend, and the clearing of its metrics. -/
inductive HealthEvidence where
  | recordSuccess (now : Int)
  | recordFailure (now : Int)
  | recordRequest (success : Bool) (responseTime : Int)
  | reset (now : Int)
  deriving DecidableEq, Repr

/-- Everything that happens to a state machine and the flag of its backend. -/
inductive MachineEvent where
  | evidence (recorded : HealthEvidence)
  | startDraining (now : Int)
  | forceHealthy (now : Int)
  | forceUnhealthy (now : Int)
  /-- A proxy marks the backend unhealthy behind the machine's back. -/
  | markUnhealthy
  deriving DecidableEq, Repr

namespace Monitored

/-- A new machine over the backends as they are. -/
def start (heap : BackendHeap) (backend : Nat) (healthyThreshold unhealthyThreshold now : Int) :
    Monitored :=
  ⟨newStateMachine backend healthyThreshold unhealthyThreshold now, heap, none⟩

/-- Record one piece of evidence. -/
def observe (monitored : Monitored) : HealthEvidence → Monitored
  | .recordSuccess now => monitored.machine.recordSuccess monitored.heap now
  | .recordFailure now => monitored.machine.recordFailure monitored.heap now
  | .recordRequest success responseTime =>
    ⟨monitored.machine.recordRequest success responseTime, monitored.heap, none⟩
  | .reset now => ⟨monitored.machine.reset now, monitored.heap, none⟩

/-- Apply one event of any kind. -/
def apply (monitored : Monitored) : MachineEvent → Monitored
  | .evidence recorded => monitored.observe recorded
  | .startDraining now => monitored.machine.startDraining monitored.heap now
  | .forceHealthy now => monitored.machine.forceHealthy monitored.heap now
  | .forceUnhealthy now => monitored.machine.forceUnhealthy monitored.heap now
  | .markUnhealthy =>
    ⟨monitored.machine, monitored.heap.markUnhealthy monitored.machine.backend, none⟩

/-- An event changes metrics only, or makes a transition as well, or writes the flag alone. -/
theorem apply_cases (monitored : Monitored) (event : MachineEvent) :
    (∃ metrics, monitored.apply event =
        ⟨{ monitored.machine with metrics := metrics }, monitored.heap, none⟩) ∨
      (∃ metrics newState now, monitored.apply event =
        StateMachine.transitionTo { monitored.machine with metrics := metrics }
          monitored.heap newState now) ∨
      monitored.apply event =
        ⟨monitored.machine, monitored.heap.markUnhealthy monitored.machine.backend, none⟩ := by
  -- Recorded results reach a transition only at their threshold, calls by hand always do.
  cases event with
  | evidence recorded =>
    cases recorded with
    | recordSuccess now =>
      simp only [apply, observe, StateMachine.recordSuccess]
      split
      · exact .inr (.inl ⟨_, _, _, rfl⟩)
      · exact .inl ⟨_, rfl⟩
    | recordFailure now =>
      simp only [apply, observe, StateMachine.recordFailure]
      split
      · exact .inr (.inl ⟨_, _, _, rfl⟩)
      · exact .inl ⟨_, rfl⟩
    | recordRequest success responseTime => cases success <;> exact .inl ⟨_, rfl⟩
    | reset now => exact .inl ⟨_, rfl⟩
  | startDraining now => exact .inr (.inl ⟨monitored.machine.metrics, _, _, rfl⟩)
  | forceHealthy now => exact .inr (.inl ⟨_, _, _, rfl⟩)
  | forceUnhealthy now => exact .inr (.inl ⟨_, _, _, rfl⟩)
  | markUnhealthy => exact .inr (.inr rfl)

/-- A success lengthens the run of successes and ends that of failures. -/
theorem observe_success_runs (monitored : Monitored) (now : Int) :
    (monitored.observe (.recordSuccess now)).machine.metrics.consecutiveSuccesses =
        monitored.machine.metrics.consecutiveSuccesses + 1 ∧
      (monitored.observe (.recordSuccess now)).machine.metrics.consecutiveFailures = 0 := by
  -- A transition that follows the count leaves both runs alone.
  simp only [observe, StateMachine.recordSuccess]
  split <;> simp

/-- A failure lengthens the run of failures and ends that of successes. -/
theorem observe_failure_runs (monitored : Monitored) (now : Int) :
    (monitored.observe (.recordFailure now)).machine.metrics.consecutiveSuccesses = 0 ∧
      (monitored.observe (.recordFailure now)).machine.metrics.consecutiveFailures =
        monitored.machine.metrics.consecutiveFailures + 1 := by
  -- A transition that follows the count leaves both runs alone.
  simp only [observe, StateMachine.recordFailure]
  split <;> simp

/-- Counting a request leaves both runs as they are. -/
theorem observe_request_runs (monitored : Monitored) (success : Bool) (responseTime : Int) :
    (monitored.observe (.recordRequest success responseTime)).machine.metrics.consecutiveSuccesses =
        monitored.machine.metrics.consecutiveSuccesses ∧
      (monitored.observe
        (.recordRequest success responseTime)).machine.metrics.consecutiveFailures =
        monitored.machine.metrics.consecutiveFailures := by
  cases success <;> exact ⟨rfl, rfl⟩

/-- No event changes the thresholds. -/
theorem apply_thresholds (monitored : Monitored) (event : MachineEvent) :
    (monitored.apply event).machine.healthyThreshold = monitored.machine.healthyThreshold ∧
      (monitored.apply event).machine.unhealthyThreshold =
        monitored.machine.unhealthyThreshold := by
  -- Neither new metrics nor a transition nor a flag touches them.
  rcases monitored.apply_cases event with ⟨metrics, shape⟩ | ⟨metrics, newState, now, shape⟩ | shape
  all_goals rw [shape]
  · exact ⟨rfl, rfl⟩
  · exact StateMachine.transitionTo_thresholds _ _ _ _
  · exact ⟨rfl, rfl⟩

/-- No event moves the machine to another backend. -/
theorem apply_backend (monitored : Monitored) (event : MachineEvent) :
    (monitored.apply event).machine.backend = monitored.machine.backend := by
  -- The pointer is fixed when the machine is built.
  rcases monitored.apply_cases event with ⟨metrics, shape⟩ | ⟨metrics, newState, now, shape⟩ | shape
  all_goals rw [shape]
  exact StateMachine.transitionTo_backend _ _ _ _

/-- No event renames a backend. -/
theorem apply_name (monitored : Monitored) (event : MachineEvent) (b : Nat) :
    ((monitored.apply event).heap b).name = (monitored.heap b).name := by
  -- The heap changes by one flag at most.
  rcases monitored.apply_cases event with ⟨metrics, shape⟩ | ⟨metrics, newState, now, shape⟩ | shape
  all_goals rw [shape]
  · exact StateMachine.transitionTo_name _ _ _ _ _
  · exact BackendHeap.storeHealthy_name _ _ _ _

/-- An event writes the flag of no backend but the machine's own. -/
theorem apply_isHealthy_of_ne (monitored : Monitored) (event : MachineEvent) {b : Nat}
    (other : b ≠ monitored.machine.backend) :
    (monitored.apply event).heap.isHealthy b = monitored.heap.isHealthy b := by
  -- Both ways to write a flag go through the machine's own pointer.
  rcases monitored.apply_cases event with ⟨metrics, shape⟩ | ⟨metrics, newState, now, shape⟩ | shape
  all_goals rw [shape]
  · rw [StateMachine.transitionTo_isHealthy]
    exact if_neg fun both => other both.1
  · simp [BackendHeap.markUnhealthy, other]

end Monitored

end Balance
