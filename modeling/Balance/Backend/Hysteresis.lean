import Balance.Backend.State
import Balance.Machine.History

/-! A backend changes its state only after enough results in a row that speak for the change. -/

namespace Balance

open Machine

namespace Monitored

/-- Record the result of one health check, which succeeded or failed at some time. -/
def record (monitored : Monitored) (check : Bool × Int) : Monitored :=
  monitored.machine.record monitored.heap check.1 check.2

/-- A check changes metrics only, or makes a transition as well. -/
theorem record_cases (monitored : Monitored) (check : Bool × Int) :
    ∃ metrics, monitored.record check =
        ⟨{ monitored.machine with metrics := metrics }, monitored.heap, none⟩ ∨
      ∃ newState, monitored.record check =
        StateMachine.transitionTo { monitored.machine with metrics := metrics }
          monitored.heap newState check.2 := by
  -- The transition is made when the run that the check belongs to is long enough.
  simp only [record, StateMachine.record, StateMachine.recordSuccess,
    StateMachine.recordFailure]
  split <;> split
  · exact ⟨_, .inr ⟨_, rfl⟩⟩
  · exact ⟨_, .inl rfl⟩
  · exact ⟨_, .inr ⟨_, rfl⟩⟩
  · exact ⟨_, .inl rfl⟩

/-- The listeners are told of a check if it changes the state, with the states before and after. -/
theorem record_changed (monitored : Monitored) (check : Bool × Int) :
    (monitored.record check).changed =
      if monitored.machine.state = (monitored.record check).machine.state then none
      else some (monitored.machine.state, (monitored.record check).machine.state) := by
  -- A check either updates the metrics only, or makes a transition, which tells of changes.
  obtain ⟨metrics, shape | ⟨newState, shape⟩⟩ := monitored.record_cases check
  · rw [shape, if_pos rfl]
  · rw [shape, StateMachine.transitionTo_state, StateMachine.transitionTo]
    split <;> rfl

/-- The backend is in rotation exactly if its machine is healthy. -/
def FlagAgrees (monitored : Monitored) : Prop :=
  monitored.heap.isHealthy monitored.machine.backend =
    decide (monitored.machine.state = .stateHealthy)

/-- No check tears the flag and the state apart. -/
theorem FlagAgrees.record {monitored : Monitored} (agrees : FlagAgrees monitored)
    (check : Bool × Int) : FlagAgrees (monitored.record check) := by
  -- The flag is written together with the state.
  unfold FlagAgrees at agrees ⊢
  obtain ⟨metrics, shape | ⟨newState, shape⟩⟩ := monitored.record_cases check
  · rw [shape]
    exact agrees
  · rw [shape, StateMachine.transitionTo_state, StateMachine.transitionTo_backend,
      StateMachine.transitionTo_isHealthy]
    by_cases same : monitored.machine.state = newState
    · simpa [same] using agrees
    · simp [same]

/-- The state after a check: a run that is long enough decides it, and else it stays. -/
theorem record_state (monitored : Monitored) (check : Bool × Int) :
    (monitored.record check).machine.state =
      if check.1 = true then
        if monitored.machine.healthyThreshold ≤
            monitored.machine.metrics.consecutiveSuccesses + 1
        then .stateHealthy else monitored.machine.state
      else
        if monitored.machine.unhealthyThreshold ≤
            monitored.machine.metrics.consecutiveFailures + 1
        then .stateUnhealthy else monitored.machine.state := by
  -- Only the threshold of the kind of the check is looked at.
  simp only [record, StateMachine.record, StateMachine.recordSuccess,
    StateMachine.recordFailure, ge_iff_le]
  split <;> split <;> simp

/-- A check lengthens the run of its own kind, and ends the other. -/
theorem record_runs (monitored : Monitored) (check : Bool × Int) :
    (monitored.record check).machine.metrics.consecutiveSuccesses =
        (if check.1 = true then monitored.machine.metrics.consecutiveSuccesses + 1 else 0) ∧
      (monitored.record check).machine.metrics.consecutiveFailures =
        if check.1 = true then 0 else monitored.machine.metrics.consecutiveFailures + 1 := by
  unfold record StateMachine.record
  split
  · exact monitored.observe_success_runs check.2
  · exact monitored.observe_failure_runs check.2

/-- A check leaves the machine with its backend and its thresholds. -/
theorem record_fixed (monitored : Monitored) (check : Bool × Int) :
    (monitored.record check).machine.backend = monitored.machine.backend ∧
      (monitored.record check).machine.healthyThreshold = monitored.machine.healthyThreshold ∧
      (monitored.record check).machine.unhealthyThreshold =
        monitored.machine.unhealthyThreshold := by
  obtain ⟨metrics, shape | ⟨newState, shape⟩⟩ := monitored.record_cases check
  · rw [shape]
    exact ⟨rfl, rfl, rfl⟩
  · rw [shape]
    exact ⟨StateMachine.transitionTo_backend _ _ _ _, StateMachine.transitionTo_thresholds _ _ _ _⟩

/-- How many checks succeeded in a row at the end of a history. -/
def successRun (history : List (Bool × Int)) : Nat := trailing (fun check => check.1) history

/-- How many checks failed in a row at the end of a history. -/
def failureRun (history : List (Bool × Int)) : Nat := trailing (fun check => !check.1) history

/-- At some point enough checks had failed in a row, and at no later point enough succeeded. -/
def Failed (up down : Int) : List (Bool × Int) → Prop :=
  Latched (fun past => down ≤ failureRun past) fun past => up ≤ successRun past

/-- What is known of a monitored backend after a history of checks. -/
structure Reflects (backend : Nat) (up down : Int) (history : List (Bool × Int))
    (monitored : Monitored) : Prop where
  backend : monitored.machine.backend = backend
  thresholds : monitored.machine.healthyThreshold = up ∧
    monitored.machine.unhealthyThreshold = down
  successes : monitored.machine.metrics.consecutiveSuccesses = successRun history
  failures : monitored.machine.metrics.consecutiveFailures = failureRun history
  flag : FlagAgrees monitored
  unhealthy : monitored.machine.state = .stateUnhealthy ↔ Failed up down history

section Runs

variable {backend : Nat} {up down : Int} {history : List (Bool × Int)} {monitored : Monitored}

/-- A successful check may end a failure, and a failed one may begin it. -/
theorem failed_concat (rising : 1 ≤ up) (falling : 1 ≤ down) (check : Bool × Int) :
    Failed up down (history ++ [check]) ↔
      if check.1 = true then Failed up down history ∧ ¬up ≤ successRun history + 1
      else down ≤ failureRun history + 1 ∨ Failed up down history := by
  -- A check of one kind leaves no run of the other.
  rw [Failed, latched_concat]
  simp only [failureRun, successRun, trailing_concat]
  cases check.1 with
  | true =>
    have none_failed : ¬down ≤ 0 := by omega
    simp [none_failed]
  | false =>
    have none_succeeded : ¬up ≤ 0 := by omega
    simp [none_succeeded]

/-- A check keeps what is known of a backend up to date. -/
theorem Reflects.record (reflects : Reflects backend up down history monitored)
    (rising : 1 ≤ up) (falling : 1 ≤ down) (check : Bool × Int) :
    Reflects backend up down (history ++ [check]) (monitored.record check) := by
  -- Both runs and the state are those of the longer history.
  obtain ⟨own, thresholds, successes, failures, flag, unhealthy⟩ := reflects
  have fixed := monitored.record_fixed check
  have runs := monitored.record_runs check
  constructor
  · rw [fixed.1, own]
  · rw [fixed.2.1, fixed.2.2]
    exact thresholds
  · rw [runs.1, successes, successRun, successRun, trailing_concat]
    split <;> simp
  · rw [runs.2, failures, failureRun, failureRun, trailing_concat]
    cases check.1 <;> simp
  · exact flag.record check
  · rw [record_state, failed_concat rising falling, thresholds.1, thresholds.2, successes,
      failures, ← unhealthy]
    split <;> split <;> simp [*]

/-- What is known of a new machine whose backend is in rotation. -/
theorem reflects_start {heap : BackendHeap} (falling : 1 ≤ down)
    (healthy : heap.isHealthy backend = true) (now : Int) :
    Reflects backend up down [] (start heap backend up down now) := by
  -- A new machine is healthy and has seen nothing.
  constructor
  · rfl
  · exact ⟨rfl, rfl⟩
  · rfl
  · rfl
  · exact healthy
  · -- No check has failed yet.
    refine iff_of_false (by simp [start, newStateMachine]) ?_
    rw [Failed, latched_nil]
    simp only [failureRun, trailing_nil]
    omega

/-- A history of checks leaves a backend as it reflects them. -/
theorem reflects_foldl {heap : BackendHeap} (rising : 1 ≤ up) (falling : 1 ≤ down)
    (healthy : heap.isHealthy backend = true) (now : Int) (history : List (Bool × Int)) :
    Reflects backend up down history
      (history.foldl record (start heap backend up down now)) :=
  foldl_history (Reflects backend up down) (reflects_start falling healthy now)
    (fun _ _ check reflects => reflects.record rising falling check) history

end Runs

/-- What the listeners are told along a history are the changes of the state. -/
theorem notifications_eq_changes (monitored : Monitored) (history : List (Bool × Int)) :
    (history.scanl record monitored).tail.filterMap changed =
      changes ((history.scanl record monitored).map fun monitored => monitored.machine.state) := by
  -- Each check adds one state, and tells the listeners if it differs from the one before.
  induction history generalizing monitored with
  | nil => rfl
  | cons check rest ih =>
    obtain ⟨later, shape⟩ : ∃ later, rest.scanl record (monitored.record check) =
        monitored.record check :: later := by
      cases rest <;> simp
    have tail := ih (monitored.record check)
    rw [shape, List.tail_cons, List.map_cons] at tail
    rw [List.scanl_cons, List.tail_cons, shape, List.filterMap_cons, List.map_cons, List.map_cons,
      changes, ← tail, record_changed]
    by_cases same : monitored.machine.state = (monitored.record check).machine.state
    · rw [if_pos same, if_pos same]
    · rw [if_neg same, if_neg same]

/-- Along a history of checks, each state is reached by a part of it. -/
theorem mem_scanl {monitored : Monitored} {history : List (Bool × Int)} {reached : Monitored}
    (member : reached ∈ history.scanl record monitored) :
    ∃ past, past <+: history ∧ reached = past.foldl record monitored := by
  -- The part grows by one check with each state.
  induction history generalizing monitored with
  | nil =>
    obtain rfl : reached = monitored := by simpa using member
    exact ⟨[], List.prefix_refl [], rfl⟩
  | cons check rest ih =>
    rw [List.scanl_cons, List.mem_cons] at member
    rcases member with rfl | later
    · exact ⟨[], List.nil_prefix, rfl⟩
    · obtain ⟨past, early, rfl⟩ := ih later
      exact ⟨check :: past, by simpa using early, rfl⟩

/--
A backend that starts healthy ends unhealthy exactly if enough checks had failed in a row at some
point and not enough succeeded in a row later. It is in rotation exactly while it is healthy, and
the listeners are told each change once, from the state that they were last told of.
-/
theorem health_hysteresis (heap : BackendHeap) (backend : Nat) (up down now : Int)
    (rising : 1 ≤ up) (falling : 1 ≤ down) (healthy : heap.isHealthy backend = true)
    (history : List (Bool × Int)) :
    ((history.foldl record (start heap backend up down now)).machine.state = .stateUnhealthy ↔
      ∃ point, point <+: history ∧ down ≤ failureRun point ∧
        ∀ later, point <+: later → later ≠ point → later <+: history → ¬up ≤ successRun later) ∧
    (∀ reached ∈ history.scanl record (start heap backend up down now),
      reached.heap.isHealthy backend = decide (reached.machine.state = .stateHealthy)) ∧
    (history.scanl record (start heap backend up down now)).filterMap changed =
      changes ((history.scanl record (start heap backend up down now)).map
        fun reached => reached.machine.state) ∧
    ((history.scanl record (start heap backend up down now)).filterMap changed).IsChain
      fun earlier later => earlier.2 = later.1 := by
  have told : (history.scanl record (start heap backend up down now)).filterMap changed =
      changes ((history.scanl record (start heap backend up down now)).map
        fun reached => reached.machine.state) := by
    rw [← notifications_eq_changes]
    -- Nobody is told of the state that a machine starts in.
    cases history with
    | nil => rfl
    | cons check rest => rw [List.scanl_cons, List.tail_cons, List.filterMap_cons_none rfl]
  refine ⟨(reflects_foldl rising falling healthy now history).unhealthy, ?_, told, ?_⟩
  · intro reached member
    obtain ⟨past, _, rfl⟩ := mem_scanl member
    have reflects := reflects_foldl rising falling healthy now past
    have flag := reflects.flag
    rwa [FlagAgrees, reflects.backend] at flag
  · rw [told]
    exact changes_chain _

/-- Two failures in a row make a backend unhealthy, and one success after them is not enough. -/
theorem health_hysteresis_two :
    ([(false, 1), (false, 2), (true, 3)].foldl record
      (start (fun _ => newBackend "" "" 1) 0 2 2 0)).machine.state = .stateUnhealthy := by
  refine (health_hysteresis (fun _ => newBackend "" "" 1) 0 2 2 0 (by decide) (by decide) rfl
    [(false, 1), (false, 2), (true, 3)]).1.mpr ⟨[(false, 1), (false, 2)], ?_, by decide, ?_⟩
  · exact List.prefix_append [(false, 1), (false, 2)] [(true, 3)]
  · intro later after other early
    have parts : later <+: [(false, 1), (false, 2)] ++ [(true, 3)] := early
    rcases List.prefix_concat_iff.mp parts with rfl | inside
    · decide
    · exact absurd (inside.eq_of_length_le after.length_le) other

end Monitored

end Balance
