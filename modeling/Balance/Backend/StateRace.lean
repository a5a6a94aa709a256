import Balance.Backend.State
import Balance.Machine.Threads

/-! Concurrent calls of one state machine, at the granularity of its atomic loads and stores. -/

namespace Balance

open Machine

/-- The machine with its atomic words, its backends, and the changes its listeners were told. -/
structure SharedMachine where
  machine : StateMachine
  heap : BackendHeap
  notified : List (BackendState × BackendState)

/-- The calls that may run at the same time. -/
inductive StateCall where
  | recordSuccess
  | recordFailure
  | startDraining
  | forceHealthy
  | forceUnhealthy
  deriving DecidableEq, Repr

/-- The atomic accesses to the metrics that a call makes before its transition. -/
inductive MetricAccess where
  | addSuccesses
  | addFailures
  | storeSuccesses (value : Int)
  | storeFailures (value : Int)
  | addTotalSuccesses
  | addTotalFailures
  | storeLastCheckTime
  /-- Go on only if the run of successes has reached the healthy threshold. -/
  | testSuccesses
  /-- Go on only if the run of failures has reached the unhealthy threshold. -/
  | testFailures
  deriving DecidableEq, Repr

/-- The accesses a call makes in order, and the state its transition aims at. -/
def StateCall.code (sm : StateMachine) : StateCall → List MetricAccess × BackendState
  | .recordSuccess =>
    ([.addSuccesses, .storeFailures 0, .addTotalSuccesses, .storeLastCheckTime, .testSuccesses],
      .stateHealthy)
  | .recordFailure =>
    ([.addFailures, .storeSuccesses 0, .addTotalFailures, .storeLastCheckTime, .testFailures],
      .stateUnhealthy)
  | .startDraining => ([], .stateDraining)
  | .forceHealthy =>
    ([.storeSuccesses sm.healthyThreshold, .storeFailures 0], .stateHealthy)
  | .forceUnhealthy =>
    ([.storeFailures sm.unhealthyThreshold, .storeSuccesses 0], .stateUnhealthy)

/-- What a call does when nothing runs beside it. -/
def StateCall.alone (sm : StateMachine) (heap : BackendHeap) (now : Int) : StateCall → Monitored
  | .recordSuccess => sm.recordSuccess heap now
  | .recordFailure => sm.recordFailure heap now
  | .startDraining => sm.startDraining heap now
  | .forceHealthy => sm.forceHealthy heap now
  | .forceUnhealthy => sm.forceUnhealthy heap now

/-- One access to the metrics, and whether the call goes on after it. -/
def MetricAccess.perform (metrics : HealthMetrics) (sm : StateMachine) (now : Int) :
    MetricAccess → HealthMetrics × Bool
  | .addSuccesses =>
    ({ metrics with consecutiveSuccesses := metrics.consecutiveSuccesses + 1 }, true)
  | .addFailures =>
    ({ metrics with consecutiveFailures := metrics.consecutiveFailures + 1 }, true)
  | .storeSuccesses value => ({ metrics with consecutiveSuccesses := value }, true)
  | .storeFailures value => ({ metrics with consecutiveFailures := value }, true)
  | .addTotalSuccesses => ({ metrics with totalSuccesses := metrics.totalSuccesses + 1 }, true)
  | .addTotalFailures => ({ metrics with totalFailures := metrics.totalFailures + 1 }, true)
  | .storeLastCheckTime => ({ metrics with lastCheckTime := now }, true)
  | .testSuccesses => (metrics, decide (metrics.consecutiveSuccesses ≥ sm.healthyThreshold))
  | .testFailures => (metrics, decide (metrics.consecutiveFailures ≥ sm.unhealthyThreshold))

/-- Where a thread stands in its call. -/
inductive StateFrame where
  /-- No call is in progress. -/
  | idle
  /-- Some accesses to the metrics are left, then the state will be loaded. -/
  | metrics (accesses : List MetricAccess) (newState : BackendState)
  /-- The old state was loaded, the new one is to be stored. -/
  | storeState (newState oldState : BackendState)
  /-- The state was stored, the instant of the change is to be stored. -/
  | storeLastStateChange (newState oldState : BackendState)
  /-- The flag of the backend is to be stored. -/
  | storeHealthy (newState oldState : BackendState)
  /-- The listeners are to be told. -/
  | notify (newState oldState : BackendState)
  deriving DecidableEq, Repr

/-- A thread has stored a state and not yet the flag that goes with it. -/
def StateFrame.Pending : StateFrame → Prop
  | .storeLastStateChange _ _ => True
  | .storeHealthy _ _ => True
  | _ => False

/-- A free thread begins a call, and a busy one makes its next access. -/
inductive StateChoice where
  | call (call : StateCall)
  | run (now : Int)
  deriving DecidableEq, Repr

namespace SharedMachine

/-- The next atomic access of one thread. -/
def advance (shared : SharedMachine) :
    StateFrame → StateChoice → Option (SharedMachine × StateFrame)
  | .idle, .call call =>
    let (accesses, newState) := call.code shared.machine
    some (shared, .metrics accesses newState)
  | .metrics (access :: rest) newState, .run now =>
    let (metrics, goesOn) := access.perform shared.machine.metrics shared.machine now
    some ({ shared with machine := { shared.machine with metrics := metrics } },
      if goesOn then .metrics rest newState else .idle)
  | .metrics [] newState, .run _ =>
    -- The transition returns at once when the state loaded is the one it aims at.
    some (shared,
      if shared.machine.state = newState then .idle
      else .storeState newState shared.machine.state)
  | .storeState newState oldState, .run _ =>
    some ({ shared with machine := { shared.machine with state := newState } },
      .storeLastStateChange newState oldState)
  | .storeLastStateChange newState oldState, .run now =>
    let metrics := { shared.machine.metrics with lastStateChange := now }
    some ({ shared with machine := { shared.machine with metrics := metrics } },
      .storeHealthy newState oldState)
  | .storeHealthy newState oldState, .run _ =>
    let heap :=
      if newState = .stateHealthy then shared.heap.markHealthy shared.machine.backend
      else shared.heap.markUnhealthy shared.machine.backend
    some ({ shared with heap := heap }, .notify newState oldState)
  | .notify newState oldState, .run _ =>
    some ({ shared with notified := shared.notified ++ [(oldState, newState)] }, .idle)
  | _, _ => none

/-- The flag of the backend says what the state of the machine says. -/
def FlagMatches (shared : SharedMachine) : Prop :=
  shared.heap.isHealthy shared.machine.backend = true ↔ shared.machine.state = .stateHealthy

/--
What one access can do to the flag and the state.

It leaves both alone, or it stores a state and owes the flag, or it stores a flag it owed.
-/
theorem advance_cases {shared shared' : SharedMachine} {frame frame' : StateFrame}
    {choice : StateChoice} (advanced : shared.advance frame choice = some (shared', frame')) :
    ((∀ newState oldState, frame ≠ .storeHealthy newState oldState) ∧
      (shared'.FlagMatches ↔ shared.FlagMatches) ∧ (frame'.Pending ↔ frame.Pending)) ∨
    ((∀ newState oldState, frame ≠ .storeHealthy newState oldState) ∧ frame'.Pending) ∨
    (∃ newState oldState, frame = .storeHealthy newState oldState ∧
      (shared'.FlagMatches ↔ (newState = .stateHealthy ↔ shared.machine.state = .stateHealthy)) ∧
      ¬ frame'.Pending) := by
  cases choice with
  | call call =>
    -- A call begins only where none is in progress.
    cases frame with
    | idle =>
      cases advanced
      exact .inl ⟨by simp, Iff.rfl, by simp [StateFrame.Pending]⟩
    | metrics accesses newState => cases accesses <;> cases advanced
    | _ => cases advanced
  | run now =>
    -- Only three of the frames touch the state or the flag.
    cases frame with
    | idle => cases advanced
    | metrics accesses newState =>
      -- The metrics are no part of the agreement between flag and state.
      cases accesses with
      | nil =>
        cases advanced
        refine .inl ⟨by simp, Iff.rfl, ?_⟩
        split <;> simp [StateFrame.Pending]
      | cons access rest =>
        simp only [advance, Option.some.injEq, Prod.mk.injEq] at advanced
        obtain ⟨rfl, rfl⟩ := advanced
        refine .inl ⟨by simp, Iff.rfl, ?_⟩
        split <;> simp [StateFrame.Pending]
    | storeState newState oldState =>
      cases advanced
      exact .inr (.inl ⟨by simp, trivial⟩)
    | storeLastStateChange newState oldState =>
      cases advanced
      exact .inl ⟨by simp, Iff.rfl, by simp [StateFrame.Pending]⟩
    | storeHealthy newState oldState =>
      cases advanced
      refine .inr (.inr ⟨newState, oldState, rfl, ?_, by simp [StateFrame.Pending]⟩)
      by_cases healthy : newState = .stateHealthy
      · simp [FlagMatches, healthy, BackendHeap.markHealthy]
      · simp [FlagMatches, healthy, BackendHeap.markUnhealthy]
    | notify newState oldState =>
      cases advanced
      exact .inl ⟨by simp, Iff.rfl, by simp [StateFrame.Pending]⟩

/-- The machine and its backends are those a method leaves behind. -/
def Holds (shared : SharedMachine) (monitored : Monitored) : Prop :=
  shared.machine = monitored.machine ∧ shared.heap = monitored.heap

/-- Left alone before its transition, a thread carries out all of it. -/
theorem solo_transition (shared : SharedMachine) (newState : BackendState) (now : Int) :
    ∃ steps reached, Threads.solo advance (shared, .metrics [] newState)
        (List.replicate steps (.run now)) = some (reached, .idle) ∧
      reached.Holds (shared.machine.transitionTo shared.heap newState now) := by
  -- One access ends the call at once, and five carry out a real transition.
  by_cases same : shared.machine.state = newState
  · exact ⟨1, shared, by simp [Threads.solo, advance, same],
      by simp [Holds, StateMachine.transitionTo, same]⟩
  · exact ⟨5, _, by simp [List.replicate, Threads.solo, advance, same]; rfl,
      by simp [Holds, StateMachine.transitionTo, same]⟩

/-- A thread whose accesses to the metrics lead up to the transition completes its call alone. -/
theorem solo_call_of_metrics {shared : SharedMachine} {call : StateCall} {now : Int}
    {newState : BackendState} (steps : Nat) (reached : SharedMachine)
    (ran : Threads.solo advance (shared, .idle)
      (.call call :: List.replicate steps (.run now)) = some (reached, .metrics [] newState)) :
    ∃ steps final, Threads.solo advance (shared, .idle)
        (.call call :: List.replicate steps (.run now)) = some (final, .idle) ∧
      final.Holds (reached.machine.transitionTo reached.heap newState now) := by
  -- The accesses to the metrics come first, the transition continues from there.
  obtain ⟨more, final, later, holds⟩ := reached.solo_transition newState now
  refine ⟨steps + more, final, ?_, holds⟩
  rw [List.replicate_add, ← List.cons_append]
  exact exec_trans ran later

/-- A thread that ends its accesses to the metrics with a test makes the transition if it passes. -/
theorem solo_call_of_test {shared : SharedMachine} {call : StateCall} {now : Int}
    {test : MetricAccess} {newState : BackendState} {passes : Bool} (steps : Nat)
    (reached : SharedMachine)
    (ran : Threads.solo advance (shared, .idle)
      (.call call :: List.replicate steps (.run now)) = some (reached, .metrics [test] newState))
    (tests : test.perform reached.machine.metrics reached.machine now =
      (reached.machine.metrics, passes)) :
    ∃ steps final, Threads.solo advance (shared, .idle)
        (.call call :: List.replicate steps (.run now)) = some (final, .idle) ∧
      final.Holds (if passes then reached.machine.transitionTo reached.heap newState now
        else ⟨reached.machine, reached.heap, none⟩) := by
  -- One more access makes the test, which changes nothing.
  have tested : Threads.solo advance (reached, .metrics [test] newState)
      (List.replicate 1 (.run now)) =
        some (reached, if passes then .metrics [] newState else .idle) := by
    simp only [List.replicate, Threads.solo, exec_cons, advance, tests, Option.bind_some, exec_nil]
  have together := exec_trans ran tested
  rw [List.cons_append, ← List.replicate_add] at together
  cases passes with
  | true => exact solo_call_of_metrics (steps + 1) reached together
  | false => exact ⟨steps + 1, reached, together, rfl, rfl⟩

/-- Left alone, a thread carries out its call as the method it stands for. -/
theorem solo_call (shared : SharedMachine) (call : StateCall) (now : Int) :
    ∃ steps reached, Threads.solo advance (shared, .idle)
        (.call call :: List.replicate steps (.run now)) = some (reached, .idle) ∧
      reached.Holds (call.alone shared.machine shared.heap now) := by
  -- The accesses to the metrics evaluate, and the rest is the transition.
  cases call with
  | recordSuccess =>
    -- Four accesses note the success, and the fifth compares the run of successes.
    have counted := @solo_call_of_test shared .recordSuccess now .testSuccesses .stateHealthy _ 4
      ⟨_, shared.heap, shared.notified⟩ rfl rfl
    simpa only [StateCall.alone, StateMachine.recordSuccess, decide_eq_true_eq] using counted
  | recordFailure =>
    have counted := @solo_call_of_test shared .recordFailure now .testFailures .stateUnhealthy _ 4
      ⟨_, shared.heap, shared.notified⟩ rfl rfl
    simpa only [StateCall.alone, StateMachine.recordFailure, decide_eq_true_eq] using counted
  | startDraining => exact solo_call_of_metrics 0 shared rfl
  | forceHealthy => exact solo_call_of_metrics 2 ⟨_, shared.heap, shared.notified⟩ rfl
  | forceUnhealthy => exact solo_call_of_metrics 2 ⟨_, shared.heap, shared.notified⟩ rfl

end SharedMachine

/-- Any number of threads over one state machine. -/
abbrev StateRace := Threads SharedMachine StateFrame

namespace StateRace

/-- A new machine that no thread is using. -/
def start (heap : BackendHeap) (backend : Nat) (healthyThreshold unhealthyThreshold now : Int) :
    StateRace where
  shared := ⟨newStateMachine backend healthyThreshold unhealthyThreshold now, heap, []⟩
  frame := fun _ => .idle

/-- One atomic access of one thread. -/
def step (race : StateRace) (label : Nat × StateChoice) : Option StateRace :=
  Threads.step SharedMachine.advance race label

/-- No call is in progress. -/
def Quiescent (race : StateRace) : Prop := ∀ thread, race.frame thread = .idle

/-- When a step stores the flag: whether the state at that moment calls for the value stored. -/
def flagStore (race : StateRace) (label : Nat × StateChoice) : Option Bool :=
  match race.frame label.1 with
  | .storeHealthy newState _ =>
    some (decide (newState = .stateHealthy ↔ race.shared.machine.state = .stateHealthy))
  | _ => none

/-- A call that no other thread interrupts is the method call of the sequential machine. -/
theorem uninterrupted_call (race : StateRace) {thread : Nat} (idle : race.frame thread = .idle)
    (call : StateCall) (now : Int) :
    ∃ trace next, exec step race trace = some next ∧ next.frame = race.frame ∧
      next.shared.Holds (call.alone race.shared.machine race.shared.heap now) := by
  -- The other threads stand still while this one runs its call to the end.
  obtain ⟨steps, reached, ran, holds⟩ := race.shared.solo_call call now
  refine ⟨(.call call :: List.replicate steps (.run now)).map fun choice => (thread, choice),
    ⟨reached, race.frame⟩, ?_, rfl, holds⟩
  refine (Threads.exec_solo race thread _).trans ?_
  rw [idle, ran]
  -- The thread is idle again, so its frame is what it was.
  simp [← idle]

/-- No thread owes a flag. -/
def Settled (race : StateRace) : Prop := ∀ thread, ¬ (race.frame thread).Pending

/-- When no thread owes a flag, flag and state agree unless the last flag store was stale. -/
def AgreesUnlessStale (race : StateRace) (seen : Option Bool) : Prop :=
  Settled race → (race.shared.FlagMatches ↔ seen ≠ some false)

/-- Every access keeps the agreement with what the last flag store has shown. -/
theorem step_agreesUnlessStale {race next : StateRace} {label : Nat × StateChoice}
    {seen : Option Bool} (agrees : AgreesUnlessStale race seen)
    (taken : step race label = some next) :
    AgreesUnlessStale next ((flagStore race label).or seen) := by
  -- The three things an access can do are taken in turn.
  obtain ⟨thread, choice⟩ := label
  obtain ⟨shared, frame, advanced, rfl⟩ := Threads.step_eq_some.mp taken
  intro settled
  have reached : ¬ frame.Pending := by simpa using settled thread
  rcases SharedMachine.advance_cases advanced with
    ⟨notFlag, same, pending⟩ | ⟨_, pending⟩ | ⟨newState, oldState, stores, matches_, _⟩
  · -- Neither the state nor the flag was stored, and nobody came to owe a flag.
    have before : Settled race := by
      intro other owes
      by_cases same : other = thread
      · subst same
        exact reached (pending.mpr owes)
      · exact settled other (by simpa [same] using owes)
    have silent : flagStore race (thread, choice) = none := by
      unfold flagStore
      split
      · rename_i newState oldState stores
        exact absurd stores (notFlag newState oldState)
      · rfl
    rw [silent, Option.none_or, same]
    exact agrees before
  · exact absurd pending reached
  · -- This store is the last one so far, whatever was seen before it.
    have shown : flagStore race (thread, choice) =
        some (decide (newState = .stateHealthy ↔
          race.shared.machine.state = .stateHealthy)) := by
      simp only [flagStore, stores]
    rw [shown, Option.some_or, matches_]
    simp

/--
Once all calls have returned, flag and state agree exactly when the last store of the flag
was made by a call whose state was, as far as health goes, still the state of the machine.
-/
theorem flagMatches_iff_last_store_current (heap : BackendHeap) (backend : Nat)
    (healthyThreshold unhealthyThreshold now : Int) (healthy : heap.isHealthy backend = true)
    (trace : List (Nat × StateChoice)) (race : StateRace)
    (ran : exec step (start heap backend healthyThreshold unhealthyThreshold now) trace =
      some race) (quiescent : Quiescent race) :
    race.shared.FlagMatches ↔
      lastSeen step flagStore (start heap backend healthyThreshold unhealthyThreshold now) trace ≠
        some false := by
  -- The relation to the last store is carried along the run, and no thread owes a flag at its end.
  have initially : AgreesUnlessStale
      (start heap backend healthyThreshold unhealthyThreshold now) none := by
    intro _
    simpa [SharedMachine.FlagMatches, start, newStateMachine] using healthy
  have finally_ := exec_lastSeen AgreesUnlessStale
    (fun _ _ _ _ agrees taken => step_agreesUnlessStale agrees taken) initially ran
  rw [Option.or_none] at finally_
  exact finally_ fun thread => by simp [quiescent thread, StateFrame.Pending]

/-- A lone failed check that takes the backend out of rotation keeps flag and state together. -/
theorem flagMatches_lone_failure :
    ∃ race, exec step (start (fun _ => newBackend "test" "localhost:8080" 1) 0 1 1 0)
        ((0, .call .recordFailure) :: List.replicate 10 (0, .run 1)) = some race ∧
      Quiescent race ∧ race.shared.machine.state = .stateUnhealthy ∧
      race.shared.FlagMatches := by
  -- The run evaluates to a state in which both threads seen so far are idle.
  refine ⟨_, rfl, ?_, rfl, ?_⟩
  · intro thread
    rcases thread with _ | thread <;> rfl
  · refine (flagMatches_iff_last_store_current _ 0 1 1 0 rfl
      ((0, .call .recordFailure) :: List.replicate 10 (0, .run 1)) _ rfl ?_).mpr (by decide)
    intro thread
    rcases thread with _ | thread <;> rfl

/--
A failed and a passed check at the same time leave a healthy machine with an unhealthy backend.

The failure stores its state first and its flag last.
-/
theorem racing_checks_part_flag_and_state :
    ∃ race, exec step (start (fun _ => newBackend "test" "localhost:8080" 1) 0 1 1 0)
        ((0, .call .recordFailure) :: List.replicate 7 (0, .run 1) ++
          (1, .call .recordSuccess) :: List.replicate 10 (1, .run 2) ++
          List.replicate 3 (0, .run 3)) = some race ∧
      Quiescent race ∧ race.shared.machine.state = .stateHealthy ∧
      race.shared.heap.isHealthy 0 = false ∧ ¬ race.shared.FlagMatches := by
  -- The schedule evaluates, and its last store is the flag of the failure.
  refine ⟨_, rfl, ?_, rfl, rfl, ?_⟩
  · intro thread
    rcases thread with _ | _ | thread <;> rfl
  · intro agree
    exact absurd (agree.mpr rfl) (by decide)

end StateRace

end Balance
