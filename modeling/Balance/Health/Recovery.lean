import Balance.Health.Checker
import Balance.Health.Registry

/-! Backends that pass their health checks, and whether they return to rotation. -/

namespace Balance

open Machine

/-- What happens to a health checker and the backends it watches. -/
inductive CheckerEvent where
  | processResult (b : Nat) (success : Bool) (now : Int)
  | recordRequest (b : Nat) (success : Bool) (responseTime now : Int)
  | addBackend (b : Nat) (now : Int)
  | removeBackend (name : String)
  | callMachine (name : String) (event : MachineEvent)
  /-- A proxy fails to reach a backend and marks it unhealthy itself. -/
  | markUnhealthy (b : Nat)

namespace Monitoring

/-- A new checker over the backends as they are. -/
def start (heap : BackendHeap) (pool : Pool) (config : CheckerConfig) (now : Int) : Monitoring :=
  ⟨newChecker heap pool config now, heap⟩

/-- Apply one event. -/
def apply (watch : Monitoring) : CheckerEvent → Monitoring
  | .processResult b success now => watch.processResult b success now
  | .recordRequest b success responseTime now => watch.recordRequest b success responseTime now
  | .addBackend b now => watch.addBackend b now
  | .removeBackend name => watch.removeBackend name
  | .callMachine name event => watch.callMachine name event
  | .markUnhealthy b => { watch with heap := watch.heap.markUnhealthy b }

/-- Every event can happen at any time. -/
def step (watch : Monitoring) (event : CheckerEvent) : Option Monitoring :=
  some (watch.apply event)

/-- Whether the passive checks would report one more failed request as a failed check. -/
def reportsFailure (watch : Monitoring) (b : Nat) (now : Int) : Bool :=
  match watch.checker.passiveChecker with
  | none => false
  | some pc => (pc.recordFailure b now).2

/-- The event is no failed check and no reported passive failure of one of some backends. -/
def GoodNews (about : Nat → Prop) (watch : Monitoring) : CheckerEvent → Prop
  | .processResult b success _ => about b → success = true
  | .recordRequest b success _ now => about b → success = true ∨ watch.reportsFailure b now = false
  | _ => True

/-- The event brings no bad news about a backend, and does not take it out or forget it. -/
def Unharmed (b : Nat) (watch : Monitoring) : CheckerEvent → Prop
  | .removeBackend name => name ≠ (watch.heap b).name
  | .callMachine name event => name = (watch.heap b).name → event.harmless = true
  | .markUnhealthy other => other ≠ b
  | event => GoodNews (· = b) watch event

/--
The event brings no bad news about the other backends of the same name.

The checker knows a backend by its name alone, so that news about a namesake is news about it.
-/
def NamesakesQuiet (b : Nat) (watch : Monitoring) : CheckerEvent → Prop :=
  GoodNews (fun other => other ≠ b ∧ (watch.heap other).name = (watch.heap b).name) watch

/-- The event is a successful check of a backend. -/
def passedCheck (b : Nat) : CheckerEvent → Bool
  | .processResult other success _ => other == b && success
  | _ => false

/-- The machines and flags behind a checker. -/
def registry (watch : Monitoring) : Registry where
  machines := watch.checker.stateMachines
  heap := watch.heap
  healthyThreshold := watch.checker.healthyThreshold
  unhealthyThreshold := watch.checker.unhealthyThreshold

/-- What an event does to the machines and flags. -/
def moves (watch : Monitoring) : CheckerEvent → List RegistryStep
  | .processResult b success now =>
    [.register b now,
      .call (watch.heap b).name
        (.evidence (if success then .recordSuccess now else .recordFailure now))]
  | .recordRequest b success responseTime now =>
    if watch.checker.passiveChecker.isNone then []
    else
      .call (watch.heap b).name (.evidence (.recordRequest success responseTime)) ::
        if !success && watch.reportsFailure b now then
          [.call (watch.heap b).name (.evidence (.recordFailure now))]
        else []
  | .addBackend b now => [.register b now]
  | .removeBackend name => [.remove name]
  | .callMachine name event => [.call name event]
  | .markUnhealthy b => [.markUnhealthy b]

/-- Settling a method's result files the machine and writes the backends. -/
theorem settle_registry (watch : Monitoring) (name : String) (result : Monitored) :
    (watch.settle name result).registry =
      { watch.registry with
        machines := Function.update watch.registry.machines name (some result.machine)
        heap := result.heap } := by
  -- The listener touches the passive checker only.
  unfold settle registry
  cases result.changed with
  | none => rfl
  | some change => rfl

/-- A call of a machine is one move. -/
theorem callMachine_registry (watch : Monitoring) (name : String) (event : MachineEvent) :
    (watch.callMachine name event).registry = watch.registry.apply (.call name event) := by
  -- Either way the checker does what the registry does with the machine it finds.
  unfold callMachine
  cases stored : watch.checker.stateMachines name with
  | none => simp only [Registry.apply, registry, stored]
  | some sm =>
    simp only [settle_registry]
    simp only [Registry.apply, registry, stored]

/-- Watching a backend is one move. -/
theorem addBackend_registry (watch : Monitoring) (b : Nat) (now : Int) :
    (watch.addBackend b now).registry = watch.registry.apply (.register b now) := by
  -- Both file a machine exactly when the name has none.
  unfold addBackend
  cases stored : watch.checker.stateMachines (watch.heap b).name with
  | none =>
    simp only [Registry.apply, registry, stored]
    rfl
  | some sm => simp only [Registry.apply, registry, stored]

/-- Processing a result watches the backend first, and then records the result. -/
theorem processResult_registry (watch : Monitoring) (b : Nat) (success : Bool) (now : Int) :
    (watch.processResult b success now).registry =
      ((watch.addBackend b now).callMachine (watch.heap b).name
        (.evidence (if success then .recordSuccess now else .recordFailure now))).registry := by
  -- The counters of the checker are no part of the registry.
  have counted (settled : Monitoring) (total succeeded failed : Int) :
      registry ⟨{ settled.checker with
        totalChecks := total, successChecks := succeeded, failedChecks := failed },
        settled.heap⟩ = settled.registry := rfl
  unfold processResult checked machineOf StateMachine.record
  rw [counted]
  cases stored : watch.checker.stateMachines (watch.heap b).name with
  | none =>
    -- The machine made on the way is overwritten by its successor.
    simp only [addBackend, stored, callMachine, Checker.register, Function.update_self,
      settle_registry, Option.getD_none]
    cases success <;> simp [registry, Monitored.apply, Monitored.observe]
  | some sm =>
    cases success <;>
      simp [settle_registry, addBackend, callMachine, stored, Monitored.apply, Monitored.observe]

/-- A recorded request counts in the machine, and as a failed check if the passive checks say so. -/
theorem recordRequest_registry (watch : Monitoring) (b : Nat) (success : Bool)
    (responseTime now : Int) :
    (watch.recordRequest b success responseTime now).registry =
      (watch.moves (.recordRequest b success responseTime now)).foldl
        Registry.apply watch.registry := by
  -- Without passive checks nothing happens, and without a machine nothing is recorded.
  unfold recordRequest moves reportsFailure
  cases passive : watch.checker.passiveChecker with
  | none => rfl
  | some pc =>
    simp only [Option.isNone_some, Bool.false_eq_true, if_false]
    cases stored : watch.checker.stateMachines (watch.heap b).name with
    | none =>
      -- Without a machine nothing is recorded, and the moves find nothing to call.
      have idle (event : MachineEvent) :
          watch.registry.apply (.call (watch.heap b).name event) = watch.registry := by
        simp only [Registry.apply, registry, stored]
      by_cases report : (!success && (pc.recordFailure b now).2) = true
      · simp [report, idle]
      · simp [report, idle]
    | some sm =>
      cases success with
      | true =>
        simp [Registry.apply, registry, stored, Monitored.apply, Monitored.observe,
          Checker.register]
      | false =>
        by_cases report : (pc.recordFailure b now).2 = true
        · simp only [report, if_true, Bool.false_eq_true, if_false, settle_registry]
          simp [Registry.apply, registry, stored, Monitored.apply, Monitored.observe,
            Checker.register]
        · simp [report, Registry.apply, registry, stored, Monitored.apply, Monitored.observe,
            Checker.register]

/-- Every event is made of moves of the machines and flags. -/
theorem apply_registry (watch : Monitoring) (event : CheckerEvent) :
    (watch.apply event).registry = (watch.moves event).foldl Registry.apply watch.registry := by
  -- Each event has been matched with its moves above.
  cases event with
  | processResult b success now =>
    simp only [apply, moves, processResult_registry, callMachine_registry, addBackend_registry,
      List.foldl_cons, List.foldl_nil]
  | recordRequest b success responseTime now =>
    exact watch.recordRequest_registry b success responseTime now
  | addBackend b now => exact watch.addBackend_registry b now
  | removeBackend name => rfl
  | callMachine name event => exact watch.callMachine_registry name event
  | markUnhealthy b => rfl

/-- The moves of a whole run. -/
def movesAlong : Monitoring → List CheckerEvent → List RegistryStep
  | _, [] => []
  | watch, event :: rest => watch.moves event ++ movesAlong (watch.apply event) rest

/-- Every run of a checker is a run of its machines and flags. -/
theorem run_registry (watch : Monitoring) (events : List CheckerEvent) :
    (events.foldl apply watch).registry =
      (watch.movesAlong events).foldl Registry.apply watch.registry := by
  -- The moves of a run are those of its first event and then of the rest.
  induction events generalizing watch with
  | nil => rfl
  | cons event rest ih =>
    rw [List.foldl_cons, ih, movesAlong, List.foldl_append, apply_registry]

/-- News about a name is news about the backend or about its namesakes. -/
theorem goodNews_of_name {watch : Monitoring} {b : Nat} {event : CheckerEvent}
    (unharmed : Unharmed b watch event) (quiet : NamesakesQuiet b watch event) :
    GoodNews (fun other => (watch.heap other).name = (watch.heap b).name) watch event := by
  -- Whose name it is decides which of the two is asked.
  cases event with
  | processResult other success now =>
    intro named
    by_cases same : other = b
    · exact unharmed same
    · exact quiet ⟨same, named⟩
  | recordRequest other success responseTime now =>
    intro named
    by_cases same : other = b
    · exact unharmed same
    · exact quiet ⟨same, named⟩
  | _ => trivial

/-- No bad news for the checker is no bad news for the machines. -/
theorem moves_undisturbed {watch : Monitoring} {b : Nat} {event : CheckerEvent}
    (unharmed : Unharmed b watch event) (quiet : NamesakesQuiet b watch event) :
    ∀ move ∈ watch.moves event, watch.registry.Undisturbed b move := by
  -- Each event is good news for the machines when it is for the checker.
  intro move member
  cases event with
  | processResult other success now =>
    simp only [moves, List.mem_cons, List.not_mem_nil, or_false] at member
    rcases member with rfl | rfl
    · trivial
    · intro own
      rw [show success = true from goodNews_of_name unharmed quiet own]
      rfl
  | recordRequest other success responseTime now =>
    simp only [moves] at member
    split at member
    · simp at member
    · simp only [List.mem_cons] at member
      rcases member with rfl | reported
      · intro _
        rfl
      · -- A failure is recorded only when the passive checks report one.
        split at reported
        · rename_i report
          simp only [Bool.and_eq_true, Bool.not_eq_true'] at report
          simp only [List.mem_cons, List.not_mem_nil, or_false] at reported
          subst reported
          intro own
          rcases goodNews_of_name unharmed quiet own with success | quiet
          · rw [report.1] at success
            cases success
          · rw [report.2] at quiet
            cases quiet
        · simp at reported
  | _ =>
    -- Any other event is one move, which is asked for the same.
    simp only [moves, List.mem_cons, List.not_mem_nil, or_false] at member
    subst member
    exact unharmed

/-- A run without bad news is one of moves without bad news. -/
theorem movesAlong_undisturbed {watch : Monitoring} {b : Nat} {events : List CheckerEvent}
    (unharmed : Along step (Unharmed b) watch events)
    (quiet : Along step (NamesakesQuiet b) watch events) :
    ∀ move ∈ watch.movesAlong events, watch.registry.Undisturbed b move := by
  -- A move belongs to the first event or to a later one.
  induction events generalizing watch with
  | nil =>
    intro move member
    simp [movesAlong] at member
  | cons event rest ih =>
    intro move member
    rcases List.mem_append.mp member with first | later
    · exact moves_undisturbed unharmed.1 quiet.1 move first
    · -- What disturbs the backend is the same after the first event as before it.
      have kept := ih (unharmed.2 _ rfl) (quiet.2 _ rfl) move later
      rw [apply_registry] at kept
      exact (Registry.undisturbed_run _).mp kept

/-- Every passed check is recorded under the name of the backend. -/
theorem countP_passedCheck_le (watch : Monitoring) (b : Nat) (events : List CheckerEvent) :
    events.countP (passedCheck b) ≤
      Registry.passesAlong (watch.heap b).name (watch.movesAlong events) := by
  -- The name of the backend stays, so checks counted later go to the same machine.
  induction events generalizing watch with
  | nil => simp
  | cons event rest ih =>
    have renamed : ((watch.apply event).heap b).name = (watch.heap b).name := by
      have same := Registry.run_name watch.registry (watch.moves event) b
      rw [← apply_registry] at same
      exact same
    have later := ih (watch.apply event)
    rw [renamed] at later
    have here : (if passedCheck b event then 1 else 0) ≤
        Registry.passesAlong (watch.heap b).name (watch.moves event) := by
      cases event with
      | processResult other success now =>
        by_cases passed : passedCheck b (.processResult other success now) = true
        · simp only [passedCheck, Bool.and_eq_true, beq_iff_eq] at passed
          obtain ⟨rfl, rfl⟩ := passed
          simp [passedCheck, moves, Registry.passesAlong, Registry.passes, MachineEvent.passes]
        · simp [passed]
      | recordRequest other success responseTime now => simp [passedCheck]
      | addBackend other now => simp [passedCheck]
      | removeBackend name => simp [passedCheck]
      | callMachine name called => simp [passedCheck]
      | markUnhealthy other => simp [passedCheck]
    rw [movesAlong, Registry.passesAlong_append, List.countP_cons]
    omega

/-- A new checker files sound machines only. -/
theorem start_sound (heap : BackendHeap) (pool : Pool) {config : CheckerConfig} (now : Int)
    (positive : 1 ≤ config.healthyThreshold) :
    (start heap pool config now).registry.Sound ∧
      (start heap pool config now).registry.healthyThreshold = config.healthyThreshold := by
  -- Each backend of the pool files one new machine under its name.
  have general (checker : Checker) (sound : (Monitoring.mk checker heap).registry.Sound) :
      let filled := pool.foldl
        (fun checker b => checker.register (heap b).name (checker.machineFor b now)) checker
      (Monitoring.mk filled heap).registry.Sound ∧
        filled.healthyThreshold = checker.healthyThreshold := by
    induction pool generalizing checker with
    | nil => exact ⟨sound, rfl⟩
    | cons b rest ih =>
      exact ih _ (sound.file b now)
  have given : ¬ config.healthyThreshold = 0 := by omega
  unfold start newChecker
  simp only [given, if_false]
  apply general
  refine ⟨positive, ?_, ?_, ?_⟩
  all_goals
    intro name sm found
    simp [registry] at found

/--
A backend that has passed its checks unharmed, and with its namesakes quiet, is in rotation exactly
when it was in rotation before them or the machine filed under its name was its own and knew that
it was out.
-/
theorem returns_to_rotation_iff (heap : BackendHeap) (pool : Pool) {config : CheckerConfig}
    (now : Int) (b : Nat) (events streak : List CheckerEvent)
    (positive : 1 ≤ config.healthyThreshold)
    (unharmed : Along step (Unharmed b)
      (events.foldl apply (start heap pool config now)) streak)
    (passed : config.healthyThreshold ≤ streak.countP (passedCheck b)) :
    let before := events.foldl apply (start heap pool config now)
    Along step (NamesakesQuiet b) before streak →
      ((streak.foldl apply before).heap.isHealthy b = true ↔
        before.heap.isHealthy b = true ∨ before.registry.KnownOut b) := by
  -- The run of the checker is one of the registry, where the question has been answered.
  intro before quiet
  obtain ⟨sound, threshold⟩ := start_sound heap pool now positive
  have reached : before.registry.Sound ∧
      before.registry.healthyThreshold = config.healthyThreshold := by
    rw [run_registry]
    exact ⟨sound.run _, (Registry.run_healthyThreshold _ _).trans threshold⟩
  have enough : before.registry.healthyThreshold ≤
      Registry.passesAlong (before.heap b).name (before.movesAlong streak) := by
    have counted := countP_passedCheck_le before b streak
    rw [reached.2]
    omega
  have recovered := Registry.run_isHealthy_iff reached.1
    (movesAlong_undisturbed unharmed quiet) enough
  rw [← run_registry] at recovered
  exact recovered

/-- A backend that failed its checks returns once it has passed them again. -/
theorem failed_backend_returns :
    let config : CheckerConfig := ⟨2, 3, false, 0, 0⟩
    let before := [.processResult 0 false 1, .processResult 0 false 2,
      .processResult 0 false 3].foldl apply
        (start (fun _ => newBackend "b" "localhost:8080" 1) [0] config 0)
    before.heap.isHealthy 0 = false ∧
      ([.processResult 0 true 4, .processResult 0 true 5].foldl apply before).heap.isHealthy 0 =
        true := by
  -- Three failures have told the machine, which is the backend's own.
  refine ⟨rfl, ?_⟩
  refine (returns_to_rotation_iff _ _ _ _ _ _ (by decide) ?_ (by decide) ?_).mpr
    (.inr ⟨_, rfl, rfl, by decide⟩)
  · exact ⟨fun _ => rfl, fun next _ => ⟨fun _ => rfl, fun _ _ => trivial⟩⟩
  · exact ⟨fun _ => rfl, fun next _ => ⟨fun _ => rfl, fun _ _ => trivial⟩⟩

/-- A backend that a proxy marked unhealthy passes its checks and stays out of rotation. -/
theorem marked_backend_stays_out :
    let config : CheckerConfig := ⟨2, 3, false, 0, 0⟩
    let before := (start (fun _ => newBackend "b" "localhost:8080" 1) [0] config 0).apply
      (.markUnhealthy 0)
    let streak := [.processResult 0 true 1, .processResult 0 true 2]
    Along step (Unharmed 0) before streak ∧
      config.healthyThreshold ≤ streak.countP (passedCheck 0) ∧
      (streak.foldl apply before).heap.isHealthy 0 = false := by
  -- The machine was never told, and both checks find it healthy already.
  refine ⟨?_, by decide, rfl⟩
  exact ⟨fun _ => rfl, fun next _ => ⟨fun _ => rfl, fun _ _ => trivial⟩⟩

end Monitoring

end Balance
