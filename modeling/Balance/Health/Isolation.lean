import Balance.Health.Recovery

/-! Whether what happens to one backend can change the health of another. -/

namespace Balance

open Machine

/-- The backend that a check result or the outcome of a request is about. -/
def CheckerEvent.subject : CheckerEvent → Option Nat
  | .processResult b _ _ => some b
  | .recordRequest b _ _ _ => some b
  | _ => none

/-- Only check results and requests are about a backend. -/
theorem CheckerEvent.subject_cases {event : CheckerEvent} {c : Nat}
    (subject : event.subject = some c) :
    (∃ success now, event = .processResult c success now) ∨
      ∃ success responseTime now, event = .recordRequest c success responseTime now := by
  cases event with
  | processResult b success now =>
    cases subject
    exact .inl ⟨success, now, rfl⟩
  | recordRequest b success responseTime now =>
    cases subject
    exact .inr ⟨success, responseTime, now, rfl⟩
  | _ => cases subject

namespace StateMachine

/-- What a transition does to the machine, and tells its listeners, has nothing to do with flags. -/
theorem transitionTo_congr (sm : StateMachine) (heap other : BackendHeap) (newState : BackendState)
    (now : Int) :
    (sm.transitionTo heap newState now).machine = (sm.transitionTo other newState now).machine ∧
      (sm.transitionTo heap newState now).changed =
        (sm.transitionTo other newState now).changed := by
  -- The flag is written, but never read.
  unfold transitionTo
  split <;> exact ⟨rfl, rfl⟩

/-- Recorded checks are evidence. -/
theorem record_eq_apply (sm : StateMachine) (heap : BackendHeap) (success : Bool) (now : Int) :
    sm.record heap success now = Monitored.apply ⟨sm, heap, none⟩
      (.evidence (if success then .recordSuccess now else .recordFailure now)) := by
  cases success <;> rfl

/-- The state that checks of one outcome lead to. -/
def target (success : Bool) : BackendState := if success then .stateHealthy else .stateUnhealthy

/-- The checks of one outcome that came in a row. -/
def streak (sm : StateMachine) (success : Bool) : Int :=
  if success then sm.metrics.consecutiveSuccesses else sm.metrics.consecutiveFailures

/-- How many checks of one outcome in a row make a transition. -/
def threshold (sm : StateMachine) (success : Bool) : Int :=
  if success then sm.healthyThreshold else sm.unhealthyThreshold

/-- The check that completes its streak moves the machine and writes the flag of its backend. -/
theorem record_of_reached {sm : StateMachine} (heap : BackendHeap) {success : Bool} (now : Int)
    (reached : sm.threshold success ≤ sm.streak success + 1)
    (apart : sm.state ≠ target success) :
    (sm.record heap success now).machine.state = target success ∧
      (sm.record heap success now).heap.isHealthy sm.backend = success := by
  -- The two kinds of check mirror each other.
  cases success with
  | true =>
    simp only [threshold, streak, if_true] at reached
    simp only [target, if_true] at apart
    simp [record, recordSuccess, reached, target, transitionTo_isHealthy, apart]
  | false =>
    simp only [threshold, streak, Bool.false_eq_true, if_false] at reached
    simp only [target, Bool.false_eq_true, if_false] at apart
    simp [record, recordFailure, reached, target, transitionTo_isHealthy, apart]

/-- A check that does not complete its streak makes it longer, and that is all. -/
theorem record_of_short {sm : StateMachine} (heap : BackendHeap) {success : Bool} (now : Int)
    (short : sm.streak success + 1 < sm.threshold success) :
    (sm.record heap success now).machine.state = sm.state ∧
      (sm.record heap success now).machine.streak success = sm.streak success + 1 ∧
      (sm.record heap success now).machine.threshold success = sm.threshold success := by
  -- Below the threshold there is no transition.
  cases success with
  | true =>
    simp only [threshold, streak, if_true] at short
    simp [record, recordSuccess, not_le.mpr short, streak, threshold]
  | false =>
    simp only [threshold, streak, Bool.false_eq_true, if_false] at short
    simp [record, recordFailure, not_le.mpr short, streak, threshold]

/-- A recorded check reads and writes the flag of the machine's own backend only. -/
theorem record_congr {sm : StateMachine} {heap other : BackendHeap} (success : Bool) (now : Int)
    {b : Nat} (same : heap.isHealthy b = other.isHealthy b) :
    (sm.record heap success now).machine = (sm.record other success now).machine ∧
      (sm.record heap success now).changed = (sm.record other success now).changed ∧
      (sm.record heap success now).heap.isHealthy b =
        (sm.record other success now).heap.isHealthy b := by
  -- Both kinds of check count first, and may make a transition after that.
  have transition (sm : StateMachine) (newState : BackendState) :
      (sm.transitionTo heap newState now).machine = (sm.transitionTo other newState now).machine ∧
        (sm.transitionTo heap newState now).changed =
          (sm.transitionTo other newState now).changed ∧
        (sm.transitionTo heap newState now).heap.isHealthy b =
          (sm.transitionTo other newState now).heap.isHealthy b := by
    obtain ⟨machine, changed⟩ := sm.transitionTo_congr heap other newState now
    refine ⟨machine, changed, ?_⟩
    rw [transitionTo_isHealthy, transitionTo_isHealthy, same]
  cases success with
  | true =>
    simp only [record, recordSuccess, if_true]
    split
    · exact transition _ _
    · exact ⟨rfl, rfl, same⟩
  | false =>
    simp only [record, recordFailure, Bool.false_eq_true, if_false]
    split
    · exact transition _ _
    · exact ⟨rfl, rfl, same⟩

end StateMachine

/-- What a checker knows about one backend, its flag included. -/
structure HealthView where
  healthyThreshold : Int
  unhealthyThreshold : Int
  passive : Option (PassiveCheckerConfig × Option FailureTracker)
  machine : Option StateMachine
  healthy : Bool

namespace Monitoring

/-- What the passive checks know about a backend. -/
def passiveView (pc : PassiveChecker) (b : Nat) : PassiveCheckerConfig × Option FailureTracker :=
  (pc.config, pc.failures b)

/-- What a checker knows about a backend under a name. -/
def view (name : String) (b : Nat) (watch : Monitoring) : HealthView where
  healthyThreshold := watch.checker.healthyThreshold
  unhealthyThreshold := watch.checker.unhealthyThreshold
  passive := watch.checker.passiveChecker.map fun pc => passiveView pc b
  machine := watch.checker.stateMachines name
  healthy := watch.heap.isHealthy b

variable {watch other : Monitoring} {name : String} {b : Nat}

/-- What the listener leaves of the passive view when it is told of a change. -/
def toldView (b m : Nat) (changed : Option (BackendState × BackendState))
    (known : PassiveCheckerConfig × Option FailureTracker) :
    PassiveCheckerConfig × Option FailureTracker :=
  match changed with
  | some (_, .stateHealthy) => (known.1, if b = m then none else known.2)
  | _ => known

/-- The listener clears what the passive checks know of the machine's backend. -/
theorem onStateChange_view (checker : Checker) (b m : Nat) (old new : BackendState) :
    (checker.onStateChange m new).passiveChecker.map (fun pc => passiveView pc b) =
      (checker.passiveChecker.map fun pc => passiveView pc b).map
        (toldView b m (some (old, new))) := by
  -- Only a change to the healthy state clears anything.
  cases passive : checker.passiveChecker with
  | none => simp [Checker.onStateChange, passive]
  | some pc =>
    cases new with
    | stateHealthy =>
      by_cases same : b = m
      · simp [Checker.onStateChange, passive, passiveView, toldView, PassiveChecker.reset, same]
      · simp [Checker.onStateChange, passive, passiveView, toldView, PassiveChecker.reset, same]
    | stateUnhealthy => simp [Checker.onStateChange, passive, toldView]
    | stateDraining => simp [Checker.onStateChange, passive, toldView]

/-- The view of a backend after the result of a machine has been settled. -/
theorem settle_view (watch : Monitoring) (filed name : String) (b : Nat) (result : Monitored) :
    (watch.settle filed result).view name b =
      { watch.view name b with
        passive := (watch.view name b).passive.map
          (toldView b result.machine.backend result.changed)
        machine := if name = filed then some result.machine else (watch.view name b).machine
        healthy := result.heap.isHealthy b } := by
  -- The machine is filed, and the listener is told if there is something to tell.
  have machine : Function.update watch.checker.stateMachines filed (some result.machine) name =
      if name = filed then some result.machine else watch.checker.stateMachines name := by
    by_cases same : name = filed
    · simp [same]
    · simp [same]
  cases changed : result.changed with
  | none =>
    have quiet (known : Option (PassiveCheckerConfig × Option FailureTracker)) :
        known.map (toldView b result.machine.backend none) = known := by
      cases known <;> rfl
    simp only [settle, view, changed, quiet, Checker.register, machine]
  | some change =>
    obtain ⟨old, new⟩ := change
    simp only [settle, view, changed, ← onStateChange_view, Checker.onStateChange,
      Checker.register, machine]

/-- A result of another backend's machine, under another name, does not show. -/
theorem settle_view_of_ne {filed : String} {result : Monitored} (names : name ≠ filed)
    (backend : b ≠ result.machine.backend)
    (flag : result.heap.isHealthy b = watch.heap.isHealthy b) :
    (watch.settle filed result).view name b = watch.view name b := by
  -- The listener clears what is known of the other backend only.
  have quiet (known : Option (PassiveCheckerConfig × Option FailureTracker)) :
      known.map (toldView b result.machine.backend result.changed) = known := by
    cases known with
    | none => rfl
    | some known =>
      simp only [Option.map_some, toldView, if_neg backend]
      split <;> rfl
  rw [settle_view, quiet, if_neg names, flag]
  rfl

/-- Results that agree on a backend leave views of it that agree. -/
theorem settle_view_congr {filed : String} {result image : Monitored}
    (same : watch.view name b = other.view name b)
    (results : result.machine = image.machine ∧ result.changed = image.changed ∧
      result.heap.isHealthy b = image.heap.isHealthy b) :
    (watch.settle filed result).view name b = (other.settle filed image).view name b := by
  rw [settle_view, settle_view, same, results.1, results.2.1, results.2.2]

/-- Counting a check is nothing that a view shows. -/
theorem processResult_view (watch : Monitoring) (name : String) (b c : Nat) (success : Bool)
    (now : Int) :
    (watch.processResult c success now).view name b =
      (watch.settle (watch.heap c).name
        ((watch.machineOf c now).record watch.heap success now)).view name b := rfl

/-- The checker with other passive checks. -/
def withPassive (watch : Monitoring) (pc : PassiveChecker) : Monitoring :=
  { watch with checker := { watch.checker with passiveChecker := some pc } }

/-- A request is noted by the passive checks and the machine, and may count as a failed check. -/
theorem recordRequest_eq {pc : PassiveChecker} {sm : StateMachine} {c : Nat}
    (passive : watch.checker.passiveChecker = some pc)
    (stored : watch.checker.stateMachines (watch.heap c).name = some sm) (success : Bool)
    (responseTime now : Int) :
    watch.recordRequest c success responseTime now =
      if success then
        (watch.withPassive (pc.recordSuccess c)).settle (watch.heap c).name
          ⟨sm.recordRequest success responseTime, watch.heap, none⟩
      else
        let noted := (watch.withPassive (pc.recordFailure c now).1).settle (watch.heap c).name
          ⟨sm.recordRequest success responseTime, watch.heap, none⟩
        if (pc.recordFailure c now).2 then
          noted.settle (watch.heap c).name
            ((sm.recordRequest success responseTime).record watch.heap false now)
        else noted := by
  -- Nothing has changed that a listener could be told.
  simp only [recordRequest, passive, stored]
  rfl

/-- Without passive checks, or without a machine, a request is not recorded. -/
theorem recordRequest_eq_self {c : Nat}
    (missing : watch.checker.passiveChecker = none ∨
      watch.checker.stateMachines (watch.heap c).name = none) (success : Bool)
    (responseTime now : Int) : watch.recordRequest c success responseTime now = watch := by
  -- The passive checks are asked for first.
  unfold recordRequest
  rcases missing with none_passive | none_stored
  · simp only [none_passive]
  · cases passive : watch.checker.passiveChecker with
    | none => simp only
    | some pc => simp only [none_stored]

/-- A request keeps what is kept when it is noted and when it counts as a failed check. -/
theorem recordRequest_keeps (kept : Monitoring → Prop) {c : Nat} {success : Bool}
    {responseTime now : Int} (before : kept watch)
    (noted : ∀ pc sm after, watch.checker.passiveChecker = some pc →
      watch.checker.stateMachines (watch.heap c).name = some sm →
      after = pc.recordSuccess c ∨ after = (pc.recordFailure c now).1 →
      kept ((watch.withPassive after).settle (watch.heap c).name
        ⟨sm.recordRequest success responseTime, watch.heap, none⟩))
    (reported : ∀ sm reached, watch.checker.stateMachines (watch.heap c).name = some sm →
      kept reached → kept (reached.settle (watch.heap c).name
        ((sm.recordRequest success responseTime).record watch.heap false now))) :
    kept (watch.recordRequest c success responseTime now) := by
  -- Both the passive checks and the machine must be there.
  cases passive : watch.checker.passiveChecker with
  | none =>
    rw [recordRequest_eq_self (.inl passive)]
    exact before
  | some pc =>
    cases stored : watch.checker.stateMachines (watch.heap c).name with
    | none =>
      rw [recordRequest_eq_self (.inr stored)]
      exact before
    | some sm =>
      have failed := noted pc sm _ passive stored (.inr rfl)
      rw [recordRequest_eq passive stored]
      split
      · exact noted pc sm _ passive stored (.inl rfl)
      · dsimp only
        split
        · exact reported sm _ stored failed
        · exact failed

/-- The checker files machines of members under their own names, and renames nobody. -/
structure Filed (names : Nat → String) (members : List Nat) (watch : Monitoring) : Prop where
  named : ∀ c, (watch.heap c).name = names c
  machines : ∀ name sm, watch.checker.stateMachines name = some sm →
    sm.backend ∈ members ∧ names sm.backend = name

variable {names : Nat → String} {members : List Nat}

/-- Settling a result of a member's machine keeps the files in order. -/
theorem Filed.settle (filed : Filed names members watch) (name : String) (result : Monitored)
    (member : result.machine.backend ∈ members ∧ names result.machine.backend = name)
    (heap : ∀ c, (result.heap c).name = (watch.heap c).name) :
    Filed names members (watch.settle name result) := by
  -- The machine is filed under the name of its backend.
  have machines : (watch.settle name result).checker.stateMachines =
      Function.update watch.checker.stateMachines name (some result.machine) := by
    unfold Monitoring.settle
    cases result.changed <;> rfl
  refine ⟨fun c => (heap c).trans (filed.named c), ?_⟩
  intro other sm found
  rw [machines] at found
  by_cases same : other = name
  · subst same
    rw [Function.update_self] at found
    obtain rfl := Option.some.inj found
    exact member
  · rw [Function.update_of_ne same] at found
    exact filed.machines other sm found

/-- The machine that a result for a member goes to watches a member of that name. -/
theorem Filed.machineOf (filed : Filed names members watch) {c : Nat} (member : c ∈ members)
    (now : Int) :
    (watch.machineOf c now).backend ∈ members ∧
      names (watch.machineOf c now).backend = names c := by
  -- A machine that is made on the way watches the backend itself.
  rw [Monitoring.machineOf, filed.named c]
  cases stored : watch.checker.stateMachines (names c) with
  | none => exact ⟨member, rfl⟩
  | some sm => exact filed.machines (names c) sm stored

/-- Recording a check moves the machine to no other backend, and renames none. -/
theorem record_backend (sm : StateMachine) (heap : BackendHeap) (success : Bool) (now : Int) :
    (sm.record heap success now).machine.backend = sm.backend ∧
      ∀ c, ((sm.record heap success now).heap c).name = (heap c).name := by
  rw [StateMachine.record_eq_apply]
  exact ⟨Monitored.apply_backend _ _, fun c => Monitored.apply_name _ _ c⟩

/-- Recording a request moves the machine to no other backend. -/
theorem recordRequest_backend (sm : StateMachine) (success : Bool) (responseTime : Int) :
    (sm.recordRequest success responseTime).backend = sm.backend := by
  cases success <;> rfl

/-- An event is about a member. -/
def About (members : List Nat) (event : CheckerEvent) : Prop :=
  ∃ c ∈ members, event.subject = some c

/-- Events about members keep the files in order. -/
theorem Filed.apply (filed : Filed names members watch) {event : CheckerEvent}
    (about : About members event) : Filed names members (watch.apply event) := by
  -- A machine that is filed again is filed where it was found, or where its backend belongs.
  obtain ⟨c, member, subject⟩ := about
  rcases CheckerEvent.subject_cases subject with
    ⟨success, now, rfl⟩ | ⟨success, responseTime, now, rfl⟩
  · obtain ⟨backend, heap⟩ := record_backend (watch.machineOf c now) watch.heap success now
    have settled := filed.settle (watch.heap c).name
      ((watch.machineOf c now).record watch.heap success now)
      (by rw [backend, filed.named c]; exact filed.machineOf member now) heap
    exact ⟨settled.named, settled.machines⟩
  · apply recordRequest_keeps (Filed names members) filed
    · intro pc sm after _ stored _
      have before : Filed names members (watch.withPassive after) := ⟨filed.named, filed.machines⟩
      refine before.settle _ _ ?_ fun _ => rfl
      rw [recordRequest_backend]
      exact filed.machines _ sm stored
    · intro sm reached stored kept
      obtain ⟨backend, heap⟩ :=
        record_backend (sm.recordRequest success responseTime) watch.heap false now
      refine kept.settle _ _ ?_ fun other => ?_
      · rw [backend, recordRequest_backend]
        exact filed.machines _ sm stored
      · rw [heap other, filed.named other, kept.named other]

/-- Passive checks that show the same of a backend leave its view alone. -/
theorem withPassive_view {pc after : PassiveChecker}
    (passive : watch.checker.passiveChecker = some pc)
    (same : passiveView after b = passiveView pc b) :
    (watch.withPassive after).view name b = watch.view name b := by
  simp [view, withPassive, passive, same]

/-- The flag of a backend is not written for the checks of another. -/
theorem record_isHealthy_of_ne {sm : StateMachine} (heap : BackendHeap) (success : Bool)
    (now : Int) (differs : b ≠ sm.backend) :
    (sm.record heap success now).heap.isHealthy b = heap.isHealthy b := by
  rw [StateMachine.record_eq_apply]
  exact Monitored.apply_isHealthy_of_ne ⟨sm, heap, none⟩ _ differs

/-- Nothing that happens to a member of another name shows in the view of a backend. -/
theorem Filed.silent (filed : Filed names members watch) {event : CheckerEvent} {c : Nat}
    (member : c ∈ members) (subject : event.subject = some c) (apart : names b ≠ names c) :
    (watch.apply event).view (names b) b = watch.view (names b) b := by
  -- The machine that the event goes to watches a backend of the other name.
  have differs {m : Nat} (same : names m = names c) : b ≠ m := by
    intro equal
    rw [← equal] at same
    exact apart same
  have filedName : names b ≠ (watch.heap c).name := by
    rw [filed.named c]
    exact apart
  rcases CheckerEvent.subject_cases subject with
    ⟨success, now, rfl⟩ | ⟨success, responseTime, now, rfl⟩
  · have machine := differs (filed.machineOf member now).2
    rw [Monitoring.apply, processResult_view]
    apply settle_view_of_ne filedName
    · rw [(record_backend _ _ _ _).1]
      exact machine
    · exact record_isHealthy_of_ne _ _ _ machine
  · have owner {sm : StateMachine}
        (stored : watch.checker.stateMachines (watch.heap c).name = some sm) :
        b ≠ (sm.recordRequest success responseTime).backend := by
      rw [recordRequest_backend]
      exact differs ((filed.machines _ sm stored).2.trans (filed.named c))
    have elsewhere : b ≠ c := differs rfl
    refine recordRequest_keeps
      (fun reached => reached.view (names b) b = watch.view (names b) b) rfl ?_ ?_
    · intro pc sm after passive stored noted
      -- The passive checks note the request under the other backend.
      have same : passiveView after b = passiveView pc b := by
        rcases noted with rfl | rfl
        · simp [passiveView, PassiveChecker.recordSuccess, elsewhere]
        · simp [passiveView, PassiveChecker.recordFailure, elsewhere]
      rw [← withPassive_view passive same]
      exact settle_view_of_ne filedName (owner stored) rfl
    · intro sm reached stored kept
      have flag : reached.heap.isHealthy b = watch.heap.isHealthy b :=
        congrArg HealthView.healthy kept
      rw [← kept]
      apply settle_view_of_ne filedName
      · rw [(record_backend _ _ _ _).1]
        exact owner stored
      · rw [flag]
        exact record_isHealthy_of_ne _ _ _ (owner stored)

/-- What the passive checks note of a request, and report, depends on what they show of it. -/
theorem passiveView_congr {pc image : PassiveChecker}
    (same : passiveView pc b = passiveView image b) (now : Int) :
    passiveView (pc.recordSuccess b) b = passiveView (image.recordSuccess b) b ∧
      passiveView (pc.recordFailure b now).1 b = passiveView (image.recordFailure b now).1 b ∧
      (pc.recordFailure b now).2 = (image.recordFailure b now).2 := by
  -- The tracker of the backend and the settings are all that is read.
  obtain ⟨config, failures⟩ := Prod.mk.inj same
  have tracker : pc.tracker b = image.tracker b := by
    rw [PassiveChecker.tracker, PassiveChecker.tracker, failures]
  refine ⟨?_, ?_, ?_⟩
  · simp [passiveView, PassiveChecker.recordSuccess, config, tracker]
  · simp [passiveView, PassiveChecker.recordFailure, config, tracker]
  · simp [PassiveChecker.recordFailure, PassiveChecker.shouldMarkUnhealthy, config, tracker]

/-- What happens to a backend itself changes views of it that agree in the same way. -/
theorem Filed.congruent (first : Filed names members watch) (second : Filed names members other)
    {event : CheckerEvent} (subject : event.subject = some b)
    (same : watch.view (names b) b = other.view (names b) b) :
    (watch.apply event).view (names b) b = (other.apply event).view (names b) b := by
  -- What the event reads is what the views show.
  have machines := congrArg HealthView.machine same
  have flags := congrArg HealthView.healthy same
  have healthy := congrArg HealthView.healthyThreshold same
  have unhealthy := congrArg HealthView.unhealthyThreshold same
  have passives := congrArg HealthView.passive same
  simp only [view] at machines flags healthy unhealthy passives
  rcases CheckerEvent.subject_cases subject with
    ⟨success, now, rfl⟩ | ⟨success, responseTime, now, rfl⟩
  · have chosen : watch.machineOf b now = other.machineOf b now := by
      rw [Monitoring.machineOf, Monitoring.machineOf, first.named, second.named, machines,
        Checker.machineFor, Checker.machineFor, healthy, unhealthy]
    rw [Monitoring.apply, Monitoring.apply, processResult_view, processResult_view, first.named,
      second.named, chosen]
    exact settle_view_congr same (StateMachine.record_congr success now flags)
  · rw [Monitoring.apply, Monitoring.apply]
    cases passive : watch.checker.passiveChecker with
    | none =>
      rw [passive, Option.map_none, eq_comm, Option.map_eq_none_iff] at passives
      rw [recordRequest_eq_self (.inl passive), recordRequest_eq_self (.inl passives)]
      exact same
    | some pc =>
      rw [passive, Option.map_some, eq_comm, Option.map_eq_some_iff] at passives
      obtain ⟨image, also, known⟩ := passives
      cases stored : watch.checker.stateMachines (names b) with
      | none =>
        rw [recordRequest_eq_self (.inr ((first.named b).symm ▸ stored)),
          recordRequest_eq_self (.inr ((second.named b).symm ▸ machines ▸ stored))]
        exact same
      | some sm =>
        -- Whatever is noted of the request, the machine and the listener get the same of it.
        have noted {after afterImage : PassiveChecker}
            (agree : passiveView after b = passiveView afterImage b) :
            ((watch.withPassive after).settle (names b)
              ⟨sm.recordRequest success responseTime, watch.heap, none⟩).view (names b) b =
            ((other.withPassive afterImage).settle (names b)
              ⟨sm.recordRequest success responseTime, other.heap, none⟩).view (names b) b := by
          refine settle_view_congr ?_ ⟨rfl, rfl, flags⟩
          simp only [view, withPassive, Option.map_some, agree, machines, flags, healthy, unhealthy]
        obtain ⟨succeeded, failed, reported⟩ := passiveView_congr known.symm now
        rw [recordRequest_eq passive ((first.named b).symm ▸ stored),
          recordRequest_eq also ((second.named b).symm ▸ machines ▸ stored), first.named,
          second.named]
        split
        · exact noted succeeded
        · simp only [reported]
          split
          · exact settle_view_congr (noted failed) (StateMachine.record_congr false now flags)
          · exact noted failed

/-- What happens to other backends never shows in the flag of this one. -/
def Independent (watch : Monitoring) (members : List Nat) (b : Nat) : Prop :=
  ∀ first second : List CheckerEvent,
    (∀ event ∈ first, About members event) → (∀ event ∈ second, About members event) →
    first.filter (fun event => event.subject = some b) =
      second.filter (fun event => event.subject = some b) →
    (first.foldl apply watch).heap.isHealthy b = (second.foldl apply watch).heap.isHealthy b

/-- A backend with a name of its own is independent of the others. -/
theorem Filed.independent (filed : Filed names members watch)
    (own : ∀ c ∈ members, names b = names c → b = c) : Independent watch members b := by
  -- Each run shows of the backend what its own events alone would show.
  have shown {events : List CheckerEvent} (all : ∀ event ∈ events, About members event) :
      (events.foldl Monitoring.apply watch).view (names b) b =
        ((events.filter fun event => event.subject = some b).foldl
          Monitoring.apply watch).view (names b) b := by
    have preserved (state : Monitoring) (event : CheckerEvent) (kept : Filed names members state)
        (about : About members event) : Filed names members (state.apply event) :=
      kept.apply about
    refine foldl_view (Filed names members) preserved ?_ ?_ filed filed rfl all
    · intro state event kept about other
      obtain ⟨c, member, subject⟩ := about
      refine kept.silent member subject fun same => ?_
      rw [subject, own c member same] at other
      simp at other
    · intro state other event first second _ mine same
      exact first.congruent second (of_decide_eq_true mine) same
  intro first second firstAbout secondAbout same
  have agree := (shown firstAbout).trans (same ▸ (shown secondAbout).symm)
  exact congrArg HealthView.healthy agree

/-- A check result is recorded by the machine under the name of its backend. -/
theorem Filed.processResult (filed : Filed names members watch) (c : Nat) (success : Bool)
    (now : Int) :
    (watch.apply (.processResult c success now)).checker.stateMachines (names c) =
        some ((watch.machineOf c now).record watch.heap success now).machine ∧
      (watch.apply (.processResult c success now)).heap =
        ((watch.machineOf c now).record watch.heap success now).heap := by
  -- The view under its own name shows it.
  have recorded := congrArg HealthView.machine
    (watch.processResult_view (names c) c c success now)
  rw [settle_view, filed.named] at recorded
  simp only [if_true] at recorded
  exact ⟨recorded, rfl⟩

/--
Enough checks of one outcome move the machine under the name of a backend to the state they lead
to, and write the flag of the backend that the machine watches.
-/
theorem Filed.driven (filed : Filed names members watch) {o : Nat} (member : o ∈ members)
    (success : Bool) (now : Int) {sm : StateMachine}
    (stored : watch.checker.stateMachines (names o) = some sm) :
    ∃ count, ∃ after : StateMachine,
      let driven := (List.replicate count (CheckerEvent.processResult o success now)).foldl
        Monitoring.apply watch
      Filed names members driven ∧ driven.checker.stateMachines (names o) = some after ∧
        after.backend = sm.backend ∧ after.state = StateMachine.target success ∧
        (sm.state ≠ StateMachine.target success →
          driven.heap.isHealthy sm.backend = success) := by
  by_cases there : sm.state = StateMachine.target success
  · exact ⟨0, sm, filed, stored, rfl, there, fun apart => absurd there apart⟩
  -- Every check brings the streak one closer to the threshold.
  generalize missing : (sm.threshold success - sm.streak success).toNat = distance
  induction distance using Nat.strong_induction_on generalizing watch sm with
  | _ distance ih =>
    obtain ⟨machine, heap⟩ := filed.processResult o success now
    have chosen : watch.machineOf o now = sm := by
      rw [Monitoring.machineOf, filed.named, stored, Option.getD_some]
    rw [chosen] at machine heap
    have about : About members (.processResult o success now) := ⟨o, member, rfl⟩
    have kept := filed.apply about
    have backend := (record_backend sm watch.heap success now).1
    rcases lt_or_ge (sm.streak success + 1) (sm.threshold success) with short | reached
    · obtain ⟨state, streak, threshold⟩ := StateMachine.record_of_short watch.heap now short
      obtain ⟨count, after, kept, found, same, moved, flag⟩ := ih _ (by omega) kept machine
        (by rw [state]; exact there) rfl
      rw [backend] at same flag
      exact ⟨count + 1, after, kept, found, same, moved, fun _ => flag (by rw [state]; exact there)⟩
    · obtain ⟨state, flag⟩ := StateMachine.record_of_reached watch.heap now reached there
      refine ⟨1, _, kept, machine, backend, state, fun _ => ?_⟩
      rw [List.replicate_one, List.foldl_cons, List.foldl_nil, heap]
      exact flag

/-- Where two members have one name, the flag of a member depends on the checks of another. -/
theorem Filed.disturbed (filed : Filed names members watch) {c : Nat} (first : b ∈ members)
    (second : c ∈ members) (same : names b = names c) (apart : b ≠ c) :
    ∃ m ∈ members, ¬Independent watch members m := by
  -- After a check of the first there is a machine under the name, which watches one member only.
  have about : About members (.processResult b true 0) := ⟨b, first, rfl⟩
  have checked := filed.apply about
  have stored := (filed.processResult b true 0).1
  generalize ((watch.machineOf b 0).record watch.heap true 0).machine = sm at stored
  obtain ⟨member, named⟩ := checked.machines _ sm stored
  obtain ⟨o, other, alike, differs⟩ : ∃ o ∈ members, names o = names b ∧ o ≠ sm.backend := by
    by_cases watched : b = sm.backend
    · exact ⟨c, second, same.symm, fun equal => apart (watched.trans equal.symm)⟩
    · exact ⟨b, first, rfl, watched⟩
  rw [← alike] at stored
  -- Checks of the other member take the watched one out, back in and out again.
  obtain ⟨failures, lost, lostFiled, lostStored, lostBackend, lostState, _⟩ :=
    checked.driven other false 0 stored
  obtain ⟨successes, back, backFiled, backStored, backBackend, backState, returned⟩ :=
    lostFiled.driven other true 0 lostStored
  obtain ⟨again, final, _, _, _, _, left⟩ := backFiled.driven other false 0 backStored
  have healthy := returned (by rw [lostState]; decide)
  have unhealthy := left (by rw [backState]; decide)
  rw [lostBackend] at healthy
  rw [backBackend, lostBackend] at unhealthy
  have checks (count : Nat) (success : Bool) :
      ∀ event ∈ List.replicate count (CheckerEvent.processResult o success 0),
        About members event := by
    intro event listed
    rw [List.eq_of_mem_replicate listed]
    exact ⟨o, other, rfl⟩
  have before : ∀ event ∈ CheckerEvent.processResult b true 0 ::
      (List.replicate failures (CheckerEvent.processResult o false 0) ++
        List.replicate successes (.processResult o true 0)), About members event := by
    intro event listed
    rcases List.mem_cons.mp listed with head | listed
    · exact head ▸ about
    · rcases List.mem_append.mp listed with listed | listed
      · exact checks _ _ event listed
      · exact checks _ _ event listed
  refine ⟨sm.backend, member, fun independent => ?_⟩
  have equal := independent _
    (_ ++ List.replicate again (.processResult o false 0)) before
    (fun event listed => (List.mem_append.mp listed).elim (before event) (checks _ _ event)) (by
      rw [List.filter_append, List.filter_replicate_of_neg, List.append_nil]
      simpa [CheckerEvent.subject] using differs)
  rw [List.foldl_append, List.foldl_cons, List.foldl_append, healthy, unhealthy] at equal
  exact Bool.noConfusion equal

/-- A new checker files machines of backends in the pool under their own names. -/
theorem start_filed (heap : BackendHeap) (pool : Pool) (added : List Nat) (config : CheckerConfig)
    (now : Int) :
    Filed (fun c => (heap c).name) (pool ++ added) (start heap pool config now) := by
  -- The machines are filed one by one, a later one in place of an earlier one of its name.
  have fold (rest : List Nat) (within : ∀ b ∈ rest, b ∈ pool ++ added) (checker : Checker)
      (kept : Filed (fun c => (heap c).name) (pool ++ added) ⟨checker, heap⟩) :
      Filed (fun c => (heap c).name) (pool ++ added)
        ⟨rest.foldl (fun checker b => checker.register (heap b).name (checker.machineFor b now))
          checker, heap⟩ := by
    induction rest generalizing checker with
    | nil => exact kept
    | cons b rest ih =>
      refine ih (fun c member => within c (List.mem_cons_of_mem b member)) _ ?_
      exact kept.settle (heap b).name ⟨checker.machineFor b now, heap, none⟩
        ⟨within b List.mem_cons_self, rfl⟩ fun _ => rfl
  unfold start newChecker
  apply fold pool fun b member => List.mem_append_left added member
  refine ⟨fun _ => rfl, ?_⟩
  intro name sm found
  cases found

/--
No backend of a pool, or added to it later, influences the health of another exactly when no two of
them have the same name.

The machines of a checker are filed under names, while results and passive failures are known by
the backend: checks of one namesake drive the machine of the other.
-/
theorem health_independent_iff (heap : BackendHeap) (pool : Pool) (added : List Nat)
    (config : CheckerConfig) (now : Int) :
    (∀ b ∈ pool ++ added, Independent (start heap pool config now) (pool ++ added) b) ↔
      ∀ b ∈ pool ++ added, ∀ c ∈ pool ++ added, (heap b).name = (heap c).name → b = c := by
  -- Namesakes share a machine, and the other members have one of their own each.
  have filed := start_filed heap pool added config now
  constructor
  · intro independent b first c second same
    by_contra apart
    obtain ⟨m, member, dependent⟩ := filed.disturbed first second same apart
    exact dependent (independent m member)
  · intro distinct b member
    exact filed.independent (distinct b member)

/-- A failed check of one backend takes another one of its name out of rotation. -/
theorem namesake_check_marks_other :
    let heap : BackendHeap := fun _ => newBackend "api" "10.0.0.1:80" 1
    let watch := start heap [0, 1] ⟨1, 1, false, 0, 0⟩ 0
    let events : List CheckerEvent := [.processResult 0 false 0]
    (∀ event ∈ events, event.subject ≠ some 1) ∧ watch.heap.isHealthy 1 = true ∧
      (events.foldl apply watch).heap.isHealthy 1 = false := by
  -- The machine under the name watches the backend that came last.
  decide

end Monitoring

end Balance
