import Mathlib.Algebra.GroupWithZero.Nat
import Balance.Backend.State
import Balance.Machine.History

/-! State machines filed under the names of backends, whose flags others write as well. -/

namespace Balance

/-- The machines by name, and the backends they write to. -/
structure Registry where
  machines : String → Option StateMachine
  heap : BackendHeap
  healthyThreshold : Int
  unhealthyThreshold : Int

/-- What can happen to the machines and the flags. -/
inductive RegistryStep where
  /-- A backend gets a new machine, unless its name has one. -/
  | register (b : Nat) (now : Int)
  /-- An event happens to the machine of a name, if there is one. -/
  | call (name : String) (event : MachineEvent)
  /-- The machine of a name is forgotten. -/
  | remove (name : String)
  /-- A backend is taken out of rotation without asking its machine. -/
  | markUnhealthy (b : Nat)

namespace Registry

/-- Take one step. -/
def apply (registry : Registry) : RegistryStep → Registry
  | .register b now =>
    let name := (registry.heap b).name
    match registry.machines name with
    | some _ => registry
    | none =>
      { registry with
        machines := Function.update registry.machines name
          (some (newStateMachine b registry.healthyThreshold registry.unhealthyThreshold now)) }
  | .call name event =>
    match registry.machines name with
    | none => registry
    | some sm =>
      let result := Monitored.apply ⟨sm, registry.heap, none⟩ event
      { registry with
        machines := Function.update registry.machines name (some result.machine)
        heap := result.heap }
  | .remove name => { registry with machines := Function.update registry.machines name none }
  | .markUnhealthy b => { registry with heap := registry.heap.markUnhealthy b }

/-- Every machine watches a backend of its name, and counts no negative run of successes. -/
structure Sound (registry : Registry) : Prop where
  threshold : 1 ≤ registry.healthyThreshold
  named : ∀ name sm, registry.machines name = some sm → (registry.heap sm.backend).name = name
  shared : ∀ name sm, registry.machines name = some sm →
    sm.healthyThreshold = registry.healthyThreshold
  counted : ∀ name sm, registry.machines name = some sm → 0 ≤ sm.metrics.consecutiveSuccesses

/-- Filing a new machine under the name of its backend keeps the machines sound. -/
theorem Sound.file {registry : Registry} (sound : Sound registry) (b : Nat) (now : Int) :
    Sound { registry with
      machines := Function.update registry.machines (registry.heap b).name
        (some (newStateMachine b registry.healthyThreshold registry.unhealthyThreshold now)) } := by
  -- What is found is either the new machine or one that was there before.
  have split {name : String} {sm : StateMachine}
      (found : Function.update registry.machines (registry.heap b).name
        (some (newStateMachine b registry.healthyThreshold registry.unhealthyThreshold now)) name =
          some sm) :
      (name = (registry.heap b).name ∧
        sm = newStateMachine b registry.healthyThreshold registry.unhealthyThreshold now) ∨
      registry.machines name = some sm := by
    by_cases here : name = (registry.heap b).name
    · subst here
      rw [Function.update_self] at found
      exact .inl ⟨rfl, (Option.some.inj found).symm⟩
    · rw [Function.update_of_ne here] at found
      exact .inr found
  refine ⟨sound.threshold, ?_, ?_, ?_⟩
  · intro name sm found
    rcases split found with ⟨rfl, rfl⟩ | kept
    · rfl
    · exact sound.named name sm kept
  · intro name sm found
    rcases split found with ⟨rfl, rfl⟩ | kept
    · rfl
    · exact sound.shared name sm kept
  · intro name sm found
    rcases split found with ⟨rfl, rfl⟩ | kept
    · exact Int.le_refl _
    · exact sound.counted name sm kept

/-- No event makes the run of successes negative. -/
theorem apply_counted {sm : StateMachine} (heap : BackendHeap) (event : MachineEvent)
    (positive : 1 ≤ sm.healthyThreshold) (counted : 0 ≤ sm.metrics.consecutiveSuccesses) :
    0 ≤ (Monitored.apply ⟨sm, heap, none⟩ event).machine.metrics.consecutiveSuccesses := by
  -- A run is lengthened, ended, or set to a threshold.
  cases event with
  | evidence recorded =>
    cases recorded with
    | recordSuccess now =>
      have runs := (Monitored.mk sm heap none).observe_success_runs now
      simp only [Monitored.apply, runs.1]
      omega
    | recordFailure now =>
      have runs := (Monitored.mk sm heap none).observe_failure_runs now
      simp only [Monitored.apply, runs.1]
      omega
    | recordRequest success responseTime =>
      have runs := (Monitored.mk sm heap none).observe_request_runs success responseTime
      simpa only [Monitored.apply, runs.1] using counted
    | reset now => exact Int.le_refl _
  | startDraining now =>
    have runs := sm.transitionTo_runs heap .stateDraining now
    simpa only [Monitored.apply, StateMachine.startDraining, runs.1] using counted
  | forceHealthy now =>
    -- The run is set to the threshold, which is positive.
    simp only [Monitored.apply, StateMachine.forceHealthy,
      (StateMachine.transitionTo_runs _ _ _ _).1]
    omega
  | forceUnhealthy now =>
    simp only [Monitored.apply, StateMachine.forceUnhealthy,
      (StateMachine.transitionTo_runs _ _ _ _).1]
    omega
  | markUnhealthy => exact counted

/-- No step renames a backend. -/
@[simp] theorem apply_name (registry : Registry) (step : RegistryStep) (b : Nat) :
    ((registry.apply step).heap b).name = (registry.heap b).name := by
  -- Steps write machines and flags, never names.
  cases step with
  | register other now =>
    simp only [apply]
    split <;> rfl
  | call name event =>
    simp only [apply]
    split
    · rfl
    · exact Monitored.apply_name _ _ _
  | remove name => rfl
  | markUnhealthy other => exact BackendHeap.storeHealthy_name _ _ _ _

/-- No step changes the thresholds. -/
@[simp] theorem apply_healthyThreshold (registry : Registry) (step : RegistryStep) :
    (registry.apply step).healthyThreshold = registry.healthyThreshold := by
  -- The thresholds of the registry are copied into machines, not changed.
  cases step with
  | register other now =>
    simp only [apply]
    split <;> rfl
  | call name event =>
    simp only [apply]
    split <;> rfl
  | remove name => rfl
  | markUnhealthy other => rfl

/-- An event for a machine keeps the machines sound. -/
theorem Sound.call {registry : Registry} (sound : Sound registry) {name : String}
    {sm : StateMachine} (stored : registry.machines name = some sm) (event : MachineEvent) :
    Sound { registry with
      machines := Function.update registry.machines name
        (some (Monitored.apply ⟨sm, registry.heap, none⟩ event).machine)
      heap := (Monitored.apply ⟨sm, registry.heap, none⟩ event).heap } := by
  -- What is found under the name is the machine after the event, elsewhere what was there.
  have shared := sound.shared name sm stored
  refine ⟨sound.threshold, ?_, ?_, ?_⟩
  all_goals
    intro other found present
    simp only at present
    by_cases here : other = name
  · subst here
    rw [Function.update_self] at present
    obtain rfl := Option.some.inj present
    rw [Monitored.apply_backend, Monitored.apply_name]
    exact sound.named other sm stored
  · rw [Function.update_of_ne here] at present
    rw [Monitored.apply_name]
    exact sound.named other found present
  · subst here
    rw [Function.update_self] at present
    obtain rfl := Option.some.inj present
    rw [(Monitored.apply_thresholds _ _).1]
    exact shared
  · rw [Function.update_of_ne here] at present
    exact sound.shared other found present
  · subst here
    rw [Function.update_self] at present
    obtain rfl := Option.some.inj present
    apply apply_counted
    · rw [shared]
      exact sound.threshold
    · exact sound.counted other sm stored
  · rw [Function.update_of_ne here] at present
    exact sound.counted other found present

/-- Forgetting a machine keeps the others sound. -/
theorem Sound.remove {registry : Registry} (sound : Sound registry) (name : String) :
    Sound { registry with machines := Function.update registry.machines name none } := by
  -- Whatever is still found was there before.
  have kept {other : String} {sm : StateMachine}
      (found : Function.update registry.machines name none other = some sm) :
      registry.machines other = some sm := by
    by_cases here : other = name
    · subst here
      simp at found
    · rwa [Function.update_of_ne here] at found
  exact ⟨sound.threshold, fun other sm found => sound.named other sm (kept found),
    fun other sm found => sound.shared other sm (kept found),
    fun other sm found => sound.counted other sm (kept found)⟩

/-- Every step keeps the machines sound. -/
theorem Sound.apply {registry : Registry} (sound : Sound registry) (step : RegistryStep) :
    Sound (registry.apply step) := by
  -- Each kind of step has its own preservation lemma.
  cases step with
  | register b now =>
    simp only [Registry.apply]
    split
    · exact sound
    · exact sound.file b now
  | call name event =>
    simp only [Registry.apply]
    split
    · exact sound
    · rename_i sm stored
      exact sound.call stored event
  | remove name => exact sound.remove name
  | markUnhealthy b =>
    refine ⟨sound.threshold, ?_, sound.shared, sound.counted⟩
    intro name sm found
    exact (BackendHeap.storeHealthy_name _ _ _ _).trans (sound.named name sm found)

end Registry

namespace MachineEvent

/-- The event ends no run of successes and takes no backend out of rotation. -/
def harmless : MachineEvent → Bool
  | .evidence (.recordSuccess _) => true
  | .evidence (.recordRequest _ _) => true
  | .forceHealthy _ => true
  | _ => false

/-- How many successful checks the event records. -/
def passes : MachineEvent → Nat
  | .evidence (.recordSuccess _) => 1
  | _ => 0

end MachineEvent

namespace StateMachine

variable {sm : StateMachine} (heap : BackendHeap) {event : MachineEvent}

/-- A machine that thinks its backend healthy writes nothing on a harmless event. -/
theorem apply_harmless_of_healthy (thinks : sm.state = .stateHealthy)
    (harmless : event.harmless = true) :
    (Monitored.apply ⟨sm, heap, none⟩ event).machine.state = .stateHealthy ∧
      (Monitored.apply ⟨sm, heap, none⟩ event).heap = heap := by
  -- Only harmless events remain, and their transitions find nothing to do.
  cases event with
  | evidence recorded =>
    cases recorded with
    | recordSuccess now =>
      -- The transition aims at the state the machine is in.
      simp only [Monitored.apply, Monitored.observe, recordSuccess, transitionTo, thinks, if_true]
      split <;> exact ⟨rfl, rfl⟩
    | recordFailure now => simp [MachineEvent.harmless] at harmless
    | recordRequest success responseTime => cases success <;> exact ⟨thinks, rfl⟩
    | reset now => simp [MachineEvent.harmless] at harmless
  | startDraining now => simp [MachineEvent.harmless] at harmless
  | forceHealthy now =>
    simp only [Monitored.apply, forceHealthy, transitionTo, thinks, if_true]
    exact ⟨trivial, trivial⟩
  | forceUnhealthy now => simp [MachineEvent.harmless] at harmless
  | markUnhealthy => simp [MachineEvent.harmless] at harmless

/-- A machine that knows its backend is out readmits it, or counts the check towards that. -/
theorem apply_harmless_of_out (out : sm.state ≠ .stateHealthy)
    (harmless : event.harmless = true) :
    let result := Monitored.apply ⟨sm, heap, none⟩ event
    result.heap.isHealthy sm.backend = true ∨
      (result.heap = heap ∧ result.machine.state = sm.state ∧
        result.machine.metrics.consecutiveSuccesses =
          sm.metrics.consecutiveSuccesses + event.passes ∧
        (event.passes = 0 ∨
          sm.metrics.consecutiveSuccesses + event.passes < sm.healthyThreshold)) := by
  -- A passed check either reaches the threshold, where it readmits, or lengthens the run.
  cases event with
  | evidence recorded =>
    cases recorded with
    | recordSuccess now =>
      simp only [Monitored.apply, Monitored.observe, recordSuccess]
      split
      · left
        simp [transitionTo_isHealthy, out]
      · -- Short of the threshold only the counters change.
        rename_i short
        right
        exact ⟨rfl, rfl, rfl, .inr (Int.not_le.mp short)⟩
    | recordFailure now => simp [MachineEvent.harmless] at harmless
    | recordRequest success responseTime =>
      right
      cases success <;> exact ⟨rfl, rfl, (Int.add_zero _).symm, .inl rfl⟩
    | reset now => simp [MachineEvent.harmless] at harmless
  | startDraining now => simp [MachineEvent.harmless] at harmless
  | forceHealthy now =>
    left
    simp [Monitored.apply, forceHealthy, transitionTo_isHealthy, out]
  | forceUnhealthy now => simp [MachineEvent.harmless] at harmless
  | markUnhealthy => simp [MachineEvent.harmless] at harmless

end StateMachine

namespace Registry

/-- The step takes no backend out, and ends no run of successes, under the name of a backend. -/
def Undisturbed (registry : Registry) (b : Nat) : RegistryStep → Prop
  | .register _ _ => True
  | .call name event => name = (registry.heap b).name → event.harmless = true
  | .remove name => name ≠ (registry.heap b).name
  | .markUnhealthy other => other ≠ b

/-- How many successful checks the step records under a name. -/
def passes (name : String) : RegistryStep → Nat
  | .call called event => if called = name then event.passes else 0
  | _ => 0

/-- The machine filed under the name of a backend. -/
def slot (registry : Registry) (b : Nat) : Option StateMachine :=
  registry.machines (registry.heap b).name

/-- What an undisturbing step does to the flag of a backend and the machine under its name. -/
theorem apply_view {registry : Registry} (sound : Sound registry) {b : Nat} {step : RegistryStep}
    (undisturbed : registry.Undisturbed b step) :
    let next := registry.apply step
    let counted := passes (registry.heap b).name step
    (next.slot b = registry.slot b ∧ next.heap.isHealthy b = registry.heap.isHealthy b ∧
        (registry.slot b = none ∨ counted = 0)) ∨
      (registry.slot b = none ∧ next.heap.isHealthy b = registry.heap.isHealthy b ∧
        ∃ sm, next.slot b = some sm ∧ sm.state = .stateHealthy) ∨
      ∃ sm event, registry.slot b = some sm ∧ event.harmless = true ∧ counted = event.passes ∧
        next.slot b = some (Monitored.apply ⟨sm, registry.heap, none⟩ event).machine ∧
        next.heap.isHealthy b =
          (Monitored.apply ⟨sm, registry.heap, none⟩ event).heap.isHealthy b := by
  -- The step concerns another name, files a first machine, or reaches the one that is filed.
  simp only [slot, apply_name]
  cases step with
  | register other now =>
    cases stored : registry.machines (registry.heap other).name with
    | some sm => simp [apply, stored, passes]
    | none =>
      by_cases twin : (registry.heap b).name = (registry.heap other).name
      · -- The backend had no machine, and the new one starts out healthy.
        right
        left
        simp only [apply, stored, twin, Function.update_self]
        exact ⟨trivial, trivial, _, rfl, rfl⟩
      · left
        simp [apply, stored, passes, Function.update_of_ne twin]
  | call name event =>
    cases stored : registry.machines name with
    | none =>
      by_cases own : name = (registry.heap b).name
      · subst own
        simp [apply, stored]
      · simp [apply, stored, passes, own]
    | some sm =>
      by_cases own : name = (registry.heap b).name
      · subst own
        right
        right
        refine ⟨sm, event, stored, undisturbed rfl, ?_, ?_, ?_⟩
        · simp [passes]
        · simp [apply, stored]
        · simp [apply, stored]
      · -- A machine of another name writes the flag of a backend of that name.
        left
        have filed := sound.named name sm stored
        have other : b ≠ sm.backend := by
          intro same
          rw [← same] at filed
          exact own filed.symm
        refine ⟨?_, ?_, .inr ?_⟩
        · simp [apply, stored, Function.update_of_ne (Ne.symm own)]
        · simp only [apply, stored]
          exact Monitored.apply_isHealthy_of_ne _ _ other
        · simp [passes, own]
  | remove name =>
    left
    refine ⟨?_, rfl, .inr rfl⟩
    exact Function.update_of_ne (Ne.symm undisturbed) _ _
  | markUnhealthy other =>
    left
    refine ⟨rfl, ?_, .inr rfl⟩
    have different : b ≠ other := Ne.symm undisturbed
    simp [apply, BackendHeap.markUnhealthy, different]

/-- The backend's own machine is filed under its name and knows that it is out. -/
def KnownOut (registry : Registry) (b : Nat) : Prop :=
  ∃ sm, registry.slot b = some sm ∧ sm.backend = b ∧ sm.state ≠ .stateHealthy

/-- The backend is in rotation, or on its way there with a number of checks passed. -/
def Recovering (registry : Registry) (b passed : Nat) : Prop :=
  registry.heap.isHealthy b = true ∨
    ∃ sm, registry.slot b = some sm ∧ sm.backend = b ∧ sm.state ≠ .stateHealthy ∧
      (passed : Int) ≤ sm.metrics.consecutiveSuccesses ∧ (passed : Int) < registry.healthyThreshold

/-- Undisturbed, a backend that is in rotation stays there. -/
theorem apply_stays_in {registry : Registry} (sound : Sound registry) {b : Nat}
    {step : RegistryStep} (rotating : registry.heap.isHealthy b = true)
    (undisturbed : registry.Undisturbed b step) :
    (registry.apply step).heap.isHealthy b = true := by
  -- Nothing that is harmless takes the backend out.
  rcases apply_view sound undisturbed with ⟨_, same, _⟩ | ⟨_, same, _⟩ |
    ⟨sm, event, stored, harmless, _, _, flag⟩
  · exact same.trans rotating
  · exact same.trans rotating
  · rw [flag]
    by_cases own : b = sm.backend
    · by_cases thinks : sm.state = .stateHealthy
      · rw [(StateMachine.apply_harmless_of_healthy _ thinks harmless).2]
        exact rotating
      · subst own
        rcases StateMachine.apply_harmless_of_out registry.heap thinks harmless with
          back | ⟨heap, _⟩
        · exact back
        · rw [heap]
          exact rotating
    · rw [Monitored.apply_isHealthy_of_ne _ _ own]
      exact rotating

/-- Undisturbed, a recovering backend makes progress with every check it passes. -/
theorem Recovering.apply {registry : Registry} (sound : Sound registry) {b passed : Nat}
    {step : RegistryStep} (recovering : registry.Recovering b passed)
    (undisturbed : registry.Undisturbed b step) :
    (registry.apply step).Recovering b (passed + passes (registry.heap b).name step) := by
  -- Either the backend is in rotation already, or its own machine is counting.
  unfold Recovering
  rw [apply_healthyThreshold]
  rcases recovering with rotating | ⟨sm, stored, own, out, reached, short⟩
  · exact .inl (apply_stays_in sound rotating undisturbed)
  · rcases apply_view sound undisturbed with ⟨slot, _, idle⟩ | ⟨empty, _⟩ |
      ⟨found, event, present, harmless, counted, slot, flag⟩
    · -- With a machine in place, a step that does not reach it records no check.
      have none : passes (registry.heap b).name step = 0 := by
        rcases idle with empty | none
        · rw [empty] at stored
          cases stored
        · exact none
      right
      rw [none]
      exact ⟨sm, slot.trans stored, own, out, reached, short⟩
    · rw [empty] at stored
      cases stored
    · have same : found = sm := Option.some.inj (present.symm.trans stored)
      subst same
      rw [flag, counted]
      rcases StateMachine.apply_harmless_of_out registry.heap out harmless with
        back | ⟨_, state, run, below⟩
      · left
        rw [own] at back
        exact back
      · right
        refine ⟨_, slot, ?_, ?_, ?_, ?_⟩
        · rw [Monitored.apply_backend]
          exact own
        · rw [state]
          exact out
        · rw [run]
          omega
        · have threshold := sound.shared _ _ stored
          omega

/-- Undisturbed, a backend whose machine does not know that it is out stays out. -/
theorem apply_stays_out {registry : Registry} (sound : Sound registry) {b : Nat}
    {step : RegistryStep} (out : registry.heap.isHealthy b = false)
    (unknown : ¬ registry.KnownOut b) (undisturbed : registry.Undisturbed b step) :
    (registry.apply step).heap.isHealthy b = false ∧ ¬ (registry.apply step).KnownOut b := by
  -- No machine that could write the flag sees a reason to.
  unfold KnownOut at unknown ⊢
  rcases apply_view sound undisturbed with ⟨slot, same, _⟩ |
    ⟨_, same, fresh, slot, thinks⟩ | ⟨sm, event, stored, harmless, _, slot, flag⟩
  · rw [slot, same]
    exact ⟨out, unknown⟩
  · rw [slot, same]
    refine ⟨out, ?_⟩
    intro given
    rcases given with ⟨found, isFresh, _, notHealthy⟩
    cases isFresh
    exact notHealthy thinks
  · rw [slot, flag]
    by_cases own : sm.backend = b
    · -- The machine is the backend's own, so it must think that the backend is healthy.
      have thinks : sm.state = .stateHealthy := by
        by_contra notHealthy
        exact unknown ⟨sm, stored, own, notHealthy⟩
      have quiet := StateMachine.apply_harmless_of_healthy registry.heap thinks harmless
      rw [quiet.2]
      refine ⟨out, ?_⟩
      intro given
      rcases given with ⟨found, isResult, _, notHealthy⟩
      cases isResult
      exact notHealthy quiet.1
    · rw [Monitored.apply_isHealthy_of_ne _ _ (Ne.symm own)]
      refine ⟨out, ?_⟩
      intro given
      rcases given with ⟨found, isResult, foundOwn, _⟩
      cases isResult
      rw [Monitored.apply_backend] at foundOwn
      exact own foundOwn

/-- Whether a step disturbs a backend depends on names only, which no step changes. -/
theorem undisturbed_apply {registry : Registry} (step : RegistryStep) {b : Nat}
    {later : RegistryStep} :
    (registry.apply step).Undisturbed b later ↔ registry.Undisturbed b later := by
  -- The definition reads names, and names stay.
  cases later with
  | register other now => exact Iff.rfl
  | call name event => simp only [Undisturbed, apply_name]
  | remove name => simp only [Undisturbed, apply_name]
  | markUnhealthy other => exact Iff.rfl

/-- Nor does what disturbs a backend change over a whole run. -/
theorem undisturbed_run {registry : Registry} (steps : List RegistryStep) {b : Nat}
    {later : RegistryStep} :
    (steps.foldl Registry.apply registry).Undisturbed b later ↔ registry.Undisturbed b later := by
  -- Step by step, nothing about names changes.
  induction steps generalizing registry with
  | nil => exact Iff.rfl
  | cons step rest ih =>
    rw [List.foldl_cons, ih]
    exact undisturbed_apply step

/-- No run changes the thresholds. -/
theorem run_healthyThreshold (registry : Registry) (steps : List RegistryStep) :
    (steps.foldl Registry.apply registry).healthyThreshold = registry.healthyThreshold :=
  Machine.foldl_unchanged Registry.healthyThreshold apply_healthyThreshold registry steps

/-- No run renames a backend. -/
theorem run_name (registry : Registry) (steps : List RegistryStep) (b : Nat) :
    ((steps.foldl Registry.apply registry).heap b).name = (registry.heap b).name :=
  Machine.foldl_unchanged (fun registry => (registry.heap b).name)
    (fun registry step => apply_name registry step b) registry steps

/-- Every run keeps the machines sound. -/
theorem Sound.run {registry : Registry} (sound : Sound registry) (steps : List RegistryStep) :
    Sound (steps.foldl Registry.apply registry) := by
  -- Each step hands soundness to the rest of the run.
  induction steps generalizing registry with
  | nil => exact sound
  | cons step rest ih => exact ih (sound.apply step)

/-- The successful checks that a run records under a name. -/
def passesAlong (name : String) (steps : List RegistryStep) : Nat :=
  (steps.map (passes name)).sum

/-- Checks recorded by two runs add up. -/
theorem passesAlong_append (name : String) (first second : List RegistryStep) :
    passesAlong name (first ++ second) = passesAlong name first + passesAlong name second := by
  simp [passesAlong]

/-- Over an undisturbed run, a recovering backend has every check it passes counted. -/
theorem Recovering.run {registry : Registry} (sound : Sound registry) {b passed : Nat}
    (recovering : registry.Recovering b passed) {steps : List RegistryStep}
    (undisturbed : ∀ step ∈ steps, registry.Undisturbed b step) :
    (steps.foldl Registry.apply registry).Recovering b
      (passed + passesAlong (registry.heap b).name steps) := by
  -- The checks counted so far grow by those of each step.
  induction steps generalizing registry passed with
  | nil => exact recovering
  | cons step rest ih =>
    have next := recovering.apply sound (undisturbed step (by simp))
    have later : ∀ move ∈ rest, (registry.apply step).Undisturbed b move := by
      intro move member
      exact (undisturbed_apply step).mpr (undisturbed move (by simp [member]))
    have reached := ih (sound.apply step) next later
    rw [apply_name, Nat.add_assoc] at reached
    simpa only [List.foldl_cons, passesAlong, List.map_cons, List.sum_cons] using reached

/-- Over an undisturbed run, a backend whose machine does not know that it is out stays out. -/
theorem run_stays_out {registry : Registry} (sound : Sound registry) {b : Nat}
    (out : registry.heap.isHealthy b = false) (unknown : ¬ registry.KnownOut b)
    {steps : List RegistryStep} (undisturbed : ∀ step ∈ steps, registry.Undisturbed b step) :
    (steps.foldl Registry.apply registry).heap.isHealthy b = false := by
  -- Being out without the machine's knowledge is kept by every step.
  induction steps generalizing registry with
  | nil => exact out
  | cons step rest ih =>
    have next := apply_stays_out sound out unknown (undisturbed step (by simp))
    apply ih (sound.apply step) next.1 next.2
    intro move member
    exact (undisturbed_apply step).mpr (undisturbed move (by simp [member]))

/--
After enough passed checks, a backend is in rotation exactly when it was in rotation before them
or its machine knew that it was out.
-/
theorem run_isHealthy_iff {registry : Registry} (sound : Sound registry) {b : Nat}
    {steps : List RegistryStep} (undisturbed : ∀ step ∈ steps, registry.Undisturbed b step)
    (enough : registry.healthyThreshold ≤ passesAlong (registry.heap b).name steps) :
    (steps.foldl Registry.apply registry).heap.isHealthy b = true ↔
      registry.heap.isHealthy b = true ∨ registry.KnownOut b := by
  -- One direction counts checks up to the threshold, the other stays out step by step.
  constructor
  · intro rotating
    by_contra neither
    have apart := not_or.mp neither
    have out := run_stays_out sound (by simpa using apart.1) apart.2 undisturbed
    rw [out] at rotating
    cases rotating
  · intro start
    have recovering : registry.Recovering b 0 := by
      rcases start with rotating | ⟨sm, stored, own, out⟩
      · exact .inl rotating
      · have counted := sound.counted _ sm stored
        have positive := sound.threshold
        exact .inr ⟨sm, stored, own, out, by omega, by omega⟩
    rcases recovering.run sound undisturbed with rotating | ⟨sm, _, _, _, _, short⟩
    · exact rotating
    · -- As many checks as the threshold asks for cannot leave the backend short of it.
      rw [run_healthyThreshold] at short
      omega

end Registry

end Balance
