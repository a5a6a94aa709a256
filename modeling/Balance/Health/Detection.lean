import Balance.Backend.Hysteresis
import Balance.Health.Active
import Balance.Health.Isolation
import Balance.Machine.Ticker

/-! How long the loop of the health checker takes to find out about a backend. -/

namespace Balance

open Machine

/-- How many checks of one outcome in a row a checker needs, with its defaults. -/
def CheckerConfig.threshold (config : CheckerConfig) (passes : Bool) : Int :=
  if passes then if config.healthyThreshold = 0 then 2 else config.healthyThreshold
  else if config.unhealthyThreshold = 0 then 3 else config.unhealthyThreshold

namespace Monitoring

/--
What the loop of the checker has done after so many rounds.

In whatever order the checks of a round end, its results are those of each backend in turn.
-/
def runHealthChecks (ac : ActiveChecker) (pool : Pool) (probe : Nat → Nat → Probe)
    (now : Nat → Nat → Int) (watch : Monitoring) : Nat → Option Monitoring
  | 0 => some watch
  | n + 1 => do
    let watch ← runHealthChecks ac pool probe now watch n
    let (watch, _) ← watch.performHealthChecks pool (now n)
      (ac.outcomes watch.heap pool (probe n))
    return watch

/-- The checker has the machine of a backend, and the backend its flag, as a record says. -/
structure Tracked (heap : BackendHeap) (members : List Nat) (b : Nat) (watch : Monitoring)
    (monitored : Monitored) : Prop where
  filed : Filed (fun c => (heap c).name) members watch
  address : ∀ c, (watch.heap c).address = (heap c).address
  machine : watch.checker.stateMachines (heap b).name = some monitored.machine
  flag : watch.heap.isHealthy b = monitored.heap.isHealthy b

variable {watch final : Monitoring} {heap : BackendHeap} {members : List Nat} {b : Nat}
  {monitored : Monitored}

/-- A check changes no address. -/
theorem record_address (sm : StateMachine) (heap : BackendHeap) (success : Bool) (now : Int)
    (c : Nat) : ((sm.record heap success now).heap c).address = (heap c).address := by
  -- At most one flag is written.
  have transition (sm : StateMachine) (newState : BackendState) :
      ((sm.transitionTo heap newState now).heap c).address = (heap c).address := by
    unfold StateMachine.transitionTo
    split
    · rfl
    · split <;> exact BackendHeap.storeHealthy_address _ _ _ _
  cases success with
  | true =>
    simp only [StateMachine.record, StateMachine.recordSuccess, if_true]
    split
    · exact transition _ _
    · rfl
  | false =>
    simp only [StateMachine.record, StateMachine.recordFailure, Bool.false_eq_true, if_false]
    split
    · exact transition _ _
    · rfl

/-- A check of the backend itself goes into its record, and one of another does not. -/
theorem Tracked.processResult (tracked : Tracked heap members b watch monitored)
    (distinct : ∀ c ∈ members, (heap c).name = (heap b).name → c = b) {c : Nat}
    (member : c ∈ members) (success : Bool) (now : Int) :
    Tracked heap members b (watch.processResult c success now)
      (if c = b then monitored.record (success, now) else monitored) := by
  have filed : Filed (fun c => (heap c).name) members
      (watch.apply (.processResult c success now)) := tracked.filed.apply ⟨c, member, rfl⟩
  have address (d : Nat) :
      ((watch.processResult c success now).heap d).address = (heap d).address :=
    (record_address _ _ _ _ d).trans (tracked.address d)
  split
  · -- The machine under the name of the backend records it.
    rename_i same
    subst same
    obtain ⟨machine, flags⟩ := tracked.filed.processResult c success now
    have chosen : watch.machineOf c now = monitored.machine := by
      rw [Monitoring.machineOf, tracked.filed.named, tracked.machine, Option.getD_some]
    rw [chosen] at machine flags
    have alike := @StateMachine.record_congr monitored.machine _ _ success now c tracked.flag
    refine ⟨filed, address, ?_, ?_⟩
    · rw [Monitored.record, ← alike.1]
      exact machine
    · rw [Monitored.record, ← alike.2.2, ← flags]
      rfl
  · -- The name of another backend is another one.
    rename_i apart
    have silent : (watch.apply (.processResult c success now)).view (heap b).name b =
        watch.view (heap b).name b :=
      tracked.filed.silent member rfl fun same => apart (distinct c member same.symm)
    refine ⟨filed, address, ?_, ?_⟩
    · exact (congrArg HealthView.machine silent).trans tracked.machine
    · exact (congrArg HealthView.healthy silent).trans tracked.flag

/-- The results of a round that are the backend's own go into its record. -/
theorem Tracked.processResults (tracked : Tracked heap members b watch monitored)
    (distinct : ∀ c ∈ members, (heap c).name = (heap b).name → c = b) {now : Nat → Int}
    {index : Nat} {results : List CheckResult} {told : List Notification}
    (backed : ∀ result ∈ results, ∃ c ∈ members, result.backend = some c)
    (processed : processResults now index watch results = some (final, told)) :
    ∃ checks : List (Bool × Int),
      checks.map Prod.fst =
        (results.filter fun result => result.backend = some b).map CheckResult.success ∧
      Tracked heap members b final (checks.foldl Monitored.record monitored) := by
  -- The results are processed one after another, and most of them are about others.
  induction results generalizing index watch monitored told with
  | nil =>
    simp only [Monitoring.processResults, Option.some.injEq, Prod.mk.injEq] at processed
    obtain ⟨rfl, _⟩ := processed
    exact ⟨[], rfl, tracked⟩
  | cons result rest ih =>
    obtain ⟨⟨c, member, about⟩, later⟩ := List.forall_mem_cons.mp backed
    rw [Monitoring.processResults, about, Option.bind_eq_bind, Option.bind_some] at processed
    obtain ⟨⟨after, more⟩, went, same⟩ := Option.bind_eq_some_iff.mp processed
    obtain ⟨rfl, _⟩ := Prod.mk.inj (Option.some.inj same)
    obtain ⟨checks, listed, kept⟩ :=
      ih (tracked.processResult distinct member result.success (now index)) later went
    by_cases own : c = b
    · rw [if_pos own] at kept
      refine ⟨(result.success, now index) :: checks, ?_, kept⟩
      simp [about, own, listed]
    · rw [if_neg own] at kept
      exact ⟨checks, by simp [about, own, listed], kept⟩

/-- Each outcome of a round is of a member of the pool. -/
theorem backend_of_mem_outcomes {ac : ActiveChecker} {heap : BackendHeap} {pool : Pool}
    {probe : Nat → Probe} {result : CheckResult}
    (member : result ∈ ac.outcomes heap pool probe) : ∃ c ∈ pool, result.backend = some c := by
  obtain ⟨i, inside, rfl⟩ := List.mem_mapIdx.mp member
  exact ⟨pool[i], List.getElem_mem inside, rfl⟩

/-- Of the outcomes of a round, the backend's own is the one in its place. -/
theorem filter_outcomes (ac : ActiveChecker) (heap : BackendHeap) {pool : Pool}
    (once : pool.Nodup) (probe : Nat → Probe) {index : Nat} (place : pool[index]? = some b) :
    ((ac.outcomes heap pool probe).filter fun result => result.backend = some b) =
      [ac.check heap b (probe index)] := by
  -- The outcomes before and behind it are of other backends.
  induction pool generalizing probe index with
  | nil => cases place
  | cons c rest ih =>
    obtain ⟨fresh, once⟩ := List.nodup_cons.mp once
    have outcomes : ac.outcomes heap (c :: rest) probe =
        ac.check heap c (probe 0) :: ac.outcomes heap rest fun i => probe (i + 1) :=
      List.mapIdx_cons
    rw [outcomes]
    cases index with
    | zero =>
      obtain rfl := Option.some.inj place
      have others : (ac.outcomes heap rest fun i => probe (i + 1)).filter
          (fun result => result.backend = some c) = [] := by
        rw [List.filter_eq_nil_iff]
        intro result member own
        obtain ⟨d, listed, about⟩ := backend_of_mem_outcomes member
        rw [about, decide_eq_true_iff] at own
        exact fresh (Option.some.inj own ▸ listed)
      rw [List.filter_cons_of_pos (by simp [ActiveChecker.check]), others]
    | succ i =>
      have apart : c ≠ b := by
        rintro rfl
        exact fresh (List.mem_of_getElem? place)
      rw [List.filter_cons_of_neg (by simp [ActiveChecker.check, apart])]
      exact ih once _ place

/-- A round adds one check to the record of a backend. -/
theorem Tracked.round {pool : Pool} (tracked : Tracked heap pool b watch monitored)
    (distinct : ∀ c ∈ pool, (heap c).name = (heap b).name → c = b) (once : pool.Nodup)
    {index : Nat} (place : pool[index]? = some b) (ac : ActiveChecker) (probe : Nat → Probe)
    (now : Nat → Int) :
    ∃ after told, watch.performHealthChecks pool now (ac.outcomes watch.heap pool probe) =
        some (after, told) ∧
      ∃ time, Tracked heap pool b after
        (monitored.record ((ac.check heap b (probe index)).success, time)) := by
  -- The results are those of all members, and one of them is the backend's own.
  obtain ⟨⟨after, told⟩, performed⟩ := exists_performHealthChecks ac pool probe now watch
  refine ⟨after, told, performed, ?_⟩
  have occupied : ¬ pool.length = 0 := by
    intro empty
    rw [List.length_eq_zero_iff.mp empty] at place
    cases place
  rw [performHealthChecks, if_neg occupied] at performed
  obtain ⟨checks, listed, kept⟩ := tracked.processResults distinct
    (fun _ member => backend_of_mem_outcomes member) performed
  have same : ac.check watch.heap b (probe index) = ac.check heap b (probe index) := by
    simp only [ActiveChecker.check, tracked.address]
  rw [filter_outcomes ac watch.heap once probe place, List.map_singleton, same] at listed
  obtain ⟨⟨success, time⟩, rfl⟩ : ∃ check, checks = [check] := by
    refine List.length_eq_one_iff.mp ?_
    rw [← List.length_map (f := Prod.fst), listed, List.length_singleton]
  obtain rfl : success = _ := List.singleton_inj.mp listed
  exact ⟨time, kept⟩

/-- A new checker has a new machine for each backend whose name nobody else has. -/
theorem start_tracked {pool : Pool} (config : CheckerConfig) (now : Int) (member : b ∈ pool)
    (distinct : ∀ c ∈ pool, (heap c).name = (heap b).name → c = b) :
    Tracked heap pool b (start heap pool config now)
      (.start heap b (config.threshold true) (config.threshold false) now) := by
  have filed := start_filed heap pool [] config now
  rw [List.append_nil] at filed
  refine ⟨filed, fun _ => rfl, ?_, rfl⟩
  -- The machine of the backend is filed once, and nobody replaces it.
  have fold (rest : List Nat) (within : ∀ c ∈ rest, c ∈ pool) (checker : Checker)
      (known : b ∈ rest ∨ checker.stateMachines (heap b).name = some (checker.machineFor b now)) :
      (rest.foldl (fun checker c => checker.register (heap c).name (checker.machineFor c now))
        checker).stateMachines (heap b).name = some (checker.machineFor b now) := by
    induction rest generalizing checker with
    | nil => exact known.resolve_left List.not_mem_nil
    | cons c rest ih =>
      refine ih (fun d listed => within d (List.mem_cons_of_mem c listed))
        (checker.register (heap c).name (checker.machineFor c now)) ?_
      by_cases own : c = b
      · right
        rw [own]
        exact Function.update_self _ _ _
      · have apart : (heap b).name ≠ (heap c).name := fun same =>
          own (distinct c (within c List.mem_cons_self) same.symm)
        refine known.imp (fun listed => ?_) fun found => ?_
        · exact (List.mem_cons.mp listed).resolve_left (Ne.symm own)
        · exact (Function.update_of_ne apart _ _).trans found
  exact fold pool (fun _ listed => listed) _ (.inl member)

/-- After any number of rounds, the record of a backend has one check for each. -/
theorem run_tracked {pool : Pool} (config : CheckerConfig) (created : Int)
    (distinct : ∀ c ∈ pool, (heap c).name = (heap b).name → c = b) (once : pool.Nodup)
    {index : Nat} (place : pool[index]? = some b) (ac : ActiveChecker)
    (probe : Nat → Nat → Probe) (now : Nat → Nat → Int) (n : Nat) :
    ∃ (watch : Monitoring) (history : List (Bool × Int)),
      runHealthChecks ac pool probe now (start heap pool config created) n = some watch ∧
      history.map Prod.fst =
        (List.range n).map (fun k => (ac.check heap b (probe k index)).success) ∧
      Tracked heap pool b watch (history.foldl Monitored.record
        (.start heap b (config.threshold true) (config.threshold false) created)) := by
  -- Each round puts its check at the end of the record.
  induction n with
  | zero =>
    exact ⟨_, [], rfl, rfl, start_tracked config created (List.mem_of_getElem? place) distinct⟩
  | succ n ih =>
    obtain ⟨watch, history, ran, listed, tracked⟩ := ih
    obtain ⟨after, told, performed, time, kept⟩ :=
      tracked.round distinct once place ac (probe n) (now n)
    refine ⟨after, history ++ [((ac.check heap b (probe n index)).success, time)], ?_, ?_, ?_⟩
    · rw [runHealthChecks, ran, Option.bind_eq_bind, Option.bind_some, performed]
      rfl
    · rw [List.map_append, listed, List.range_succ, List.map_append]
      rfl
    · rw [List.foldl_concat]
      exact kept

/-- A backend whose latest checks all had one outcome, and are enough of them, is marked so. -/
theorem isHealthy_of_streak {up down created : Int} (rising : 1 ≤ up) (falling : 1 ≤ down)
    (healthy : heap.isHealthy b = true) {past recent : List (Bool × Int)} {passes : Bool}
    (alike : ∀ check ∈ recent, check.1 = passes)
    (enough : (if passes then up else down) ≤ recent.length) :
    ((past ++ recent).foldl Monitored.record (.start heap b up down created)).heap.isHealthy b =
      passes := by
  -- The last of these checks makes the transition, if it was not made before.
  have several : recent ≠ [] := by
    rintro rfl
    cases passes <;> simp at enough <;> omega
  obtain ⟨init, last, rfl⟩ := (List.eq_nil_or_concat recent).resolve_left several
  rw [List.concat_eq_append] at alike enough ⊢
  rw [← List.append_assoc, List.foldl_concat]
  have reflects := Monitored.reflects_foldl rising falling healthy created (past ++ init)
  have after := reflects.record rising falling last
  have flag := after.flag
  rw [Monitored.FlagAgrees, after.backend, Monitored.record_state, reflects.thresholds.1,
    reflects.thresholds.2, reflects.successes, reflects.failures,
    alike last (List.mem_append_right _ (List.mem_singleton_self last))] at flag
  rw [flag]
  have before : ∀ check ∈ init, check.1 = passes := fun check member =>
    alike check (List.mem_append_left _ member)
  rw [List.length_append, List.length_singleton] at enough
  cases passes with
  | true =>
    have streak := @le_trailing _ (fun check : Bool × Int => check.1) past init before
    have reached : up ≤ Monitored.successRun (past ++ init) + 1 := by
      rw [Monitored.successRun]
      simp only [if_true] at enough
      omega
    simp [reached]
  | false =>
    have streak := @le_trailing _ (fun check : Bool × Int => !check.1) past init
      fun check member => by rw [before check member]; rfl
    have reached : down ≤ Monitored.failureRun (past ++ init) + 1 := by
      rw [Monitored.failureRun]
      simp only [Bool.false_eq_true, if_false] at enough
      omega
    simp [reached]

/--
As long as there are only rounds of checks, a backend that starts out healthy and passes its checks
from some time on is in rotation, and one that fails them is out of it, as soon as one period more
has passed than the threshold says.
-/
theorem health_found_out {pool : Pool} (config : CheckerConfig) (created : Int)
    (rising : 0 ≤ config.healthyThreshold) (falling : 0 ≤ config.unhealthyThreshold)
    (distinct : ∀ c ∈ pool, (heap c).name = (heap b).name → c = b) (once : pool.Nodup)
    {index : Nat} (place : pool[index]? = some b) (healthy : heap.isHealthy b = true)
    (ac : ActiveChecker) (probe : Nat → Nat → Probe) (now : Nat → Nat → Int) (loop : Ticked)
    {since time : Int} (started : loop.created ≤ since) {passes : Bool}
    (alike : ∀ k, since ≤ loop.began k → (ac.check heap b (probe k index)).success = passes)
    (late : since + (config.threshold passes + 1) * loop.period ≤ time) {n : Nat}
    (unfinished : time < loop.ended n) :
    ∃ watch, runHealthChecks ac pool probe now (start heap pool config created) n = some watch ∧
      watch.heap.isHealthy b = passes := by
  have positive (outcome : Bool) : 1 ≤ config.threshold outcome := by
    unfold CheckerConfig.threshold
    split_ifs <;> omega
  -- Enough rounds began since then and are over.
  obtain ⟨count, counted⟩ := Int.eq_ofNat_of_zero_le (le_trans zero_le_one (positive passes))
  have some : 1 ≤ count := by
    have := positive passes
    omega
  obtain ⟨k, enough, later⟩ := loop.exists_rounds some started (by rwa [counted] at late) unfinished
  obtain ⟨watch, history, ran, listed, tracked⟩ :=
    run_tracked config created distinct once place ac probe now n
  refine ⟨watch, ran, ?_⟩
  have length : history.length = n := by
    rw [← List.length_map (f := Prod.fst), listed, List.length_map, List.length_range]
  rw [tracked.flag, ← List.take_append_drop k history]
  refine isHealthy_of_streak (positive true) (positive false) healthy (fun check member => ?_) ?_
  · -- A later check is one of a round that began since then.
    have image := List.mem_map_of_mem (f := Prod.fst) member
    rw [List.map_drop, listed, ← List.map_drop] at image
    obtain ⟨j, round, outcome⟩ := List.mem_map.mp image
    obtain ⟨i, inside, rfl⟩ := List.mem_iff_getElem.mp round
    rw [← outcome, alike]
    rw [List.getElem_drop, List.getElem_range]
    exact later _ (Nat.le_add_right k i)
  · have needed : (if passes then config.threshold true else config.threshold false) =
        config.threshold passes := by cases passes <;> rfl
    rw [needed, counted, List.length_drop, length]
    exact_mod_cast Nat.le_sub_of_add_le' enough

/-- A round of one unit of time is within an interval of ten. -/
theorem prompt_lasts (k : Nat) :
    (10 * k : Int) ≤ 10 * k + 1 ∧ (10 * k + 1 : Int) ≤ 10 * k + 10 + 0 := by
  omega

/-- The tick after the beginning of such a round comes when the next one begins. -/
theorem prompt_resumes (k : Nat) :
    max (10 * k + 1 : Int) (nextTick 0 10 (10 * k)) ≤ 10 * (k + 1 : Nat) ∧
      (10 * (k + 1 : Nat) : Int) ≤ max (10 * k + 1 : Int) (nextTick 0 10 (10 * k)) + 0 := by
  rw [nextTick]
  omega

/-- A loop that begins a round with each tick, and is done with it soon. -/
def promptLoop : Ticked where
  interval := 10
  lag := 0
  created := 0
  began k := 10 * k
  ended k := 10 * k + 1
  positive := by decide
  nonneg := le_refl 0
  first := by decide
  lasts := prompt_lasts
  resumes := prompt_resumes

/-- The second of two backends refuses connections from the third round on. -/
def goingDown (k index : Nat) : Probe where
  started := 0
  ended := 0
  dial _ := if index = 1 ∧ 2 ≤ k then .error "connection refused" else .ok ()
  newRequest _ := .ok ()
  get _ := .ok 200

/-- Four intervals later, with the defaults, it is out of rotation. -/
theorem health_found_out_down :
    let heap : BackendHeap := fun b => newBackend (if b = 0 then "a" else "b") "10.0.0.1:80" 1
    ∃ watch, runHealthChecks (newActiveChecker ⟨.tcp, 0, "", []⟩) [0, 1] goingDown (fun _ _ => 0)
        (start heap [0, 1] ⟨0, 0, false, 0, 0⟩ 0) 6 = some watch ∧
      watch.heap.isHealthy 1 = false := by
  intro heap
  refine @health_found_out heap 1 [0, 1] ⟨0, 0, false, 0, 0⟩ 0 (le_refl 0) (le_refl 0) (by decide)
    (by decide) 1 rfl rfl _ goingDown _ promptLoop 15 55 (by decide) false ?_ (by decide) 6
    (by decide)
  -- The third round begins after twenty units of time.
  intro k since
  have later : 2 ≤ k := by
    change (15 : Int) ≤ 10 * k at since
    omega
  simp [ActiveChecker.check, newActiveChecker, ActiveChecker.checkTCP, goingDown, later]

end Monitoring

end Balance
