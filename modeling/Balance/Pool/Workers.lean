import Balance.Machine.Tally
import Balance.Pool.Completion

/-! What the counters of a pool of goroutines say about its workers. -/

namespace Balance

open Machine

namespace GoroutineFrame

/-- A worker that has been admitted and has not been taken off the count again. -/
def enlisted : GoroutineFrame → Bool
  | .submit _ _ .add | .submit _ _ .spawn => true
  | .worker place => place ≠ .done
  | _ => false

/-- A worker between the two updates of the count of those that run a task. -/
def occupied : GoroutineFrame → Bool
  | .worker (.run _) | .worker .complete | .worker .finish => true
  | _ => false

/-- The count of workers that a submission has loaded and is about to replace. -/
def swaps : GoroutineFrame → Option Int
  | .submit _ _ (.swap currentWorkers) => some currentWorkers
  | _ => none

/-- What a goroutine adds to the count of workers. -/
def work (frame : GoroutineFrame) : Int := if frame.enlisted then 1 else 0

/-- What a goroutine adds to the count of those that run a task. -/
def load (frame : GoroutineFrame) : Int := if frame.occupied then 1 else 0

/-- Whoever runs a task is a worker. -/
theorem load_le_work (frame : GoroutineFrame) : frame.load ≤ frame.work := by
  -- The three places between the two updates are places of a worker that has not left.
  unfold load work
  split
  case isTrue busy =>
    have worker : frame.enlisted = true := by
      unfold occupied at busy
      split at busy
      · rfl
      · rfl
      · rfl
      · cases busy
    rw [if_pos worker]
  case isFalse =>
    split
    · decide
    · decide

/-- No goroutine makes the count of those that run a task smaller. -/
theorem load_nonneg (frame : GoroutineFrame) : 0 ≤ frame.load := by
  unfold load
  split
  · decide
  · decide

end GoroutineFrame

namespace GoroutinePool

/-- The workers of a pool beyond those that were created and have not begun. -/
def begun (pool : GoroutinePool) : Int := pool.workers - pool.starting

variable {pool next : GoroutinePool} {frame after : GoroutineFrame} {choice : GoroutineChoice}

/-- The count of workers follows the goroutines. -/
theorem GoroutineStep.work (step : GoroutineStep pool frame choice next after) :
    after.work - frame.work = next.begun - pool.begun := by
  -- A worker is counted at the swap, and taken off the count when it leaves.
  cases step with
  | @began error starting new =>
    simp only [GoroutineFrame.work, GoroutineFrame.enlisted, begun, new]
    push_cast
    simp
  | submit step =>
    cases step with
    | @stopped waited => cases waited <;> simp [GoroutineFrame.work, GoroutineFrame.enlisted]
    | @gaveUp waited => cases waited <;> simp [GoroutineFrame.work, GoroutineFrame.enlisted]
    | _ => simp [GoroutineFrame.work, GoroutineFrame.enlisted, begun, accept, enqueue]
  | worker step =>
    cases step with
    | _ => simp [GoroutineFrame.work, GoroutineFrame.enlisted, begun]
  | _ => simp [GoroutineFrame.work, GoroutineFrame.enlisted, begun]

/-- The count of those that run a task follows the goroutines. -/
theorem GoroutineStep.load (step : GoroutineStep pool frame choice next after) :
    after.load - frame.load = next.running - pool.running := by
  -- Both updates are made around the task, the second one also if the task panics.
  cases step with
  | submit step =>
    cases step with
    | @stopped waited => cases waited <;> simp [GoroutineFrame.load, GoroutineFrame.occupied]
    | @gaveUp waited => cases waited <;> simp [GoroutineFrame.load, GoroutineFrame.occupied]
    | _ => simp [GoroutineFrame.load, GoroutineFrame.occupied, accept, enqueue]
  | worker step =>
    cases step with
    | _ => simp [GoroutineFrame.load, GoroutineFrame.occupied]
  | _ => simp [GoroutineFrame.load, GoroutineFrame.occupied]

/-- The limit of a pool is never changed. -/
theorem GoroutineStep.maxWorkers (step : GoroutineStep pool frame choice next after) :
    next.maxWorkers = pool.maxWorkers := by
  cases step with
  | submit step => cases step <;> rfl
  | worker step => cases step <;> rfl
  | _ => rfl

/-- A count that is about to be replaced was found below the limit. -/
theorem GoroutineStep.swaps (step : GoroutineStep pool frame choice next after)
    {currentWorkers : Int} (swaps : after.swaps = some currentWorkers) :
    currentWorkers < pool.maxWorkers := by
  -- Only the load that found fewer workers than the limit goes on to the swap.
  cases step with
  | submit step =>
    cases step with
    | loaded fewer =>
      cases swaps
      exact fewer
    | _ => cases swaps
  | worker step => cases step <;> cases swaps
  | _ => cases swaps

/-- Only a count that is being replaced makes the workers more. -/
theorem GoroutineStep.workers (step : GoroutineStep pool frame choice next after) :
    next.workers ≤ pool.workers ∨
      frame.swaps = some pool.workers ∧ next.workers = pool.workers + 1 := by
  -- A swap succeeds only if the count is still the one that was loaded.
  cases step with
  | submit step =>
    cases step with
    | swapped => exact .inr ⟨rfl, rfl⟩
    | _ => exact .inl le_rfl
  | worker step =>
    cases step with
    | left => exact .inl (Int.sub_le_self _ (by decide))
    | _ => exact .inl le_rfl
  | _ => exact .inl le_rfl

end GoroutinePool

namespace GoroutineWorld

variable {world next : GoroutineWorld} {label : Nat × GoroutineChoice}

/-- The counters of a pool say how many workers there are and how many of them run a task. -/
structure Staffed (world : GoroutineWorld) : Prop where
  working : Threads.Counts GoroutinePool.begun GoroutineFrame.work world
  running : Threads.Counts GoroutinePool.running GoroutineFrame.load world
  swaps : ∀ thread currentWorkers, (world.frame thread).swaps = some currentWorkers →
    currentWorkers < world.shared.maxWorkers
  bounded : world.shared.workers ≤ world.shared.maxWorkers

/-- Nobody works for a new pool. -/
theorem start_staffed {config : GoroutinePoolConfig}
    (positive : 0 ≤ (start config).shared.maxWorkers) : (start config).Staffed where
  working := tallies_zero
  running := tallies_zero
  swaps := nofun
  bounded := positive

/-- Every step keeps the counters right. -/
theorem step_staffed (staffed : world.Staffed) (taken : world.step label = some next) :
    next.Staffed := by
  -- Both counts follow the mover, and the limit is checked before each swap.
  obtain ⟨pool, after, step, rfl⟩ := step_inv taken
  have limit := step.maxWorkers
  refine ⟨staffed.working.advance step.work, staffed.running.advance step.load, ?_, ?_⟩
  · refine Threads.forall_frame_update (fun frame : GoroutineFrame => ∀ currentWorkers,
      frame.swaps = some currentWorkers → currentWorkers < pool.maxWorkers) ?_ ?_
    · rw [limit]
      exact staffed.swaps
    · rw [limit]
      exact fun _ swaps => step.swaps swaps
  · change pool.workers ≤ pool.maxWorkers
    rw [limit]
    have bounded := staffed.bounded
    rcases step.workers with fewer | ⟨swaps, more⟩
    · omega
    · -- The count that is replaced was below the limit when it was loaded.
      have below := staffed.swaps label.1 _ swaps
      omega

/-- The limit of a new pool is that of its settings, where it fits. -/
theorem start_maxWorkers {config : GoroutinePoolConfig} (least : 1 ≤ config.maxWorkers)
    (most : config.maxWorkers < 2 ^ 31) :
    (start config).shared.maxWorkers = config.maxWorkers := by
  -- Neither the default nor the conversion to 32 bits changes it.
  have given : orPositive config.maxWorkers 100 = config.maxWorkers := if_neg (by omega)
  change Go.wrap32 (orPositive config.maxWorkers 100) = config.maxWorkers
  rw [given]
  exact Int.bmod_eq_of_le (by omega) (by omega)

/--
At any time the counters of a pool are right: as many workers are counted as have been admitted
and not left, and as many of them as running as are running a task, within the limit; and no task
is ever run twice.
-/
theorem workers_accounted {config : GoroutinePoolConfig} (least : 1 ≤ config.maxWorkers)
    (most : config.maxWorkers < 2 ^ 31) {trace : List (Nat × GoroutineChoice)}
    {world : GoroutineWorld} (ran : exec step (start config) trace = some world) :
    0 ≤ world.shared.running ∧ world.shared.running ≤ world.shared.workers ∧
      world.shared.workers ≤ config.maxWorkers ∧
      (∃ workers : Finset Nat,
        (∀ thread, thread ∈ workers ↔ (world.frame thread).enlisted = true) ∧
          world.shared.workers = world.shared.starting + workers.card) ∧
      (∃ running : Finset Nat,
        (∀ thread, thread ∈ running ↔ (world.frame thread).occupied = true) ∧
          world.shared.running = running.card) ∧
      world.shared.executed.Nodup := by
  -- The limit is that of the settings throughout.
  have limit : world.shared.maxWorkers = config.maxWorkers :=
    exec_invariant (fun world => world.shared.maxWorkers = config.maxWorkers)
      (fun state label next same taken => by
        obtain ⟨pool, after, step, rfl⟩ := step_inv taken
        exact step.maxWorkers.trans same)
      (start_maxWorkers least most) ran
  have positive : 0 ≤ (start config).shared.maxWorkers := by
    rw [start_maxWorkers least most]
    omega
  have staffed : world.Staffed :=
    exec_invariant Staffed (fun _ _ _ staffed taken => step_staffed staffed taken)
      (start_staffed positive) ran
  have accounted : world.Accounted :=
    exec_invariant Accounted (fun _ _ _ accounted taken => step_accounted accounted taken)
      (start_accounted config) ran
  obtain ⟨workers, listed, counted⟩ := Tallies.card staffed.working
  have fewer : world.shared.running ≤ world.shared.begun :=
    Tallies.le staffed.running staffed.working fun thread => (world.frame thread).load_le_work
  refine ⟨Tallies.nonneg staffed.running fun thread => (world.frame thread).load_nonneg, ?_,
    limit ▸ staffed.bounded, ⟨workers, listed, ?_⟩, Tallies.card staffed.running,
    accounted.tasks.once⟩
  · rw [GoroutinePool.begun] at fewer
    omega
  · rw [GoroutinePool.begun] at counted
    omega

/-- A task is submitted to a pool for one worker, which then runs it. -/
def soleWorkerTrace : List (Nat × GoroutineChoice) :=
  [(0, .submit .submit), (0, .run), (0, .run), (0, .send), (0, .run), (0, .run), (0, .run),
    (0, .run), (1, .begin), (1, .receive), (1, .run)]

/-- That worker is the only one counted, and counted as running. -/
theorem sole_worker_accounted :
    ∃ world, exec step (start ⟨1, 0, 1, false⟩) soleWorkerTrace = some world ∧
      world.shared.workers = 1 ∧ world.shared.running = 1 ∧ world.shared.running ≤ 1 ∧
      world.shared.executed.Nodup := by
  obtain ⟨world, ran, workers, running⟩ :
      ∃ world, exec step (start ⟨1, 0, 1, false⟩) soleWorkerTrace = some world ∧
        world.shared.workers = 1 ∧ world.shared.running = 1 := ⟨_, rfl, rfl, rfl⟩
  obtain ⟨_, fewer, bounded, _, _, once⟩ := workers_accounted (by decide) (by decide) ran
  exact ⟨world, ran, workers, running, fewer.trans bounded, once⟩

end GoroutineWorld

end Balance
