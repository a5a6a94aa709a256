import Balance.Machine.Tally
import Balance.Pool.Goroutine

/-! What the statistics of a pool of goroutines say about the tasks that were submitted to it. -/

namespace Balance

open Machine

/-- The statistics that a pool reports. -/
structure GoroutinePoolStats where
  workers : Int
  running : Int
  queueSize : Nat
  submitted : Nat
  completed : Nat
  rejected : Nat
  isClosed : Bool
  deriving DecidableEq, Repr

/-- The statistics, when nobody changes them while they are read. -/
def GoroutinePool.stats (pool : GoroutinePool) : GoroutinePoolStats where
  workers := pool.workers
  running := pool.running
  queueSize := pool.taskQueue.length
  submitted := pool.submitted
  completed := pool.completed
  rejected := pool.rejected
  isClosed := pool.closed

namespace GoroutineFrame

/-- A goroutine that has a task which is neither queued nor counted as completed or rejected. -/
def unsettled : GoroutineFrame → Bool
  | .submit _ _ .check | .submit _ _ .count | .submit _ _ .select | .submit _ _ .parked
  | .submit _ _ (.reject _) => true
  | .worker (.start _) | .worker (.run _) | .worker .complete => true
  -- The task of a submission that has panicked is lost with it.
  | .panicked => true
  | _ => false

/-- A submission that has not been counted so far. -/
def early : GoroutineFrame → Bool
  | .submit _ _ .check | .submit _ _ .count => true
  | _ => false

end GoroutineFrame

/-- A goroutine calls one of the three functions that submit a task. -/
def GoroutineChoice.submits : GoroutineChoice → Bool
  | .submit _ => true
  | _ => false

namespace GoroutinePool

open GoroutineFrame

/-- The tasks of all calls that are neither queued nor counted as completed or rejected. -/
def carried (pool : GoroutinePool) : Int :=
  pool.nextTask - pool.completed - pool.rejected - pool.taskQueue.length

/-- The calls that are not counted as submissions. -/
def uncounted (pool : GoroutinePool) : Int := pool.nextTask - pool.submitted

variable {pool next : GoroutinePool} {frame after : GoroutineFrame} {choice : GoroutineChoice}

/-- A task goes from hand to hand or through the queue, until it is counted. -/
theorem GoroutineStep.unsettled_booked (step : GoroutineStep pool frame choice next after) :
    (if after.unsettled then 1 else 0) - (if frame.unsettled then 1 else 0) =
      next.carried - pool.carried := by
  -- Only a task that changes between a hand, the queue and a counter makes a difference.
  cases step with
  | submit step =>
    cases step with
    | @stopped waited => cases waited <;> simp [unsettled]
    | @gaveUp waited => cases waited <;> simp [unsettled]
    | _ => simp [unsettled, carried, accept, enqueue]
  | worker step =>
    cases step with
    | received front => simp [unsettled, carried, front]
    | _ => simp [unsettled, carried]
  | _ => simp [unsettled, carried]

/-- A call of an open pool is counted before its task is sent. -/
theorem GoroutineStep.uncounted_booked (step : GoroutineStep pool frame choice next after)
    (usable : pool.closed = false) :
    (if after.early then 1 else 0) - (if frame.early then 1 else 0) =
      next.uncounted - pool.uncounted := by
  cases step with
  | submit step =>
    cases step with
    -- A closed pool refuses a task that it has not counted.
    | refused closed =>
      rw [usable] at closed
      cases closed
    | @stopped waited => cases waited <;> simp [early]
    | @gaveUp waited => cases waited <;> simp [early]
    | _ => simp [early, uncounted, accept, enqueue]
  | worker step => cases step <;> simp [early, uncounted]
  | _ => simp [early, uncounted]

/-- A pool that was closed stays closed. -/
theorem GoroutineStep.open_before (step : GoroutineStep pool frame choice next after)
    (usable : next.closed = false) : pool.closed = false := by
  cases step with
  | submit step => cases step <;> exact usable
  | worker step => cases step <;> exact usable
  | stored => cases usable
  | _ => exact usable

/-- Every call has a task of its own. -/
theorem GoroutineStep.nextTask (step : GoroutineStep pool frame choice next after) :
    next.nextTask = pool.nextTask + if choice.submits then 1 else 0 := by
  cases step with
  | submit step =>
    cases step with
    | gaveUp early gives =>
      cases choice with
      | submit => simp [givesUp] at gives
      | _ => rfl
    | _ => rfl
  | worker step => cases step <;> rfl
  | _ => rfl

end GoroutinePool

namespace GoroutineWorld

open GoroutinePool GoroutineFrame

variable {config : GoroutinePoolConfig} {trace : List (Nat × GoroutineChoice)}
  {world : GoroutineWorld}

/-- Every task of a call is queued, counted, or with a goroutine. -/
theorem counts_unsettled (ran : exec step (start config) trace = some world) :
    Threads.Counts carried (fun frame => if frame.unsettled then 1 else 0) world := by
  have new : Threads.Counts carried (fun frame => if frame.unsettled then 1 else 0)
      (start config) := tallies_zero
  refine exec_invariant
    (fun world => Threads.Counts carried (fun frame => if frame.unsettled then 1 else 0) world)
    ?_ new ran
  intro world label next counts taken
  obtain ⟨pool, after, step, rfl⟩ := step_inv taken
  exact counts.advance step.unsettled_booked

/-- As long as a pool is open, every call is counted as a submission, or about to be. -/
theorem counts_early (ran : exec step (start config) trace = some world)
    (usable : world.shared.closed = false) :
    Threads.Counts uncounted (fun frame => if frame.early then 1 else 0) world := by
  have new : Threads.Counts uncounted (fun frame => if frame.early then 1 else 0)
      (start config) := tallies_zero
  refine exec_invariant
    (fun world => world.shared.closed = false →
      Threads.Counts uncounted (fun frame => if frame.early then 1 else 0) world)
    ?_ (fun _ => new) ran usable
  intro world label next counts taken usable
  obtain ⟨pool, after, step, rfl⟩ := step_inv taken
  -- A pool that is open now was open before, and the counts were right.
  have before := step.open_before usable
  exact (counts before).advance (step.uncounted_booked before)

/-- There are as many tasks as calls. -/
theorem nextTask_eq (ran : exec step (start config) trace = some world) :
    world.shared.nextTask = trace.countP fun label => label.2.submits := by
  refine exec_history (fun past (world : GoroutineWorld) =>
    world.shared.nextTask = past.countP fun label => label.2.submits) rfl ?_ ran
  intro past world label next _ equal taken
  obtain ⟨pool, after, step, rfl⟩ := step_inv taken
  rw [List.countP_append, ← equal]
  exact step.nextTask.trans (by simp [List.countP_cons])

/--
In every state of every run, the calls made so far are the tasks completed, rejected, queued, or
with a goroutine; and as long as the pool is open, the calls are those counted as submitted and
those that are about to be.
-/
theorem stats_account (ran : exec step (start config) trace = some world) :
    let calls := trace.countP fun label => label.2.submits
    let stats := world.shared.stats
    (∃ holders : Finset Nat,
      (∀ thread, thread ∈ holders ↔ (world.frame thread).unsettled = true) ∧
        calls = stats.completed + stats.rejected + stats.queueSize + holders.card) ∧
    (stats.isClosed = false → ∃ early : Finset Nat,
      (∀ thread, thread ∈ early ↔ (world.frame thread).early = true) ∧
        calls = stats.submitted + early.card) := by
  have tasks := nextTask_eq ran
  -- Both parts count goroutines, and the tasks are the calls.
  constructor
  · obtain ⟨holders, listed, total⟩ := (counts_unsettled ran).card
    refine ⟨holders, listed, ?_⟩
    rw [carried] at total
    simp only [stats]
    omega
  · intro usable
    obtain ⟨early, listed, total⟩ := (counts_early ran usable).card
    refine ⟨early, listed, ?_⟩
    rw [uncounted] at total
    simp only [stats]
    omega

/-- A task is run, and a second one is rejected as the queue has no room for it. -/
def oneRejected : List (Nat × GoroutineChoice) :=
  [(0, .submit .submit), (0, .run), (0, .run), (0, .send), (1, .submit .submit), (1, .run),
    (1, .run), (1, .default), (1, .run)]

/-- In the run above, both calls are accounted for. -/
theorem stats_account_oneRejected :
    ∃ world, exec step (start ⟨1, 0, 1, true⟩) oneRejected = some world ∧
      world.shared.stats.rejected = 1 ∧ world.shared.stats.queueSize = 1 ∧
      ∃ holders : Finset Nat,
        2 = world.shared.stats.completed + world.shared.stats.rejected +
          world.shared.stats.queueSize + holders.card := by
  obtain ⟨world, ran, rejected, queued⟩ :
      ∃ world, exec step (start ⟨1, 0, 1, true⟩) oneRejected = some world ∧
        world.shared.stats.rejected = 1 ∧ world.shared.stats.queueSize = 1 := ⟨_, rfl, rfl, rfl⟩
  obtain ⟨holders, _, total⟩ := (stats_account ran).1
  exact ⟨world, ran, rejected, queued, holders, total⟩

end GoroutineWorld

end Balance
