import Balance.Machine.Covers
import Balance.Machine.Errands
import Balance.Pool.Stranding
import Balance.Pool.Submission

/-! Which tasks have been run when a pool has been closed. -/

namespace Balance

open Machine

namespace GoroutineFrame

/-- The task that a goroutine has in its hands, to put it into the channel or to run it. -/
def carries : GoroutineFrame → Option Nat
  | .submit _ task place => if place.undecided then some task else none
  | .worker (.start task) | .worker (.run task) => some task
  | _ => none

/-- The task that a goroutine has taken from the channel and not run yet. -/
def executing : GoroutineFrame → Option Nat
  | .worker (.start task) | .worker (.run task) => some task
  | _ => none

/-- The task that a goroutine is submitting. -/
def submits : GoroutineFrame → Option Nat
  | .submit _ task _ => some task
  | _ => none

/-- What a goroutine has in the wait group: a worker, or one that it is about to create. -/
def awaited : GoroutineFrame → Int
  | .worker _ | .submit _ _ .spawn => 1
  | _ => 0

/-- The submission that is in `ensureWorker` is the one for that task. -/
theorem submits_of_ensuring {frame : GoroutineFrame} {task : Nat}
    (ensures : frame.ensuring = some task) : frame.submits = some task := by
  -- Both read the task off the same frame.
  cases frame with
  | submit call own place =>
    simp only [ensuring] at ensures
    split at ensures
    · exact ensures
    · cases ensures
  | _ => cases ensures

/-- Whoever is running a task is waited for. -/
theorem awaited_of_executing {frame : GoroutineFrame} {task : Nat}
    (executes : frame.executing = some task) : frame.awaited = 1 := by
  cases frame with
  | worker => rfl
  | _ => cases executes

/-- A worker that has not turned to leave is waited for. -/
theorem awaited_of_active {frame : GoroutineFrame} (active : frame.active = true) :
    frame.awaited = 1 := by
  cases frame with
  | worker => rfl
  | _ => cases active

/-- Nobody takes a worker off the wait group that was not added. -/
theorem awaited_nonneg (frame : GoroutineFrame) : 0 ≤ frame.awaited := by
  unfold awaited
  split <;> decide

end GoroutineFrame

namespace GoroutinePool

/-- The tasks of a pool, as errands that wait in its channel and are run by its workers. -/
def tasks (pool : GoroutinePool) : Errands := ⟨pool.taskQueue, pool.executed, pool.nextTask⟩

/-- The submissions of a pool, as errands that end when they are accepted. -/
def submissions (pool : GoroutinePool) : Errands := ⟨pool.accepted, [], pool.nextTask⟩

/-- What the wait group counts beyond the workers that have not begun. -/
def waits (pool : GoroutinePool) : Int := pool.wg - pool.starting

variable {pool next : GoroutinePool} {frame after : GoroutineFrame} {choice : GoroutineChoice}

/-- Every step treats the tasks as errands. -/
theorem GoroutineStep.move (step : GoroutineStep pool frame choice next after) :
    Errands.Move pool.tasks frame.carries next.tasks after.carries := by
  -- A task changes hands at the send, at the receive and when it is run.
  cases step with
  | calledSubmit => exact .issue _
  | submit step =>
    cases step with
    | refused | sentClosed | overflowed => exact .drop _ _
    | sent | sentLater => exact .give _ _
    | @stopped waited => cases waited <;> exact .drop _ _
    | @gaveUp waited => cases waited <;> exact .drop _ _
    | _ => exact .keep _ _
  | worker step =>
    cases step with
    | received front => exact .take front
    | executed => exact .finish _ _
    | _ => exact .keep _ _
  | _ => exact .keep _ _

/-- Every step treats the submissions as errands. -/
theorem GoroutineStep.submission (step : GoroutineStep pool frame choice next after) :
    Errands.Move pool.submissions frame.submits next.submissions after.submits := by
  -- A submission ends when it returns, one way or the other.
  cases step with
  | calledSubmit => exact .issue _
  | submit step =>
    cases step with
    | sufficed | overtaken | spawned => exact .give _ _
    | sentClosed | rejected => exact .drop _ _
    | _ => exact .keep _ _
  | worker step => cases step <;> exact .keep _ _
  | _ => exact .keep _ _

/-- The wait group follows the workers. -/
theorem GoroutineStep.booked (step : GoroutineStep pool frame choice next after) :
    after.awaited - frame.awaited = next.waits - pool.waits := by
  -- The wait group is raised before the worker is created, and lowered when it is gone.
  cases step with
  | @began error starting new =>
    simp only [GoroutineFrame.awaited, waits, new]
    omega
  | submit step =>
    cases step with
    | added =>
      simp only [GoroutineFrame.awaited, waits]
      omega
    | spawned =>
      simp only [GoroutineFrame.awaited, waits, accept]
      omega
    | @stopped waited => cases waited <;> simp [GoroutineFrame.awaited]
    | @gaveUp waited => cases waited <;> simp [GoroutineFrame.awaited]
    | _ => simp [GoroutineFrame.awaited, waits, accept, enqueue]
  | worker step =>
    cases step with
    | gone =>
      simp only [GoroutineFrame.awaited, waits]
      omega
    | _ => simp [GoroutineFrame.awaited, waits]
  | _ => simp [GoroutineFrame.awaited, waits]

/-- A task that waits goes on waiting, or is taken. -/
theorem GoroutineStep.dequeued (step : GoroutineStep pool frame choice next after) {task : Nat}
    (within : task ∈ pool.taskQueue) : task ∈ next.taskQueue ∨ after.executing = some task := by
  -- Only a receive takes a task off the channel.
  cases step with
  | submit step =>
    cases step with
    | sent => exact .inl (List.mem_append_left _ within)
    | sentLater => exact .inl (List.mem_append_left _ within)
    | _ => exact .inl within
  | worker step =>
    cases step with
    | received front =>
      rw [front] at within
      rcases List.mem_cons.mp within with same | later
      · rw [same]
        exact .inr rfl
      · exact .inl later
    | _ => exact .inl within
  | _ => exact .inl within

/-- A task that was taken is run. -/
theorem GoroutineStep.executing (step : GoroutineStep pool frame choice next after) {task : Nat}
    (executes : frame.executing = some task) :
    after.executing = some task ∨ task ∈ next.executed := by
  -- Between the receive and the run there is one counter to raise.
  cases step with
  | worker step =>
    cases step with
    | started => exact .inl executes
    | executed =>
      cases executes
      exact .inr (List.mem_append_right _ List.mem_cons_self)
    | _ => cases executes
  | _ => cases executes

/-- What was run stays run. -/
theorem GoroutineStep.executed (step : GoroutineStep pool frame choice next after) {task : Nat}
    (within : task ∈ pool.executed) : task ∈ next.executed := by
  -- The record of runs only grows.
  cases step with
  | submit step => cases step <;> exact within
  | worker step =>
    cases step with
    | executed => exact List.mem_append_left _ within
    | _ => exact within
  | _ => exact within

/-- Tasks are accepted by the end of `ensureWorker`, and stay accepted. -/
theorem GoroutineStep.accepted (step : GoroutineStep pool frame choice next after) (task : Nat) :
    (task ∈ pool.accepted → task ∈ next.accepted) ∧
      (task ∈ next.accepted → task ∈ pool.accepted ∨ frame.ensuring = some task) := by
  -- The three ways out of `ensureWorker` accept the task, and nothing else does.
  have accepts {own : Nat} (ensures : frame.ensuring = some own) :
      (task ∈ pool.accepted → task ∈ pool.accepted ++ [own]) ∧
        (task ∈ pool.accepted ++ [own] → task ∈ pool.accepted ∨ frame.ensuring = some task) := by
    refine ⟨List.mem_append_left _, ?_⟩
    intro within
    rcases List.mem_append.mp within with before | last
    · exact .inl before
    · rw [List.mem_singleton.mp last]
      exact .inr ensures
  cases step with
  | submit step =>
    cases step with
    | sufficed | overtaken | spawned => exact accepts rfl
    | _ => exact ⟨id, .inl⟩
  | worker step => cases step <;> exact ⟨id, .inl⟩
  | _ => exact ⟨id, .inl⟩

/-- A submission comes to `ensureWorker` with its task in the channel. -/
theorem GoroutineStep.ensured (step : GoroutineStep pool frame choice next after) {task : Nat}
    (ensures : after.ensuring = some task) :
    frame.ensuring = some task ∨ task ∈ next.taskQueue := by
  -- The send is the way in, and the other places follow one another.
  cases step with
  | submit step =>
    cases step with
    | sent | sentLater =>
      cases ensures
      exact .inr (List.mem_append_right _ List.mem_cons_self)
    | loaded | swapped | added => exact .inl ensures
    | _ => cases ensures
  | worker step => cases step <;> cases ensures
  | _ => cases ensures

/-- `Close` returns when the wait group is at zero. -/
theorem GoroutineStep.once (step : GoroutineStep pool frame choice next after)
    (done : next.once = .done) : pool.once = .done ∨ pool.wg = 0 := by
  -- The once is over when the wait is.
  cases step with
  | calledClose => cases done
  | submit step => cases step <;> exact .inl done
  | worker step => cases step <;> exact .inl done
  | waited gone => exact .inr gone
  | _ => exact .inl done

/-- `Close`, called for the first time, comes to wait for the workers. -/
theorem close_waits {error : Option SubmitError} (fresh : pool.once = .fresh) :
    Gets (pool, .ready error)
      ({ pool with
          once := .running
          closed := true
          stopChanClosed := true
          taskQueueClosed := true }, .close .wait) := by
  -- The first call gets into the once, and nothing stops it before the wait.
  have calls : pool.advance (.ready error) .close =
      some ({ pool with once := .running }, .close .store) := by
    simp [advance, fresh]
  exact .head .close trivial calls (.head .run trivial rfl (.head .run trivial rfl
    (.head .run trivial rfl (.refl _))))

/-- `Close` returns once the wait group is at zero. -/
theorem close_returns (gone : pool.wg = 0) :
    Gets (pool, .close .wait) ({ pool with once := .done }, .ready none) :=
  .head .run trivial (if_pos gone) (.refl _)

/-- A worker that begins in a stopped pool may leave at once. -/
theorem worker_stops {error : Option SubmitError} {starting : Nat}
    (stop : pool.stopChanClosed = true) (new : pool.starting = starting + 1) :
    Gets (pool, .ready error)
      ({ pool with
          starting := starting
          workers := pool.workers - 1
          wg := pool.wg - 1 }, .ready none) := by
  -- The select of the new worker finds the stop channel closed.
  have begins : pool.advance (.ready error) .begin =
      some ({ pool with starting := starting }, .worker .select) := by
    simp [advance, new]
  exact .head .begin trivial begins (.head .stopped trivial (if_pos stop)
    (.head .run trivial rfl (.head .run trivial rfl (.refl _))))

end GoroutinePool

namespace GoroutineWorld

variable {world next : GoroutineWorld} {label : Nat × GoroutineChoice}

/-- A task is in the channel, with a worker that runs it, or has been run. -/
def Placed (world : GoroutineWorld) (task : Nat) : Prop :=
  task ∈ world.shared.taskQueue ∨ (∃ thread, (world.frame thread).executing = some task) ∨
    task ∈ world.shared.executed

/-- Every task is in one place, and the wait group counts the workers. -/
structure Accounted (world : GoroutineWorld) : Prop where
  tasks : Errands.Sound world.shared.tasks fun thread => (world.frame thread).carries
  submissions : Errands.Sound world.shared.submissions fun thread => (world.frame thread).submits
  ensuring : ∀ thread task, (world.frame thread).ensuring = some task → world.Placed task
  accepted : ∀ task ∈ world.shared.accepted, world.Placed task
  waits : Threads.Covers GoroutinePool.waits GoroutineFrame.awaited world

/-- Nothing is to be accounted for in a new pool. -/
theorem start_accounted (config : GoroutinePoolConfig) : (start config).Accounted where
  tasks := Errands.sound_empty
  submissions := Errands.sound_empty
  ensuring := nofun
  accepted := fun _ within => absurd within List.not_mem_nil
  waits := by
    intro threads
    simp [start, newGoroutinePool, GoroutinePool.waits, GoroutineFrame.awaited]

/-- A task that has its place keeps one. -/
theorem Placed.step {task : Nat} (placed : world.Placed task)
    (taken : world.step label = some next) : next.Placed task := by
  -- A task goes from the channel to a worker, and from there among those that were run.
  obtain ⟨pool, after, step, rfl⟩ := step_inv taken
  rcases placed with within | ⟨thread, executes⟩ | run
  · rcases step.dequeued within with still | executes
    · exact .inl still
    · exact .inr (.inl ⟨label.1, by simpa using executes⟩)
  · by_cases same : thread = label.1
    · subst same
      rcases step.executing executes with still | run
      · exact .inr (.inl ⟨label.1, by simpa using still⟩)
      · exact .inr (.inr run)
    · exact .inr (.inl ⟨thread, by simpa [Function.update_of_ne same] using executes⟩)
  · exact .inr (.inr (step.executed run))

/-- Errands stay sound when every step is a move of one goroutine. -/
theorem step_sound {view : GoroutinePool → Errands} {hand : GoroutineFrame → Option Nat}
    (moves : ∀ {pool frame choice reached after},
      GoroutinePool.GoroutineStep pool frame choice reached after →
      Errands.Move (view pool) (hand frame) (view reached) (hand after))
    (sound : Errands.Sound (view world.shared) fun thread => hand (world.frame thread))
    (taken : world.step label = some next) :
    Errands.Sound (view next.shared) fun thread => hand (next.frame thread) := by
  obtain ⟨pool, after, step, rfl⟩ := step_inv taken
  -- The hands follow the frame of the goroutine that took the step.
  have follow : (fun thread => hand (Function.update world.frame label.1 after thread)) =
      Function.update (fun thread => hand (world.frame thread)) label.1 (hand after) :=
    Function.comp_update hand world.frame label.1 after
  show Errands.Sound (view pool) fun thread =>
    hand (Function.update world.frame label.1 after thread)
  rw [follow]
  exact sound.move rfl (moves step)

/-- Every step keeps the accounts. -/
theorem step_accounted (accounted : world.Accounted) (taken : world.step label = some next) :
    next.Accounted := by
  -- Each account follows the goroutine that takes the step.
  have tasks := step_sound (fun step => step.move) accounted.tasks taken
  have submissions := step_sound (fun step => step.submission) accounted.submissions taken
  have placed {task : Nat} (before : world.Placed task) : next.Placed task := before.step taken
  obtain ⟨pool, after, step, rfl⟩ := step_inv taken
  refine ⟨tasks, submissions, ?_, ?_, ?_⟩
  · intro thread task
    apply Threads.forall_frame_update
      fun frame : GoroutineFrame => frame.ensuring = some task → Placed _ task
    · intro reader ensures
      exact placed (accounted.ensuring reader task ensures)
    · intro ensures
      rcases step.ensured ensures with before | within
      · exact placed (accounted.ensuring label.1 task before)
      · exact .inl within
  · intro task within
    rcases (step.accepted task).2 within with before | ensures
    · exact placed (accounted.accepted task before)
    · exact placed (accounted.ensuring label.1 task ensures)
  · exact accounted.waits.advance GoroutineFrame.awaited_nonneg step.booked.le

/-- When the wait group is at zero, every task that was accepted has been run. -/
theorem Accounted.executed (accounted : world.Accounted) (attended : world.Attended)
    (gone : world.shared.wg = 0) {task : Nat} (within : task ∈ world.shared.accepted) :
    task ∈ world.shared.executed := by
  have counts : 0 ≤ world.shared.waits := accounted.waits.nonneg
  -- There are no workers, running or not.
  have nobody (thread : Nat) (awaited : (world.frame thread).awaited = 1) : False := by
    have counted : 1 ≤ world.shared.waits := accounted.waits.pos awaited.ge
    simp only [GoroutinePool.waits, gone] at counted
    omega
  rcases accounted.accepted task within with waits | ⟨thread, executes⟩ | run
  · exfalso
    rcases attended task waits with ⟨thread, ensures⟩ | created | ⟨thread, active⟩
    · -- The submission of a task that was accepted is over.
      exact accounted.submissions.custody.apart thread task
        (GoroutineFrame.submits_of_ensuring ensures) within
    · simp only [GoroutinePool.waits, gone] at counts
      omega
    · exact nobody thread (GoroutineFrame.awaited_of_active active)
  · exact absurd (GoroutineFrame.awaited_of_executing executes) (nobody thread)
  · exact run

/-- Every task accepted before `Close` was called was run exactly once when it has returned. -/
def AllRun (calling final : GoroutineWorld) : Prop :=
  calling.shared.once = .fresh → final.shared.once = .done →
    ∀ task ∈ calling.shared.accepted, final.shared.executed.count task = 1

/-- What was accepted is run by the time `Close` returns, if a worker is kept for it. -/
theorem Accounted.allRun {calling final : GoroutineWorld} {trace : List (Nat × GoroutineChoice)}
    (accounted : calling.Accounted) (attended : calling.Attended)
    (keeps : Along step KeepsWorker calling trace) (ran : exec step calling trace = some final) :
    AllRun calling final := by
  intro fresh done task within
  -- The task stays accepted, and at the moment in which `Close` returns it has been run.
  have reached := exec_invariant_along
    (fun world : GoroutineWorld => world.Accounted ∧ world.Attended ∧
      task ∈ world.shared.accepted ∧
      (world.shared.once = .done → task ∈ world.shared.executed)) ?_
    ⟨accounted, attended, within, ?_⟩ keeps ran
  · rcases reached with ⟨accounted, _, _, run⟩
    exact List.count_eq_one_of_mem accounted.tasks.once (run done)
  · intro world label next holds keeps taken
    rcases holds with ⟨accounted, attended, within, run⟩
    refine ⟨step_accounted accounted taken, step_attended attended keeps taken, ?_⟩
    obtain ⟨pool, after, step, rfl⟩ := step_inv taken
    refine ⟨(step.accepted task).1 within, ?_⟩
    intro done
    rcases step.once done with before | gone
    · exact step.executed (run before)
    · exact step.executed (accounted.executed attended gone within)
  · intro done
    rw [fresh] at done
    cases done

/-- If a task was accepted and none was run, not all were run. -/
theorem not_allRun {calling final : GoroutineWorld} (fresh : calling.shared.once = .fresh)
    (done : final.shared.once = .done) (accepted : calling.shared.accepted ≠ [])
    (idle : final.shared.executed = []) : ¬ AllRun calling final := by
  -- The accepted task was to be among those that were run.
  intro all
  obtain ⟨task, within⟩ := List.exists_mem_of_ne_nil _ accepted
  have once := all fresh done task within
  rw [idle] at once
  cases once

/-- A pool that may not have workers closes without having run its first task. -/
theorem closes_without_workers {config : GoroutinePoolConfig} (room : 0 < config.queueSize)
    (few : (newGoroutinePool config).maxWorkers ≤ 0) :
    ∃ calling final, Leads step (fun _ _ => True) (start config) calling ∧
      Leads step (fun _ _ => True) calling final ∧ ¬ AllRun calling final := by
  -- No worker is created, so that there is nothing to wait for.
  have submits := (new_submit_sends room).trans (GoroutinePool.ensureWorker_declines few)
  refine ⟨_, _, start_leads_first submits, Threads.leads_duo_first
    ((GoroutinePool.close_waits rfl).trans (GoroutinePool.close_returns rfl)), ?_⟩
  exact not_allRun rfl rfl (List.cons_ne_nil _ _) rfl

/-- The worker created for the first task may stop without having taken it. -/
theorem closes_with_worker {config : GoroutinePoolConfig} (room : 0 < config.queueSize)
    (allowed : 0 < (newGoroutinePool config).maxWorkers) :
    ∃ calling final, Leads step (fun _ _ => True) (start config) calling ∧
      Leads step (fun _ _ => True) calling final ∧ ¬ AllRun calling final := by
  have submits := (new_submit_sends room).trans (GoroutinePool.ensureWorker_starts allowed)
  -- `Close` waits for the worker, which sees the stop channel first.
  refine ⟨_, _, start_leads_first submits,
    (Threads.leads_duo_first (GoroutinePool.close_waits rfl)).trans
      ((Threads.leads_duo_second (GoroutinePool.worker_stops rfl rfl)).trans
        (Threads.leads_duo_first (GoroutinePool.close_returns rfl))), ?_⟩
  exact not_allRun rfl rfl (List.cons_ne_nil _ _) rfl

/--
Every task accepted before `Close` was called is run exactly once before it returns, in a run whose
last worker never leaves a waiting task behind and in which `ensureWorker` starts no worker only
where there is one.

Every pool that has room for a task at all also has runs in which an accepted task is not run.
-/
theorem accepted_run_of_workers_kept (config : GoroutinePoolConfig) :
    (∀ before calling later final, exec step (start config) before = some calling →
      exec step calling later = some final →
      Along step KeepsWorker (start config) (before ++ later) → AllRun calling final) ∧
    ((∀ before calling later final, exec step (start config) before = some calling →
        exec step calling later = some final → AllRun calling final) ↔
      config.queueSize ≤ 0) := by
  -- The run is split at the state in which `Close` is called.
  constructor
  · intro before calling later final ran reached keeps
    obtain ⟨first, second⟩ := (along_append ran).mp keeps
    have accounted : calling.Accounted :=
      exec_invariant Accounted (fun _ _ _ accounted taken => step_accounted accounted taken)
        (start_accounted config) ran
    exact accounted.allRun (run_attended first ran) second reached
  · constructor
    · intro safe
      by_contra room
      obtain ⟨calling, final, ⟨before, _, ran⟩, ⟨later, _, reached⟩, lost⟩ :
          ∃ calling final, Leads step (fun _ _ => True) (start config) calling ∧
            Leads step (fun _ _ => True) calling final ∧ ¬ AllRun calling final := by
        by_cases few : (newGoroutinePool config).maxWorkers ≤ 0
        · exact closes_without_workers (Int.not_le.mp room) few
        · exact closes_with_worker (Int.not_le.mp room) (Int.not_le.mp few)
      exact lost (safe before calling later final ran reached)
    · intro roomless before calling later final ran _ _ _ task within
      rw [(run_unused roomless ran).accepted] at within
      cases within

/-- The pool is closed before the worker for its only task has begun, which then drains it. -/
def closeAndDrain : List (Nat × GoroutineChoice) :=
  [.close, .run, .run, .run].map (0, ·) ++
    [.begin, .receive, .run, .run, .run, .run, .receive, .run, .run].map (1, ·) ++ [(0, .run)]

/-- A worker that drains the channel runs the task before `Close` returns. -/
theorem drained_task_is_run :
    ∃ calling final, exec step (start oneWorker) submitFirst = some calling ∧
      exec step calling closeAndDrain = some final ∧ calling.shared.accepted = [0] ∧
      final.shared.once = .done ∧ final.shared.executed.count 0 = 1 := by
  -- The worker leaves by the end of the channel, which is not a step that needs a condition.
  have keeps : Along step KeepsWorker (start oneWorker) (submitFirst ++ closeAndDrain) :=
    keepsWorker_of_growing (by decide)
  refine ⟨_, _, rfl, rfl, rfl, rfl, ?_⟩
  exact (accepted_run_of_workers_kept oneWorker).1 submitFirst _ closeAndDrain _ rfl rfl keeps
    rfl rfl 0 List.mem_cons_self

/-- The worker takes the stop channel instead of the task that waits. -/
def closeAndStop : List (Nat × GoroutineChoice) :=
  [.close, .run, .run, .run].map (0, ·) ++ [.begin, .stopped, .run, .run].map (1, ·) ++
    [(0, .run)]

/-- A task that was accepted is never run, though `Close` has waited for its worker. -/
theorem stopped_worker_drops_task :
    ∃ calling final, exec step (start oneWorker) submitFirst = some calling ∧
      exec step calling closeAndStop = some final ∧ calling.shared.once = .fresh ∧
      calling.shared.accepted = [0] ∧ final.shared.once = .done ∧
      final.shared.taskQueue = [0] ∧ final.shared.executed = [] :=
  -- The run evaluates.
  ⟨_, _, rfl, rfl, rfl, rfl, rfl, rfl, rfl⟩

end GoroutineWorld

end Balance
