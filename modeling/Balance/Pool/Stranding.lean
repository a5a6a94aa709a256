import Balance.Pool.Goroutine

/-! Tasks that wait in the channel of a pool without a worker to take them. -/

namespace Balance

open Machine

/-- A worker that has not turned to leave. -/
def WorkerFrame.active : WorkerFrame → Bool
  | .leave | .done => false
  | _ => true

/-- A submission that has put its task into the channel and is in `ensureWorker`. -/
def SubmitFrame.ensuring : SubmitFrame → Bool
  | .load | .swap _ | .add | .spawn => true
  | _ => false

namespace GoroutineFrame

/-- A goroutine that is a worker and has not turned to leave. -/
def active : GoroutineFrame → Bool
  | .worker place => place.active
  | _ => false

/-- The task for which a goroutine is in `ensureWorker`. -/
def ensuring : GoroutineFrame → Option Nat
  | .submit _ task place => if place.ensuring then some task else none
  | _ => none

/-- A goroutine in the middle of a submission. -/
def submitting : GoroutineFrame → Bool
  | .submit _ _ _ => true
  | _ => false

/-- Whoever is in `ensureWorker` is in the middle of a submission. -/
theorem submitting_of_ensuring {frame : GoroutineFrame} {task : Nat}
    (ensures : frame.ensuring = some task) : frame.submitting = true := by
  cases frame with
  | submit => rfl
  | _ => cases ensures

end GoroutineFrame

namespace GoroutinePool

/-- The step by which a worker turns to leave, though it has not seen the channel at its end. -/
def leaves (pool : GoroutinePool) : GoroutineFrame → GoroutineChoice → Bool
  | .worker .select, .stopped => true
  | .worker (.decide currentWorkers running), .run =>
    currentWorkers > 1 ∨ pool.taskQueue.length = 0 ∧ running = 0
  | _, _ => false

/-- The step by which `ensureWorker` returns without having started a worker. -/
def declines (pool : GoroutinePool) : GoroutineFrame → GoroutineChoice → Bool
  | .submit _ _ .load, .run => pool.maxWorkers ≤ pool.workers
  | .submit _ _ (.swap currentWorkers), .run => pool.workers ≠ currentWorkers
  | _, _ => false

section Steps

variable {pool next : GoroutinePool} {frame after : GoroutineFrame} {choice : GoroutineChoice}

/-- A task that is new in the channel was put there by a goroutine that now is in `ensureWorker`. -/
theorem GoroutineStep.queued (step : GoroutineStep pool frame choice next after) {task : Nat}
    (within : task ∈ next.taskQueue) : task ∈ pool.taskQueue ∨ after.ensuring = some task := by
  -- Both sends put their own task at the end of the channel.
  have sent {call : SubmitCall} {sender : Nat} (within : task ∈ pool.taskQueue ++ [sender]) :
      task ∈ pool.taskQueue ∨
        (GoroutineFrame.submit call sender .load).ensuring = some task := by
    rcases List.mem_append.mp within with before | last
    · exact .inl before
    · rw [List.mem_singleton.mp last]
      exact .inr rfl
  cases step with
  | submit step =>
    cases step with
    | sent => exact sent within
    | sentLater => exact sent within
    | _ => exact .inl within
  | worker step =>
    cases step with
    | received front =>
      rw [front]
      exact .inl (List.mem_cons_of_mem _ within)
    | _ => exact .inl within
  | _ => exact .inl within

/-- A worker stays until it turns to leave, or finds the channel empty. -/
theorem GoroutineStep.active (step : GoroutineStep pool frame choice next after)
    (active : frame.active = true) :
    after.active = true ∨ pool.leaves frame choice = true ∨ pool.taskQueue = [] := by
  -- A worker turns to leave at its select or when its timer has run out.
  cases step with
  | worker step =>
    cases step with
    | drained empty => exact .inr (.inr empty)
    | stopped => exact .inr (.inl rfl)
    | retired retires => exact .inr (.inl (decide_eq_true retires))
    | left => cases active
    | gone => cases active
    | _ => exact .inl rfl
  | _ => cases active

/-- A worker that was created is still to begin, or has begun. -/
theorem GoroutineStep.starting (step : GoroutineStep pool frame choice next after)
    (created : 0 < pool.starting) : 0 < next.starting ∨ after.active = true := by
  -- What has been created is used up by the worker that begins.
  cases step with
  | began => exact .inr rfl
  | submit step =>
    cases step with
    | spawned => exact .inl (Nat.succ_pos _)
    | _ => exact .inl created
  | worker step => cases step <;> exact .inl created
  | _ => exact .inl created

/-- A goroutine leaves `ensureWorker` with a worker created, or declines to create one. -/
theorem GoroutineStep.ensuring (step : GoroutineStep pool frame choice next after) {task : Nat}
    (ensures : frame.ensuring = some task) :
    after.ensuring = some task ∨ 0 < next.starting ∨ pool.declines frame choice = true := by
  -- The two ways out that create no worker are the ones that decline.
  cases step with
  | submit step =>
    cases step with
    | sufficed enough => exact .inr (.inr (decide_eq_true enough))
    | loaded => exact .inl ensures
    | swapped => exact .inl ensures
    | overtaken differs => exact .inr (.inr (decide_eq_true differs))
    | added => exact .inl ensures
    | spawned => exact .inr (.inl (Nat.succ_pos _))
    | @stopped waited => cases waited <;> cases ensures
    | @gaveUp waited => cases waited <;> cases ensures
    | _ => cases ensures
  | _ => cases ensures

/-- Without room in its channel, a pool that has not been used stays so. -/
theorem GoroutineStep.unused (step : GoroutineStep pool frame choice next after)
    (size : pool.queueSize = 0) (empty : pool.taskQueue = []) (unaccepted : pool.accepted = [])
    (idle : frame.ensuring = none) :
    next.queueSize = 0 ∧ next.taskQueue = [] ∧ next.accepted = [] ∧ after.ensuring = none := by
  -- A send needs room, and there never is any.
  have full : pool.hasRoom = false := by simp [hasRoom, size]
  cases step with
  | submit step =>
    cases step with
    | sent usable room =>
      rw [full] at room
      cases room
    | sentLater usable room =>
      rw [full] at room
      cases room
    | sufficed | loaded | swapped | overtaken | added | spawned => cases idle
    | _ => exact ⟨size, empty, unaccepted, rfl⟩
  | worker step =>
    cases step with
    | received front =>
      rw [empty] at front
      cases front
    | _ => exact ⟨size, empty, unaccepted, rfl⟩
  | _ => exact ⟨size, empty, unaccepted, rfl⟩

end Steps

section Alone

variable {pool : GoroutinePool} {error : Option SubmitError} {call : SubmitCall} {task : Nat}

/-- The pool with one more task in its channel. -/
def sent (pool : GoroutinePool) : GoroutinePool :=
  { pool with
    nextTask := pool.nextTask + 1
    submitted := pool.submitted + 1
    taskQueue := pool.taskQueue ++ [pool.nextTask] }

/-- The pool with one more worker, and the task for which it was created accepted. -/
def started (pool : GoroutinePool) (task : Nat) : GoroutinePool :=
  { pool with
    workers := pool.workers + 1
    wg := pool.wg + 1
    starting := pool.starting + 1
    accepted := pool.accepted ++ [task] }

/-- The pool in which a worker has taken one task and run it. -/
def ran (pool : GoroutinePool) (task : Nat) (rest : List Nat) : GoroutinePool :=
  { pool with
    taskQueue := rest
    running := pool.running + 1 - 1
    executed := pool.executed ++ [task]
    completed := pool.completed + 1 }

/-- A submission to an open pool whose channel has room puts its task there. -/
theorem submit_sends (usable : pool.closed = false) (unshut : pool.taskQueueClosed = false)
    (room : pool.hasRoom = true) :
    Gets (pool, .ready error) (pool.sent, .submit .submit pool.nextTask .load) := by
  -- The flag is found unset, and the channel open and with room.
  have checks : advance { pool with nextTask := pool.nextTask + 1 }
      (.submit .submit pool.nextTask .check) .run =
      some ({ pool with nextTask := pool.nextTask + 1 },
        .submit .submit pool.nextTask .count) := by
    simp [advance, advanceSubmit, usable]
  have sends : advance
      { pool with nextTask := pool.nextTask + 1, submitted := pool.submitted + 1 }
      (.submit .submit pool.nextTask .select) .send =
      some (pool.sent, .submit .submit pool.nextTask .load) := by
    simp only [hasRoom, decide_eq_true_eq] at room
    simp [advance, advanceSubmit, advanceSelect, unshut, hasRoom, room, enqueue, sent]
  exact .head (.submit .submit) trivial rfl (.head .run trivial checks
    (.head .run trivial rfl (.head .send trivial sends (.refl _))))

/-- In a pool with as many workers as it may have, no worker is created. -/
theorem ensureWorker_declines (enough : pool.maxWorkers ≤ pool.workers) :
    Gets (pool, .submit call task .load) (pool.accept task) :=
  .head .run trivial (if_neg (Int.not_lt.mpr enough)) (.refl _)

/-- In a pool that may have more workers, and left alone, one is created. -/
theorem ensureWorker_starts (fewer : pool.workers < pool.maxWorkers) :
    Gets (pool, .submit call task .load) (pool.started task, .ready none) :=
  .head .run trivial (if_pos fewer) (.head .run trivial (if_pos rfl)
    (.head .run trivial rfl (.head .run trivial rfl (.refl _))))

/-- Where the number of workers has changed meanwhile, no worker is created. -/
theorem ensureWorker_misses {currentWorkers : Int} (differs : pool.workers ≠ currentWorkers) :
    Gets (pool, .submit call task (.swap currentWorkers)) (pool.accept task) :=
  .head .run trivial (if_neg differs) (.refl _)

/-- A worker that takes a task runs it and comes back to its select. -/
theorem worker_runs {rest : List Nat} (front : pool.taskQueue = task :: rest) :
    Gets (pool, .worker .select) (pool.ran task rest, .worker .select) := by
  -- The counters are raised and lowered around the task.
  have receives : pool.advance (.worker .select) .receive =
      some ({ pool with taskQueue := rest }, .worker (.start task)) := by
    simp [advance, advanceWorker, front]
  exact .head .receive trivial receives (.head .run trivial rfl (.head .run trivial rfl
    (.head .run trivial rfl (.head .run trivial rfl (.refl _)))))

/-- A worker that has nothing to do turns to leave once its timer runs out. -/
theorem worker_retires (empty : pool.taskQueue = []) (quiet : pool.running = 0) :
    Gets (pool, .worker .select) (pool, .worker .leave) := by
  -- The timer finds nothing in the channel and nobody at work.
  have decides : pool.advance (.worker (.decide pool.workers pool.running)) .run =
      some (pool, .worker .leave) := by
    simp [advance, advanceWorker, empty, quiet]
  exact .head .timeout trivial rfl (.head .run trivial rfl (.head .run trivial rfl
    (.head .run trivial decides (.refl _))))

end Alone

end GoroutinePool

namespace GoroutineWorld

variable {world next : GoroutineWorld} {label : Nat × GoroutineChoice}

/-- A worker was created and has not begun, or is there and has not turned to leave. -/
def HasWorker (world : GoroutineWorld) : Prop :=
  0 < world.shared.starting ∨ ∃ thread, (world.frame thread).active = true

/-- The same, without counting one goroutine. -/
def HasOther (world : GoroutineWorld) (thread : Nat) : Prop :=
  0 < world.shared.starting ∨ ∃ other, other ≠ thread ∧ (world.frame other).active = true

/-- In an open pool that nobody is submitting to, a task that waits has a worker to take it. -/
def NoneStranded (world : GoroutineWorld) : Prop :=
  world.shared.closed = false → (∀ thread, (world.frame thread).submitting = false) →
    world.shared.taskQueue ≠ [] → world.HasWorker

/-- The last worker leaves, or `ensureWorker` starts none, only when no task waits. -/
def KeepsWorker (world : GoroutineWorld) (label : Nat × GoroutineChoice) : Prop :=
  (world.shared.leaves (world.frame label.1) label.2 ||
    world.shared.declines (world.frame label.1) label.2) = true →
    world.shared.taskQueue = [] ∨ world.HasOther label.1

/-- Every task that waits has a worker, or a goroutine that is about to ensure one. -/
def Attended (world : GoroutineWorld) : Prop :=
  ∀ task ∈ world.shared.taskQueue,
    (∃ thread, (world.frame thread).ensuring = some task) ∨ world.HasWorker

/-- The workers other than the mover are still there after its step. -/
theorem HasOther.step (has : world.HasOther label.1) (taken : world.step label = some next) :
    next.HasWorker := by
  -- A worker that is not the mover stands where it stood.
  obtain ⟨pool, after, step, rfl⟩ := step_inv taken
  rcases has with created | ⟨other, differs, active⟩
  · rcases step.starting created with still | begun
    · exact .inl still
    · exact .inr ⟨label.1, by simpa using begun⟩
  · exact .inr ⟨other, by simpa [Function.update_of_ne differs] using active⟩

/-- While a task waits, the workers do not all leave. -/
theorem HasWorker.step (has : world.HasWorker) (keeps : world.KeepsWorker label)
    (waits : world.shared.taskQueue ≠ []) (taken : world.step label = some next) :
    next.HasWorker := by
  -- If the worker is the mover, it may be the last one.
  rcases has with created | ⟨thread, active⟩
  · exact HasOther.step (.inl created) taken
  · by_cases same : thread = label.1
    · subst same
      obtain ⟨pool, after, step, rfl⟩ := step_inv taken
      rcases step.active active with still | leaves | empty
      · exact .inr ⟨label.1, by simpa using still⟩
      · rcases keeps (by rw [leaves, Bool.true_or]) with empty | other
        · exact absurd empty waits
        · exact other.step taken
      · exact absurd empty waits
    · exact HasOther.step (.inr ⟨thread, same, active⟩) taken

/-- Every step that keeps a worker leaves every waiting task attended. -/
theorem step_attended (attended : world.Attended) (keeps : world.KeepsWorker label)
    (taken : world.step label = some next) : next.Attended := by
  -- A task is new, or it was attended before the step.
  intro task within
  obtain ⟨pool, after, step, rfl⟩ := step_inv taken
  rcases step.queued within with before | ensures
  · have waits : world.shared.taskQueue ≠ [] := List.ne_nil_of_mem before
    rcases attended task before with ⟨thread, ensures⟩ | has
    · by_cases same : thread = label.1
      · -- The goroutine that was to ensure a worker has moved.
        subst same
        rcases step.ensuring ensures with still | created | declines
        · exact .inl ⟨label.1, by simpa using still⟩
        · exact .inr (.inl created)
        · rcases keeps (by rw [declines, Bool.or_true]) with empty | other
          · exact absurd empty waits
          · exact .inr (other.step taken)
      · exact .inl ⟨thread, by simpa [Function.update_of_ne same] using ensures⟩
    · exact .inr (has.step keeps waits taken)
  · exact .inl ⟨label.1, by simpa using ensures⟩

/-- Along a run that keeps a worker, every waiting task is attended. -/
theorem run_attended {config : GoroutinePoolConfig} {trace : List (Nat × GoroutineChoice)}
    (keeps : Along step KeepsWorker (start config) trace)
    (ran : exec step (start config) trace = some world) : world.Attended :=
  exec_invariant_along Attended
    (fun _ _ _ attended keeps taken => step_attended attended keeps taken)
    (fun _ within => absurd within List.not_mem_nil) keeps ran

/-- A task that is attended while nobody submits has a worker. -/
theorem Attended.noneStranded (attended : world.Attended) : world.NoneStranded := by
  -- Nobody is in `ensureWorker` while nobody submits.
  intro _ quiet waits
  obtain ⟨task, within⟩ := List.exists_mem_of_ne_nil _ waits
  rcases attended task within with ⟨thread, ensures⟩ | has
  · have submitting := GoroutineFrame.submitting_of_ensuring ensures
    rw [quiet thread] at submitting
    cases submitting
  · exact has

/-- A channel without room has never had a task, and no submission was accepted. -/
structure Unused (world : GoroutineWorld) : Prop where
  size : world.shared.queueSize = 0
  empty : world.shared.taskQueue = []
  accepted : world.shared.accepted = []
  ensuring : ∀ thread, (world.frame thread).ensuring = none

/-- A pool whose channel has no room stays unused, whatever is submitted. -/
theorem step_unused (unused : world.Unused) (taken : world.step label = some next) :
    next.Unused := by
  -- The goroutine that moves is not in `ensureWorker`, like all others.
  obtain ⟨pool, after, step, rfl⟩ := step_inv taken
  obtain ⟨size, empty, accepted, ensuring⟩ :=
    step.unused unused.size unused.empty unused.accepted (unused.ensuring label.1)
  exact ⟨size, empty, accepted,
    Threads.forall_frame_update (fun frame : GoroutineFrame => frame.ensuring = none)
      unused.ensuring ensuring⟩

/-- A pool for which no room was asked is never used. -/
theorem run_unused {config : GoroutinePoolConfig} (roomless : config.queueSize ≤ 0)
    {trace : List (Nat × GoroutineChoice)}
    (ran : exec step (start config) trace = some world) : world.Unused :=
  exec_invariant Unused (fun _ _ _ unused taken => step_unused unused taken)
    ⟨Int.toNat_of_nonpos roomless, rfl, rfl, fun _ => rfl⟩ ran

/-- Where a goroutine gets in a new pool by itself, it gets next to one that has made no call. -/
theorem start_leads_first {config : GoroutinePoolConfig} {reached : GoroutinePool × GoroutineFrame}
    (gets : GoroutinePool.Gets (newGoroutinePool config, .ready none) reached) :
    Leads step (fun _ _ => True) (start config)
      (Threads.duo reached.1 reached.2 (.ready none) (.ready none)) := by
  -- In a new pool any two goroutines are like all the others.
  have new : start config =
      Threads.duo (newGoroutinePool config) (.ready none) (.ready none) (.ready none) :=
    Threads.eq_duo fun _ => rfl
  rw [new]
  exact Threads.leads_duo_first gets

/-- Two goroutines that neither submit nor work leave a waiting task stranded. -/
theorem two_strand (usable : world.shared.closed = false) (waits : world.shared.taskQueue ≠ [])
    (created : world.shared.starting = 0)
    (first : (world.frame 0).submitting = false ∧ (world.frame 0).active = false)
    (second : (world.frame 1).submitting = false ∧ (world.frame 1).active = false)
    (rest : ∀ thread, world.frame (thread + 2) = .ready none) : ¬ world.NoneStranded := by
  -- All other goroutines have made no call.
  intro safe
  have quiet : ∀ thread,
      (world.frame thread).submitting = false ∧ (world.frame thread).active = false := by
    intro thread
    match thread with
    | 0 => exact first
    | 1 => exact second
    | thread + 2 =>
      rw [rest thread]
      exact ⟨rfl, rfl⟩
  rcases safe usable (fun thread => (quiet thread).1) waits with starting | ⟨thread, active⟩
  · exact absurd created (Nat.pos_iff_ne_zero.mp starting)
  · rw [(quiet thread).2] at active
    cases active

/-- A new pool for which room was asked has room for a task, and takes one. -/
theorem new_submit_sends {config : GoroutinePoolConfig} (room : 0 < config.queueSize) :
    GoroutinePool.Gets (newGoroutinePool config, .ready none)
      ((newGoroutinePool config).sent, .submit .submit 0 .load) := by
  refine GoroutinePool.submit_sends rfl rfl ?_
  simp [GoroutinePool.hasRoom, newGoroutinePool, room]

/-- In a pool that may have no workers at all, the first task is stranded. -/
theorem strands_without_workers {config : GoroutinePoolConfig} (room : 0 < config.queueSize)
    (few : (newGoroutinePool config).maxWorkers ≤ 0) :
    ∃ world, Leads step (fun _ _ => True) (start config) world ∧ ¬ world.NoneStranded := by
  -- The submission declines to create a worker, as any submission will.
  have submits := (new_submit_sends room).trans (GoroutinePool.ensureWorker_declines few)
  exact ⟨_, start_leads_first submits,
    two_strand rfl (List.cons_ne_nil _ _) rfl ⟨rfl, rfl⟩ ⟨rfl, rfl⟩ fun _ => rfl⟩

/-- The pool after its first task was run by its first worker. -/
def afterFirst (config : GoroutinePoolConfig) : GoroutinePool :=
  { (newGoroutinePool config).sent.started 0 with starting := 0 }.ran 0 []

/-- The first worker may run the first task and then, left idle, turn to leave. -/
theorem first_worker_retires {config : GoroutinePoolConfig} (room : 0 < config.queueSize)
    (allowed : 0 < (newGoroutinePool config).maxWorkers) :
    Leads step (fun _ _ => True) (start config)
      (Threads.duo (afterFirst config) (.ready none) (.worker .leave) (.ready none)) := by
  -- One goroutine submits, and the worker created for it comes and goes.
  have submits := (new_submit_sends room).trans (GoroutinePool.ensureWorker_starts allowed)
  have works : GoroutinePool.Gets ((newGoroutinePool config).sent.started 0, .ready none)
      (afterFirst config, .worker .leave) :=
    .head .begin trivial rfl
      ((GoroutinePool.worker_runs rfl).trans (GoroutinePool.worker_retires rfl rfl))
  exact (start_leads_first submits).trans (Threads.leads_duo_second works)

/-- A task that is submitted while the only worker turns to leave may be stranded. -/
theorem strands_with_workers {config : GoroutinePoolConfig} (room : 0 < config.queueSize)
    (allowed : 0 < (newGoroutinePool config).maxWorkers) :
    ∃ world, Leads step (fun _ _ => True) (start config) world ∧ ¬ world.NoneStranded := by
  -- The channel is empty again, and takes a second task.
  have retires := first_worker_retires room allowed
  have free : (afterFirst config).hasRoom = true := by
    simp [GoroutinePool.hasRoom, afterFirst, GoroutinePool.ran, GoroutinePool.started,
      GoroutinePool.sent, newGoroutinePool, room]
  have sends : GoroutinePool.Gets (afterFirst config, .ready none)
      ((afterFirst config).sent, .submit .submit 1 .load) :=
    GoroutinePool.submit_sends rfl rfl free
  by_cases single : (newGoroutinePool config).maxWorkers ≤ 1
  · -- The worker that leaves is still counted, and it is all the workers there may be.
    have submits := sends.trans (GoroutinePool.ensureWorker_declines single)
    exact ⟨_, retires.trans (Threads.leads_duo_first submits),
      two_strand rfl (List.cons_ne_nil _ _) rfl ⟨rfl, rfl⟩ ⟨rfl, rfl⟩ fun _ => rfl⟩
  · -- The worker leaves between the load and the compare-and-swap.
    have loads : GoroutinePool.Gets ((afterFirst config).sent, .submit .submit 1 .load)
        ((afterFirst config).sent, .submit .submit 1 (.swap 1)) :=
      .head .run trivial (if_pos (Int.not_le.mp single)) (.refl _)
    have goes : GoroutinePool.Gets ((afterFirst config).sent, .worker .leave)
        ({ (afterFirst config).sent with workers := 0 }, .worker .done) :=
      .head .run trivial rfl (.refl _)
    have misses : GoroutinePool.Gets
        ({ (afterFirst config).sent with workers := 0 }, .submit .submit 1 (.swap 1))
        ({ (afterFirst config).sent with workers := 0 }.accept 1) :=
      GoroutinePool.ensureWorker_misses (show (0 : Int) ≠ 1 by decide)
    have races : Leads step (fun _ _ => True)
        (Threads.duo (afterFirst config) (.ready none) (.worker .leave) (.ready none)) _ :=
      (Threads.leads_duo_first (sends.trans loads)).trans
        ((Threads.leads_duo_second goes).trans (Threads.leads_duo_first misses))
    exact ⟨_, retires.trans races,
      two_strand rfl (List.cons_ne_nil _ _) rfl ⟨rfl, rfl⟩ ⟨rfl, rfl⟩ fun _ => rfl⟩

/--
No task is stranded in a run whose last worker never leaves a waiting task behind, and in which
`ensureWorker` starts no worker only where there is one.

Every pool that has room for a task at all also has runs in which one is stranded.
-/
theorem none_stranded_of_workers_kept (config : GoroutinePoolConfig) :
    (∀ trace world, exec step (start config) trace = some world →
      Along step KeepsWorker (start config) trace → world.NoneStranded) ∧
    ((∀ trace world, exec step (start config) trace = some world → world.NoneStranded) ↔
      config.queueSize ≤ 0) := by
  -- A channel without room holds no task, and one with room may lose its worker.
  constructor
  · intro trace world ran keeps
    exact (run_attended keeps ran).noneStranded
  · constructor
    · intro safe
      by_contra room
      obtain ⟨world, ⟨trace, _, ran⟩, strands⟩ :
          ∃ world, Leads step (fun _ _ => True) (start config) world ∧ ¬ world.NoneStranded := by
        by_cases few : (newGoroutinePool config).maxWorkers ≤ 0
        · exact strands_without_workers (Int.not_le.mp room) few
        · exact strands_with_workers (Int.not_le.mp room) (Int.not_le.mp few)
      exact strands (safe trace world ran)
    · intro roomless trace world ran _ _ waits
      exact absurd (run_unused roomless ran).empty waits

/-- A run in which no worker turns to leave, and each `ensureWorker` starts one, keeps a worker. -/
theorem keepsWorker_of_growing {config : GoroutinePoolConfig}
    {trace : List (Nat × GoroutineChoice)}
    (grows : Along step (fun world label =>
      (world.shared.leaves (world.frame label.1) label.2 ||
        world.shared.declines (world.frame label.1) label.2) = false) (start config) trace) :
    Along step KeepsWorker (start config) trace := by
  -- The condition asks nothing of the steps that are taken.
  refine along_of_invariant (fun _ => True) (fun _ _ _ _ _ _ => trivial) ?_ trivial grows
  intro world label _ stays ends
  rw [stays] at ends
  cases ends

/-- The settings of a pool for a single worker and a single waiting task. -/
def oneWorker : GoroutinePoolConfig := ⟨1, 0, 1, false⟩

/-- A goroutine submits the first task of a pool. -/
def submitFirst : List (Nat × GoroutineChoice) :=
  [.submit .submit, .run, .run, .send, .run, .run, .run, .run].map (0, ·)

/-- The first task waits for a worker that was created for it. -/
theorem first_task_has_worker :
    ∃ world, exec step (start oneWorker) submitFirst = some world ∧
      world.shared.taskQueue = [0] ∧ world.NoneStranded := by
  -- The task is in the channel, and the worker has not begun.
  have ran : exec step (start oneWorker) submitFirst = some _ := rfl
  have keeps : Along step KeepsWorker (start oneWorker) submitFirst :=
    keepsWorker_of_growing (by decide)
  exact ⟨_, ran, rfl, (none_stranded_of_workers_kept oneWorker).1 _ _ ran keeps⟩

/-- The only worker turns to leave, and is still counted when the next task is submitted. -/
def submitWhileLeaving : List (Nat × GoroutineChoice) :=
  submitFirst ++
    [.begin, .receive, .run, .run, .run, .run, .timeout, .run, .run, .run].map (1, ·) ++
    [.submit .submit, .run, .run, .send, .run].map (0, ·)

/-- A task is stranded in an open pool whose only worker is about to leave. -/
theorem leaving_worker_strands_task :
    ∃ world, exec step (start oneWorker) submitWhileLeaving = some world ∧
      world.shared.taskQueue = [1] ∧ world.shared.accepted = [0, 1] ∧
      world.frame 0 = .ready none ∧ world.frame 1 = .worker .leave ∧ ¬ world.NoneStranded := by
  -- The run evaluates.
  refine ⟨_, rfl, rfl, rfl, rfl, rfl, ?_⟩
  exact two_strand rfl (List.cons_ne_nil _ _) rfl ⟨rfl, rfl⟩ ⟨rfl, rfl⟩ fun _ => rfl

end GoroutineWorld

end Balance
