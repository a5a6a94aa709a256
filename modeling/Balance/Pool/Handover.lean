import Balance.Pool.Stranding
import Balance.Pool.Submission

/-! A pool whose channel has no buffer, where tasks could only go from hand to hand. -/

namespace Balance

open Machine

/-- A worker, or a submission that may start one. -/
def GoroutineFrame.staffing : GoroutineFrame → Bool
  | .submit _ _ place => place.ensuring
  | .worker _ => true
  | _ => false

/-- A choice by which a goroutine that stands between calls begins something new. -/
def GoroutineChoice.calls : GoroutineChoice → Bool
  | .submit _ | .close | .begin => true
  | _ => false

namespace GoroutinePool

variable {pool next : GoroutinePool} {frame after : GoroutineFrame} {choice : GoroutineChoice}
  {call : SubmitCall} {task : Nat} {place : SubmitFrame}

/-- No step changes the size of the channel, nor whether submissions block. -/
theorem GoroutineStep.settings (step : GoroutineStep pool frame choice next after) :
    next.queueSize = pool.queueSize ∧ next.nonBlocking = pool.nonBlocking := by
  cases step with
  | submit step => cases step <;> exact ⟨rfl, rfl⟩
  | worker step => cases step <;> exact ⟨rfl, rfl⟩
  | _ => exact ⟨rfl, rfl⟩

/-- A channel without a buffer has no room. -/
theorem hasRoom_of_unbuffered (unbuffered : pool.queueSize = 0) : pool.hasRoom = false := by
  simp [hasRoom, unbuffered]

/-- Where nothing can be sent, nobody comes to start a worker. -/
theorem GoroutineStep.unstaffed (step : GoroutineStep pool frame choice next after)
    (full : pool.hasRoom = false) (none : pool.starting = 0) (idle : frame.staffing = false) :
    next.starting = 0 ∧ after.staffing = false := by
  -- A worker is started only after a task was sent, and there is no room for one.
  cases step with
  | submit step =>
    cases step with
    | sent _ room | sentLater _ room =>
      rw [full] at room
      cases room
    | sufficed | loaded | swapped | overtaken | added | spawned => cases idle
    | _ => exact ⟨none, rfl⟩
  | worker => cases idle
  | began new =>
    rw [none] at new
    cases new
  | _ => exact ⟨none, rfl⟩

/-- A pool that is open, with both of its channels. -/
structure Usable (pool : GoroutinePool) : Prop where
  closed : pool.closed = false
  stopChan : pool.stopChanClosed = false
  taskQueue : pool.taskQueueClosed = false

/-- A goroutine gets from one place to another by itself, within one call. -/
abbrev Goes : GoroutinePool × GoroutineFrame → GoroutinePool × GoroutineFrame → Prop :=
  Leads (fun reached choice => reached.1.advance reached.2 choice)
    fun _ choice => choice.calls = false

/-- A submission that has sent its task returns, whether it starts a worker or not. -/
theorem ensureWorker_returns (pool : GoroutinePool) (call : SubmitCall) (task : Nat) :
    ∃ reached, Goes (pool, .submit call task .load) (reached, .ready none) := by
  by_cases fewer : pool.workers < pool.maxWorkers
  · exact ⟨_, .head .run rfl (if_pos fewer) (.head .run rfl (if_pos rfl)
      (.head .run rfl rfl (.head .run rfl rfl (.refl _))))⟩
  · exact ⟨_, .head .run rfl (if_neg fewer) (.refl _)⟩

/-- A submission to an open pool comes to its select. -/
theorem submit_selects (usable : pool.Usable) (call : SubmitCall) (task : Nat) :
    Goes (pool, .submit call task .check)
      ({ pool with submitted := pool.submitted + 1 }, .submit call task .select) := by
  have checks : pool.advance (.submit call task .check) .run =
      some (pool, .submit call task .count) := by
    simp [advance, advanceSubmit, usable.closed]
  exact .head .run rfl checks (.head .run rfl rfl (.refl _))

/-- Where there is room, a submission can return without an error. -/
theorem submit_returns_of_room (usable : pool.Usable) (room : pool.hasRoom = true)
    (task : Nat) :
    ∃ reached, Goes (pool, .submit .submit task .check) (reached, .ready none) := by
  -- The select finds the channel open and with room.
  let counted := { pool with submitted := pool.submitted + 1 }
  have sends : counted.advance (.submit .submit task .select) .send =
      some (counted.enqueue task, .submit .submit task .load) := by
    have unshut : counted.taskQueueClosed = false := usable.taskQueue
    have still : counted.hasRoom = true := room
    simp [advance, advanceSubmit, advanceSelect, unshut, still]
  obtain ⟨reached, returns⟩ := ensureWorker_returns (counted.enqueue task) .submit task
  exact ⟨reached, (submit_selects usable .submit task).trans (.head .send rfl sends returns)⟩

/-- Where there is none, a submission that must not block can return that it timed out. -/
theorem submit_refused_of_full (usable : pool.Usable) (full : pool.hasRoom = false)
    (hurried : pool.nonBlocking = true) (task : Nat) :
    ∃ reached, Goes (pool, .submit .submit task .check) (reached, .ready (some .timeout)) := by
  -- The select falls through, since it has no case that is ready.
  let counted := { pool with submitted := pool.submitted + 1 }
  have falls : counted.advance (.submit .submit task .select) .default =
      some (counted, .submit .submit task (.reject .timeout)) := by
    have unshut : counted.taskQueueClosed = false := usable.taskQueue
    have still : counted.hasRoom = false := full
    have unblocked : counted.blocks .submit = false := by simp [blocks, counted, hurried]
    simp [advance, advanceSubmit, advanceSelect, unshut, still, unblocked]
  exact ⟨_, (submit_selects usable .submit task).trans
    (.head .default rfl falls (.head .run rfl rfl (.refl _)))⟩

/-- A submission that blocks, and finds no room in an open pool. -/
structure Stuck (pool : GoroutinePool) (frame : GoroutineFrame) : Prop where
  usable : pool.Usable
  full : pool.hasRoom = false
  patient : pool.nonBlocking = false
  undecided : ∃ task place, frame = .submit .submit task place ∧ place.undecided = true

/-- A submission to an open pool that has room, or has found it. -/
structure Served (pool : GoroutinePool) (frame : GoroutineFrame) : Prop where
  usable : pool.Usable
  stands : frame = .ready none ∨ ∃ task place, frame = .submit .submit task place ∧
    (place.undecided = true ∧ pool.hasRoom = true ∨ place.ensuring = true)

/-- A pool is open as long as its flags are the same. -/
theorem Usable.of_same (usable : pool.Usable) (same : SameFlags pool next) : next.Usable :=
  ⟨same.1.trans usable.closed, same.2.1.trans usable.stopChan, same.2.2.trans usable.taskQueue⟩

/-- A plain submission has no case for giving up. -/
theorem givesUp_submit (choice : GoroutineChoice) : givesUp .submit choice = none := by
  cases choice <;> rfl

/-- In an open pool, a submission that has not decided goes on, sends its task or times out. -/
theorem SubmitStep.undecided (step : SubmitStep pool .submit task place choice next after)
    (usable : pool.Usable) (undecided : place.undecided = true) :
    (next.hasRoom = pool.hasRoom ∧ ∃ later, later.undecided = true ∧
        after = .submit .submit task later) ∨
      pool.hasRoom = true ∧ after = .submit .submit task .load ∨
      pool.hasRoom = false ∧ pool.nonBlocking = true := by
  -- The cases of the select that an open pool leaves are those listed.
  obtain ⟨closed, stopChan, taskQueue⟩ := usable
  cases step with
  | admitted => exact .inl ⟨rfl, .count, rfl, rfl⟩
  | counted => exact .inl ⟨rfl, .select, rfl, rfl⟩
  | blocked => exact .inl ⟨rfl, .parked, rfl, rfl⟩
  | sent _ room | sentLater _ room => exact .inr (.inl ⟨room, rfl⟩)
  | overflowed falls _ full => exact .inr (.inr ⟨full, by simpa [blocks] using falls⟩)
  | refused shut | sentClosed shut | stopped shut => simp_all
  | gaveUp _ gives =>
    rw [givesUp_submit] at gives
    cases gives
  | _ => cases undecided

/-- A submission in `ensureWorker` goes on there, or returns without an error. -/
theorem SubmitStep.ensuring (step : SubmitStep pool call task place choice next after)
    (ensuring : place.ensuring = true) :
    after = .ready none ∨ ∃ later, later.ensuring = true ∧ after = .submit call task later := by
  cases step with
  | sufficed | overtaken | spawned => exact .inl rfl
  | loaded | swapped | added => exact .inr ⟨_, rfl, rfl⟩
  | @stopped waited | @gaveUp waited => cases waited <;> cases ensuring
  | _ => cases ensuring

/-- A submission that blocks gets nowhere while there is no room. -/
theorem Stuck.step (stuck : Stuck pool frame) (step : GoroutineStep pool frame choice next after) :
    Stuck next after := by
  -- With no room and a select that waits, only going on is left.
  have settings := step.settings
  obtain ⟨usable, full, patient, task, place, rfl, undecided⟩ := stuck
  cases step with
  | submit step =>
    rcases step.undecided usable undecided with ⟨same, later, still, rfl⟩ | ⟨room, _⟩ | ⟨_, hurried⟩
    · exact ⟨usable.of_same step.sameFlags, same.trans full, settings.2.trans patient,
        task, later, rfl, still⟩
    · rw [full] at room
      cases room
    · rw [patient] at hurried
      cases hurried

/-- A submission that finds room is not turned away. -/
theorem Served.step (served : Served pool frame)
    (step : GoroutineStep pool frame choice next after) (within : choice.calls = false) :
    Served next after := by
  -- Before the send there is room, and after it the submission cannot fail.
  obtain ⟨usable, rfl | ⟨task, place, rfl, ⟨undecided, room⟩ | ensuring⟩⟩ := served
  · cases step <;> cases within
  · cases step with
    | submit step =>
      refine ⟨usable.of_same step.sameFlags, .inr ?_⟩
      rcases step.undecided usable undecided with ⟨same, later, still, rfl⟩ | ⟨_, rfl⟩ | ⟨full, _⟩
      · exact ⟨task, later, rfl, .inl ⟨still, same.trans room⟩⟩
      · exact ⟨task, .load, rfl, .inr rfl⟩
      · rw [room] at full
        cases full
  · cases step with
    | submit step =>
      refine ⟨usable.of_same step.sameFlags, ?_⟩
      rcases step.ensuring ensuring with rfl | ⟨later, still, rfl⟩
      · exact .inl rfl
      · exact .inr ⟨task, later, rfl, .inr still⟩

end GoroutinePool

namespace GoroutineWorld

/--
A task goes from a submission straight to a worker.

Both have to be at their selects, and the channel must be without a buffer.
-/
def handOver (world : GoroutineWorld) (sender receiver : Nat) : Option GoroutineWorld :=
  match world.frame sender, world.frame receiver with
  | .submit call task place, .worker .select =>
    if world.shared.queueSize = 0 ∧ world.shared.taskQueueClosed = false ∧
        (place = .select ∨ place = .parked ∧ world.shared.stopChanClosed = false) then
      some ⟨world.shared, Function.update
        (Function.update world.frame receiver (.worker (.start task)))
        sender (.submit call task .load)⟩
    else none
  | _, _ => none

/-- One goroutine takes a step, or a task goes from one to another. -/
def handingStep (world : GoroutineWorld) :
    (Nat × GoroutineChoice) ⊕ (Nat × Nat) → Option GoroutineWorld
  | .inl label => world.step label
  | .inr (sender, receiver) => world.handOver sender receiver

/-- If the channel has no buffer, there is no worker and nobody comes to start one. -/
def Unstaffed (world : GoroutineWorld) : Prop :=
  world.shared.queueSize = 0 →
    world.shared.starting = 0 ∧ ∀ thread, (world.frame thread).staffing = false

variable {world next final : GoroutineWorld}

/-- Without a worker nothing is handed over. -/
theorem handOver_eq_none (unstaffed : world.Unstaffed) (sender receiver : Nat) :
    world.handOver sender receiver = none := by
  -- The receiver would have to be a worker.
  by_contra some
  obtain ⟨next, taken⟩ := Option.ne_none_iff_exists'.mp some
  rw [handOver] at taken
  split at taken
  case h_1 call task place sends receives =>
    have unbuffered := (Option.ite_none_right_eq_some.mp taken).1.1
    have idle := (unstaffed unbuffered).2 receiver
    rw [receives] at idle
    cases idle
  case h_2 => cases taken

/-- A step of a goroutine keeps a pool without a buffer unstaffed. -/
theorem step_unstaffed {label : Nat × GoroutineChoice} (unstaffed : world.Unstaffed)
    (taken : world.step label = some next) : next.Unstaffed := by
  -- The size of the channel does not change.
  obtain ⟨pool, after, step, rfl⟩ := step_inv taken
  intro unbuffered
  change pool.queueSize = 0 at unbuffered
  rw [step.settings.1] at unbuffered
  obtain ⟨none, idle⟩ := unstaffed unbuffered
  obtain ⟨still, stays⟩ :=
    step.unstaffed (GoroutinePool.hasRoom_of_unbuffered unbuffered) none (idle label.1)
  exact ⟨still, Threads.forall_frame_update
    (fun frame : GoroutineFrame => frame.staffing = false) idle stays⟩

/-- What goroutines may do together, they do one by one, since nothing is ever handed over. -/
theorem exec_of_handing (unstaffed : world.Unstaffed)
    {labels : List ((Nat × GoroutineChoice) ⊕ (Nat × Nat))}
    (ran : exec handingStep world labels = some final) :
    ∃ trace : List (Nat × GoroutineChoice), labels = trace.map .inl ∧
      exec step world trace = some final := by
  -- The labels are taken off one by one, and none of them is a handover.
  induction labels generalizing world with
  | nil => exact ⟨[], rfl, ran⟩
  | cons label rest ih =>
    obtain ⟨next, taken, later⟩ := exec_cons_eq_some.mp ran
    rcases label with own | ⟨sender, receiver⟩
    · obtain ⟨trace, rfl, reached⟩ := ih (step_unstaffed unstaffed taken) later
      exact ⟨own :: trace, rfl, exec_cons_eq_some.mpr ⟨next, taken, reached⟩⟩
    · rw [handingStep, handOver_eq_none unstaffed] at taken
      cases taken

/-- The steps of one goroutine within a call, and the tasks that it hands over. -/
def OwnStep (thread : Nat) : (Nat × GoroutineChoice) ⊕ (Nat × Nat) → Prop
  | .inl (mover, choice) => mover = thread ∧ choice.calls = false
  | .inr (sender, _) => sender = thread

/-- A goroutine that calls `Submit` now can return with this result, while nobody else moves. -/
def SubmitReturns (world : GoroutineWorld) (thread : Nat) (result : Option SubmitError) : Prop :=
  ∃ called final, world.step (thread, .submit .submit) = some called ∧
    Leads handingStep (fun _ label => OwnStep thread label) called final ∧
    final.frame thread = .ready result

/--
A `Submit` that is made now is not refused for want of space.

If it blocks it can go through without waiting, and otherwise it does not time out.
-/
def Unrefused (world : GoroutineWorld) (thread : Nat) : Prop :=
  if world.shared.nonBlocking then ¬ world.SubmitReturns thread (some .timeout)
  else world.SubmitReturns thread none

/-- Where a goroutine gets by itself within a call, it gets among the others too. -/
theorem leads_handing {thread : Nat} {frame : GoroutineFrame}
    {reached : GoroutinePool × GoroutineFrame} (stands : world.frame thread = frame)
    (goes : GoroutinePool.Goes (world.shared, frame) reached) :
    Leads handingStep (fun _ label => OwnStep thread label) world
      ⟨reached.1, Function.update world.frame thread reached.2⟩ := by
  -- The steps of the goroutine are those of the pool, under other names.
  have leads : Leads step (fun _ label => label.1 = thread ∧ label.2.calls = false) world
      ⟨reached.1, Function.update world.frame thread reached.2⟩ :=
    Threads.leads_solo world (fun _ choice => choice.calls = false)
      (fun _ _ within => ⟨rfl, within⟩) stands goes
  exact leads.relabel .inl (fun _ _ => rfl) fun _ _ own => own

/-- What a goroutine's own steps keep holds wherever they lead. -/
theorem inv_of_own {thread : Nat} (inv : GoroutinePool → GoroutineFrame → Prop)
    (kept : ∀ {pool next : GoroutinePool} {frame after : GoroutineFrame} {choice : GoroutineChoice},
      inv pool frame → GoroutinePool.GoroutineStep pool frame choice next after →
      choice.calls = false → inv next after)
    (unstaffed : world.Unstaffed) (initial : inv world.shared (world.frame thread))
    (leads : Leads handingStep (fun _ label => OwnStep thread label) world final) :
    inv final.shared (final.frame thread) := by
  -- The pool stays unstaffed meanwhile, so that no task is handed over.
  obtain ⟨labels, own, ran⟩ := leads
  refine (exec_invariant_along
    (fun world : GoroutineWorld => world.Unstaffed ∧ inv world.shared (world.frame thread))
    ?_ ⟨unstaffed, initial⟩ own ran).2
  rintro world (⟨mover, choice⟩ | ⟨sender, receiver⟩) next ⟨unstaffed, holds⟩ own taken
  · obtain ⟨rfl, within⟩ := own
    refine ⟨step_unstaffed unstaffed taken, ?_⟩
    obtain ⟨pool, after, step, rfl⟩ := step_inv taken
    simp only [Function.update_self]
    exact kept holds step within
  · rw [handingStep, handOver_eq_none unstaffed] at taken
    cases taken

/-- The pool right after a goroutine has called `Submit`. -/
def called (world : GoroutineWorld) (thread : Nat) : GoroutineWorld :=
  ⟨{ world.shared with nextTask := world.shared.nextTask + 1 },
    Function.update world.frame thread (.submit .submit world.shared.nextTask .check)⟩

variable {thread : Nat} {error : Option SubmitError}

/-- A goroutine that has called `Submit` is at its beginning. -/
theorem called_frame (world : GoroutineWorld) (thread : Nat) :
    (world.called thread).frame thread = .submit .submit world.shared.nextTask .check :=
  Function.update_self thread _ _

/-- A goroutine between calls can call `Submit`. -/
theorem step_called (idle : world.frame thread = .ready error) :
    world.step (thread, .submit .submit) = some (world.called thread) := by
  rw [Threads.step_eq_some]
  exact ⟨_, _, by rw [idle]; rfl, rfl⟩

/-- Where a submission gets by itself, the call returns. -/
theorem submitReturns_of_goes {result : Option SubmitError}
    (idle : world.frame thread = .ready error)
    (goes : ∃ reached, GoroutinePool.Goes ((world.called thread).shared,
      .submit .submit world.shared.nextTask .check) (reached, .ready result)) :
    world.SubmitReturns thread result := by
  obtain ⟨reached, goes⟩ := goes
  refine ⟨_, _, step_called idle, leads_handing (called_frame world thread) goes, ?_⟩
  exact Function.update_self thread _ _

/-- What a submission keeps until it returns holds of the result. -/
theorem inv_of_submitReturns {result : Option SubmitError}
    (inv : GoroutinePool → GoroutineFrame → Prop)
    (kept : ∀ {pool next : GoroutinePool} {frame after : GoroutineFrame} {choice : GoroutineChoice},
      inv pool frame → GoroutinePool.GoroutineStep pool frame choice next after →
      choice.calls = false → inv next after)
    (unstaffed : world.Unstaffed) (idle : world.frame thread = .ready error)
    (initial : inv (world.called thread).shared (.submit .submit world.shared.nextTask .check))
    (returns : world.SubmitReturns thread result) : ∃ pool, inv pool (.ready result) := by
  -- The call itself is the only step before.
  obtain ⟨called, final, taken, leads, stands⟩ := returns
  have later := step_unstaffed unstaffed taken
  rw [step_called idle] at taken
  cases taken
  have begins : inv (world.called thread).shared ((world.called thread).frame thread) := by
    rwa [called_frame]
  have ends := inv_of_own inv kept later begins leads
  rw [stands] at ends
  exact ⟨final.shared, ends⟩

/-- A `Submit` that is made now is not refused just if the channel has room. -/
theorem unrefused_iff_room (unstaffed : world.Unstaffed) (usable : world.shared.Usable)
    (idle : world.frame thread = .ready error) :
    world.Unrefused thread ↔ world.shared.hasRoom = true := by
  -- The size of the channel and the mode of the pool give four cases.
  have still : (world.called thread).shared.Usable := ⟨usable.1, usable.2, usable.3⟩
  rw [Unrefused]
  cases room : world.shared.hasRoom with
  | true =>
    refine iff_of_true ?_ rfl
    split
    · intro returns
      have served : GoroutinePool.Served (world.called thread).shared
          (.submit .submit world.shared.nextTask .check) :=
        ⟨still, .inr ⟨_, _, rfl, .inl ⟨rfl, room⟩⟩⟩
      obtain ⟨pool, ends⟩ :=
        inv_of_submitReturns GoroutinePool.Served .step unstaffed idle served returns
      rcases ends.stands with other | ⟨_, _, other, _⟩ <;> cases other
    · exact submitReturns_of_goes idle (GoroutinePool.submit_returns_of_room still room _)
  | false =>
    refine iff_of_false ?_ Bool.false_ne_true
    split
    case isTrue hurried =>
      rw [not_not]
      exact submitReturns_of_goes idle (GoroutinePool.submit_refused_of_full still room hurried _)
    case isFalse patient =>
      intro returns
      have stuck : GoroutinePool.Stuck (world.called thread).shared
          (.submit .submit world.shared.nextTask .check) :=
        ⟨still, room, Bool.eq_false_of_not_eq_true patient, _, _, rfl, rfl⟩
      obtain ⟨pool, ends⟩ := inv_of_submitReturns GoroutinePool.Stuck
        (fun stuck step _ => stuck.step step) unstaffed idle stuck returns
      obtain ⟨_, _, other, _⟩ := ends.undecided
      cases other

/-- A new pool has no workers, and nobody comes to start one. -/
theorem start_unstaffed (config : GoroutinePoolConfig) : (start config).Unstaffed :=
  fun _ => ⟨rfl, fun _ => rfl⟩

/-- The size of the channel is what the configuration asks for, all along a run. -/
theorem run_queueSize {config : GoroutinePoolConfig} {trace : List (Nat × GoroutineChoice)}
    (ran : exec step (start config) trace = some world) :
    world.shared.queueSize = config.queueSize.toNat := by
  -- No step changes it.
  refine exec_invariant (fun world : GoroutineWorld =>
    world.shared.queueSize = config.queueSize.toNat) ?_ rfl ran
  intro world label next same taken
  obtain ⟨pool, after, step, rfl⟩ := step_inv taken
  exact step.settings.1.trans same

/--
In an open pool, a `Submit` is not refused for want of space just if the channel has room for one
more task.

A queue of size zero, which is meant to be without bound, therefore refuses every one.
-/
theorem submit_unrefused_iff {config : GoroutinePoolConfig}
    {labels : List ((Nat × GoroutineChoice) ⊕ (Nat × Nat))}
    (ran : exec handingStep (start config) labels = some world)
    (usable : world.shared.closed = false) (idle : world.frame thread = .ready error) :
    (world.Unrefused thread ↔ world.shared.taskQueue.length < world.shared.queueSize) ∧
      (config.queueSize = 0 → ¬ world.Unrefused thread) := by
  -- The flags of an open pool are unset, as they are set in order.
  obtain ⟨trace, rfl, stepped⟩ := exec_of_handing (start_unstaffed config) ran
  have unstaffed := exec_invariant Unstaffed
    (fun _ _ _ unstaffed taken => step_unstaffed unstaffed taken) (start_unstaffed config) stepped
  have flagged := run_flagged stepped
  have stopChan : world.shared.stopChanClosed = false := by
    by_contra stopped
    rw [flagged.stopChan (by simpa using stopped)] at usable
    cases usable
  have taskQueue : world.shared.taskQueueClosed = false := by
    by_contra shut
    rw [flagged.taskQueue (by simpa using shut)] at stopChan
    cases stopChan
  have decides := unrefused_iff_room unstaffed ⟨usable, stopChan, taskQueue⟩ idle
  rw [GoroutinePool.hasRoom, decide_eq_true_iff] at decides
  refine ⟨decides, ?_⟩
  intro unbounded
  rw [decides, run_queueSize stepped, unbounded]
  exact Nat.not_lt_zero _

/-- A submission that must not block is turned away. -/
def turnedAway : List ((Nat × GoroutineChoice) ⊕ (Nat × Nat)) :=
  [.submit .submit, .run, .run, .default, .run].map fun choice => .inl (0, choice)

/-- After one submission was turned away, the next one would be too. -/
theorem submit_unrefused_turned_away :
    ∃ world, exec handingStep (start ⟨1, 0, 0, true⟩) turnedAway = some world ∧
      world.shared.closed = false ∧ world.frame 0 = .ready (some .timeout) ∧
      ¬ world.Unrefused 0 := by
  have ran : exec handingStep (start ⟨1, 0, 0, true⟩) turnedAway = some _ := rfl
  exact ⟨_, ran, rfl, rfl, (submit_unrefused_iff ran rfl rfl).2 rfl⟩

/-- A new pool whose queue is meant to be without bound refuses its first task, blocking or not. -/
theorem unbounded_queue_refuses :
    ¬ (start ⟨1, 0, 0, false⟩).Unrefused 0 ∧ ¬ (start ⟨1, 0, 0, true⟩).Unrefused 0 ∧
      (start ⟨1, 0, 0, true⟩).SubmitReturns 0 (some .timeout) := by
  have refused (nonBlocking : Bool) : ¬ (start ⟨1, 0, 0, nonBlocking⟩).Unrefused 0 := by
    rw [unrefused_iff_room (start_unstaffed _) ⟨rfl, rfl, rfl⟩ rfl]
    exact Bool.false_ne_true
  refine ⟨refused false, refused true, ?_⟩
  exact submitReturns_of_goes rfl
    (GoroutinePool.submit_refused_of_full ⟨rfl, rfl, rfl⟩ rfl rfl _)

end GoroutineWorld

end Balance
