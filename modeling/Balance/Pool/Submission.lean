import Balance.Pool.Goroutine

/-! Submitting tasks to a pool that is being closed. -/

namespace Balance

open Machine

/-- A submission that looks at the task channel next, without another look at the flag. -/
def SubmitFrame.exposed : SubmitFrame → Bool
  | .count | .select => true
  | _ => false

/-- A submission that still has its task, and has not been turned away. -/
def SubmitFrame.undecided : SubmitFrame → Bool
  | .check | .count | .select | .parked => true
  | _ => false

/-- A goroutine that looks at the task channel next, without another look at the flag. -/
def GoroutineFrame.exposed : GoroutineFrame → Bool
  | .submit _ _ place => place.exposed
  | _ => false

namespace GoroutinePool

variable {pool next : GoroutinePool} {frame after : GoroutineFrame} {choice : GoroutineChoice}
  {call : SubmitCall} {task : Nat} {place : SubmitFrame}

/-- Only a send on the closed channel is a panic. -/
theorem GoroutineStep.panicked (step : GoroutineStep pool frame choice next .panicked) :
    frame.exposed = true ∧ pool.taskQueueClosed = true := by
  -- Nothing else that a goroutine does is a panic.
  cases step with
  | submit step =>
    cases step with
    | sentClosed closed => exact ⟨rfl, closed⟩
  | worker step => cases step

/-- Neither the flag of the pool nor the state of its channels has changed. -/
def SameFlags (pool next : GoroutinePool) : Prop :=
  next.closed = pool.closed ∧ next.stopChanClosed = pool.stopChanClosed ∧
    next.taskQueueClosed = pool.taskQueueClosed

/-- A submission leaves the flags alone. -/
theorem SubmitStep.sameFlags (step : SubmitStep pool call task place choice next after) :
    SameFlags pool next := by
  cases step <;> exact ⟨rfl, rfl, rfl⟩

/-- A worker leaves the flags alone. -/
theorem WorkerStep.sameFlags {place : WorkerFrame}
    (step : WorkerStep pool place choice next after) : SameFlags pool next := by
  cases step <;> exact ⟨rfl, rfl, rfl⟩

/-- The flag is set and the channels are closed by the steps of `Close`, and by no others. -/
theorem GoroutineStep.flags (step : GoroutineStep pool frame choice next after) :
    next.closed = (pool.closed || decide (frame = .close .store)) ∧
      next.stopChanClosed = (pool.stopChanClosed || decide (frame = .close .stopChan)) ∧
      next.taskQueueClosed = (pool.taskQueueClosed || decide (frame = .close .taskQueue)) := by
  -- Outside `Close` nothing happens to the flags.
  cases step with
  | submit step => simpa [SameFlags] using step.sameFlags
  | worker step => simpa [SameFlags] using step.sameFlags
  | _ => simp

/-- `Close` comes to its second and third step by the ones before. -/
theorem GoroutineStep.closing (step : GoroutineStep pool frame choice next after) :
    (after = .close .stopChan → frame = .close .store) ∧
      (after = .close .taskQueue → frame = .close .stopChan) := by
  -- No other call leads into the middle of `Close`.
  cases step with
  | submit step => cases step <;> exact ⟨nofun, nofun⟩
  | worker step => cases step <;> exact ⟨nofun, nofun⟩
  | stored => exact ⟨fun _ => rfl, nofun⟩
  | stopped => exact ⟨nofun, fun _ => rfl⟩
  | _ => exact ⟨nofun, nofun⟩

/-- Once the flag is set, nobody else comes to the task channel. -/
theorem GoroutineStep.hidden (step : GoroutineStep pool frame choice next after)
    (closed : pool.closed = true) (hidden : frame.exposed = false) : after.exposed = false := by
  -- Whoever looks at the flag finds it set.
  cases step with
  | submit step =>
    cases step with
    | admitted usable =>
      rw [closed] at usable
      cases usable
    | counted => cases hidden
    | _ => rfl
  | worker step => cases step <;> rfl
  | _ => rfl

/-- A submission that is not at the closed channel, but still has its task, is turned away. -/
theorem SubmitStep.told (step : SubmitStep pool call task place choice next after)
    (closed : pool.closed = true) (stopped : pool.stopChanClosed = true)
    (hidden : place.exposed = false) (undecided : place.undecided = true) :
    after = .submit call task (.reject .closed) := by
  -- It has the check of the flag before it, or was woken up by the stop channel.
  cases step with
  | refused => rfl
  | admitted usable =>
    rw [closed] at usable
    cases usable
  | sentLater usable =>
    rw [stopped] at usable
    cases usable
  | stopped => rfl
  | @gaveUp waited choice error early =>
    cases waited with
    | true =>
      rw [early rfl] at stopped
      cases stopped
    | false => cases hidden
  | counted | sentClosed | sent | overflowed | blocked => cases hidden
  | _ => cases undecided

/-- A submission that is turned away returns the error it was given. -/
theorem SubmitStep.returns {error : SubmitError}
    (step : SubmitStep pool call task (.reject error) choice next after) :
    after = .ready (some error) := by
  -- The only step from there counts the refusal and returns.
  generalize stands : SubmitFrame.reject error = place at step
  cases step with
  | rejected =>
    cases stands
    rfl
  | @stopped waited => cases waited <;> cases stands
  | @gaveUp waited => cases waited <;> cases stands
  | _ => cases stands

/-- Whoever is on the way to a closed channel panics, if left to itself. -/
theorem exposed_submit_panics (closed : pool.taskQueueClosed = true)
    (exposed : frame.exposed = true) :
    ∃ reached, Gets (pool, frame) (reached, .panicked) := by
  cases frame with
  | submit call task place =>
    -- Any of the selects may find the send ready and take it.
    have sends (pool : GoroutinePool) (closed : pool.taskQueueClosed = true) :
        Gets (pool, .submit call task .select) (pool, .panicked) := by
      refine .head .send trivial ?_ (.refl _)
      simp [advance, advanceSubmit, advanceSelect, closed]
    cases place with
    | count => exact ⟨_, .head .run trivial rfl (sends _ closed)⟩
    | select => exact ⟨_, sends pool closed⟩
    | _ => cases exposed
  | _ => cases exposed

end GoroutinePool

namespace GoroutineWorld

variable {world next : GoroutineWorld} {label : Nat × GoroutineChoice}

/-- The task channel is closed after the stop channel, that one after the flag was set. -/
structure Flagged (world : GoroutineWorld) : Prop where
  taskQueue : world.shared.taskQueueClosed = true → world.shared.stopChanClosed = true
  stopChan : world.shared.stopChanClosed = true → world.shared.closed = true
  stopping : ∀ thread, world.frame thread = .close .stopChan → world.shared.closed = true
  shutting : ∀ thread, world.frame thread = .close .taskQueue →
    world.shared.stopChanClosed = true
  struck : ∀ thread, world.frame thread = .panicked → world.shared.taskQueueClosed = true

/-- Nobody is on the way to a closed channel, and nobody has panicked at all. -/
structure Hushed (world : GoroutineWorld) : Prop where
  flagged : world.Flagged
  hidden : world.shared.taskQueueClosed = true → ∀ thread, (world.frame thread).exposed = false
  calm : ∀ thread, world.frame thread ≠ .panicked

/-- A new pool is open, and nobody has begun to close it. -/
theorem start_flagged (config : GoroutinePoolConfig) : (start config).Flagged :=
  ⟨nofun, nofun, nofun, nofun, nofun⟩

/-- Every step keeps the order in which a pool is closed. -/
theorem step_flagged (flagged : world.Flagged) (taken : world.step label = some next) :
    next.Flagged := by
  -- What is set stays set, and what is set now was set by the mover.
  obtain ⟨thread, choice⟩ := label
  obtain ⟨pool, after, step, rfl⟩ := step_inv taken
  obtain ⟨closed, stopChan, taskQueue⟩ := step.flags
  have closedStays (before : world.shared.closed = true) : pool.closed = true := by
    rw [closed, before, Bool.true_or]
  have stopStays (before : world.shared.stopChanClosed = true) : pool.stopChanClosed = true := by
    rw [stopChan, before, Bool.true_or]
  refine ⟨?_, ?_, ?_, ?_, ?_⟩
  · intro shut
    change pool.taskQueueClosed = true at shut
    rw [taskQueue, Bool.or_eq_true, decide_eq_true_eq] at shut
    rcases shut with before | shuts
    · exact stopStays (flagged.taskQueue before)
    · exact stopStays (flagged.shutting thread shuts)
  · intro stopped
    change pool.stopChanClosed = true at stopped
    rw [stopChan, Bool.or_eq_true, decide_eq_true_eq] at stopped
    rcases stopped with before | stops
    · exact closedStays (flagged.stopChan before)
    · exact closedStays (flagged.stopping thread stops)
  · apply Threads.forall_frame_update
      fun frame : GoroutineFrame => frame = .close .stopChan → pool.closed = true
    · intro reader stopping
      exact closedStays (flagged.stopping reader stopping)
    · intro stopping
      rw [closed, decide_eq_true (step.closing.1 stopping), Bool.or_true]
  · apply Threads.forall_frame_update
      fun frame : GoroutineFrame => frame = .close .taskQueue → pool.stopChanClosed = true
    · intro reader shutting
      exact stopStays (flagged.shutting reader shutting)
    · intro shutting
      rw [stopChan, decide_eq_true (step.closing.2 shutting), Bool.or_true]
  · apply Threads.forall_frame_update
      fun frame : GoroutineFrame => frame = .panicked → pool.taskQueueClosed = true
    · intro reader panicked
      rw [taskQueue, flagged.struck reader panicked, Bool.true_or]
    · intro panicked
      subst panicked
      rw [taskQueue, step.panicked.2, Bool.true_or]

/-- In every state a run reaches, the pool is closed in order. -/
theorem run_flagged {config : GoroutinePoolConfig} {trace : List (Nat × GoroutineChoice)}
    (ran : exec step (start config) trace = some world) : world.Flagged :=
  exec_invariant Flagged (fun _ _ _ flagged taken => step_flagged flagged taken)
    (start_flagged config) ran

/-- When the task channel is closed, nobody is on the way to it. -/
def ClosesQuietly (world : GoroutineWorld) (label : Nat × GoroutineChoice) : Prop :=
  world.frame label.1 = .close .taskQueue → ∀ thread, (world.frame thread).exposed = false

/--
A submission that still has its task when the task channel is closed returns that the pool is
closed.
-/
def LosersTold (world : GoroutineWorld) (label : Nat × GoroutineChoice) : Prop :=
  world.shared.taskQueueClosed = true → ∀ call task place next,
    world.frame label.1 = .submit call task place → world.step label = some next →
    (place.undecided = true → next.frame label.1 = .submit call task (.reject .closed)) ∧
      (place = .reject .closed → next.frame label.1 = .ready (some .closed))

/-- A pool whose task channel is closed quietly never makes a submission panic. -/
theorem step_hushed (hushed : world.Hushed) (closes : world.ClosesQuietly label)
    (taken : world.step label = some next) : next.Hushed := by
  have flagged := step_flagged hushed.flagged taken
  obtain ⟨thread, choice⟩ := label
  obtain ⟨pool, after, step, rfl⟩ := step_inv taken
  refine ⟨flagged, ?_, ?_⟩
  · intro shut
    change pool.taskQueueClosed = true at shut
    rw [step.flags.2.2, Bool.or_eq_true, decide_eq_true_eq] at shut
    -- Whether the channel was closed before or is closed now, the flag was set earlier.
    have closed : world.shared.closed = true := by
      apply hushed.flagged.stopChan
      rcases shut with before | shuts
      · exact hushed.flagged.taskQueue before
      · exact hushed.flagged.shutting thread shuts
    have hidden : ∀ reader, (world.frame reader).exposed = false := by
      rcases shut with before | shuts
      · exact hushed.hidden before
      · exact closes shuts
    apply Threads.forall_frame_update (fun frame : GoroutineFrame => frame.exposed = false) hidden
    exact step.hidden closed (hidden thread)
  · apply Threads.forall_frame_update (fun frame : GoroutineFrame => frame ≠ .panicked) hushed.calm
    intro panicked
    subst panicked
    obtain ⟨exposed, shut⟩ := step.panicked
    rw [hushed.hidden shut thread] at exposed
    cases exposed

/-- Where nobody is on the way to a closed channel, whoever has lost the race is told so. -/
theorem Hushed.losersTold (hushed : world.Hushed) (label : Nat × GoroutineChoice) :
    world.LosersTold label := by
  -- With the task channel, the flag and the stop channel are closed too.
  intro shut call task place next stands taken
  have stopped := hushed.flagged.taskQueue shut
  have hidden := hushed.hidden shut label.1
  obtain ⟨pool, after, step, rfl⟩ := step_inv taken
  rw [stands] at step hidden
  simp only [Function.update_self]
  cases step with
  | submit step =>
    constructor
    · exact step.told (hushed.flagged.stopChan stopped) stopped hidden
    · intro rejected
      subst rejected
      exact step.returns

/-- Along a run that closes the task channel quietly, losers are told and nobody panics. -/
theorem Hushed.run {start final : GoroutineWorld} {trace : List (Nat × GoroutineChoice)}
    (hushed : start.Hushed) (closes : Along step ClosesQuietly start trace)
    (ran : exec step start trace = some final) :
    final.Hushed ∧ Along step LosersTold start trace := by
  -- The same invariant gives both, at the end and along the way.
  constructor
  · exact exec_invariant_along Hushed
      (fun _ _ _ hushed closes taken => step_hushed hushed closes taken) hushed closes ran
  · exact along_of_invariant Hushed
      (fun _ _ _ hushed closes taken => step_hushed hushed closes taken)
      (fun _ label hushed _ => hushed.losersTold label) hushed closes

/-- Once its task channel is closed quietly, a pool has no other way of closing it. -/
theorem Hushed.closesQuietly {start : GoroutineWorld} (hushed : start.Hushed)
    (shut : start.shared.taskQueueClosed = true) (trace : List (Nat × GoroutineChoice)) :
    Along step ClosesQuietly start trace := by
  -- The channel stays closed, and with it nobody is on the way to it.
  refine along_of_invariant
    (fun world : GoroutineWorld => world.Hushed ∧ world.shared.taskQueueClosed = true)
    ?_ ?_ ⟨hushed, shut⟩ (along_true start trace)
  · intro world label next holds _ taken
    rcases holds with ⟨hushed, shut⟩
    refine ⟨step_hushed hushed (fun _ => hushed.hidden shut) taken, ?_⟩
    obtain ⟨pool, after, step, rfl⟩ := step_inv taken
    rw [step.flags.2.2, shut, Bool.true_or]
  · intro world label holds _ _
    exact holds.1.hidden holds.2

/-- Closing the task channel while a submission is on the way to it may end in a panic. -/
theorem shutting_exposed_panics {closer other : Nat}
    (taken : world.step (closer, .run) = some next) (shuts : world.frame closer = .close .taskQueue)
    (exposed : (world.frame other).exposed = true) :
    ∃ final : GoroutineWorld, Leads step (fun _ _ => True) next final ∧
      final.frame other = .panicked := by
  have differs : other ≠ closer := by
    intro same
    rw [same, shuts] at exposed
    cases exposed
  obtain ⟨pool, after, step, rfl⟩ := step_inv taken
  have shut : pool.taskQueueClosed = true := by
    rw [step.flags.2.2, decide_eq_true shuts, Bool.or_true]
  -- The other goroutine goes on by itself.
  obtain ⟨reached, panics⟩ := GoroutinePool.exposed_submit_panics shut exposed
  refine ⟨_, Threads.leads_solo ⟨pool, Function.update world.frame closer after⟩
    (fun _ _ => True) (fun _ _ _ => trivial) (Function.update_of_ne differs _ _) panics, ?_⟩
  exact Function.update_self other _ _

/--
Submitting to a pool that is being closed is safe if the task channel is closed while no submission
is between its check of the flag and its select, and only then.

Nobody panics in such a run, and whoever still has its task afterwards is told that the pool is
closed.
-/
theorem submit_safe_iff_quiet {config : GoroutinePoolConfig}
    {trace : List (Nat × GoroutineChoice)} (ran : exec step (start config) trace = some world) :
    (Along step ClosesQuietly (start config) trace →
      (∀ thread, world.frame thread ≠ .panicked) ∧ Along step LosersTold (start config) trace) ∧
    ∀ closer closing, world.shared.taskQueueClosed = false →
      world.frame closer = .close .taskQueue → world.step (closer, .run) = some closing →
      ((∀ later final, exec step closing later = some final →
          (∀ thread, final.frame thread ≠ .panicked) ∧ Along step LosersTold closing later) ↔
        ∀ thread, (world.frame thread).exposed = false) := by
  have flagged := run_flagged ran
  constructor
  · intro closes
    have hushed : (start config).Hushed := ⟨start_flagged config, nofun, nofun⟩
    obtain ⟨still, told⟩ := hushed.run closes ran
    exact ⟨still.calm, told⟩
  · intro closer closing usable shuts taken
    constructor
    · -- A submission on the way to the channel could go on to a panic.
      intro safe thread
      rw [← Bool.not_eq_true]
      intro exposed
      obtain ⟨final, ⟨later, _, reached⟩, panicked⟩ :=
        shutting_exposed_panics taken shuts exposed
      exact (safe later final reached).1 thread panicked
    · intro hidden later final reached
      -- Nobody has panicked while the channel was open.
      have before : world.Hushed := by
        refine ⟨flagged, ?_, ?_⟩
        · intro shut
          rw [usable] at shut
          cases shut
        · intro thread panicked
          rw [flagged.struck thread panicked] at usable
          cases usable
      have hushed : closing.Hushed := step_hushed before (fun _ => hidden) taken
      have shut : closing.shared.taskQueueClosed = true := by
        obtain ⟨pool, after, step, rfl⟩ := step_inv taken
        rw [step.flags.2.2, decide_eq_true shuts, Bool.or_true]
      obtain ⟨still, told⟩ := hushed.run (hushed.closesQuietly shut later) reached
      exact ⟨still.calm, told⟩

/-- Whether a task channel is closed quietly can be seen from the goroutines that a run names. -/
theorem closesQuietly_of_named {config : GoroutinePoolConfig}
    {trace : List (Nat × GoroutineChoice)} (named : List Nat)
    (names : ∀ label ∈ trace, label.1 ∈ named)
    (quiet : Along step (fun world label => world.frame label.1 = .close .taskQueue →
      ∀ thread ∈ named, (world.frame thread).exposed = false) (start config) trace) :
    Along step ClosesQuietly (start config) trace := by
  -- The others have made no call.
  refine along_of_invariant (fun _ => True) (fun _ _ _ _ _ _ => trivial) ?_ trivial
    ((along_and _ _).mpr ⟨quiet, Threads.along_bystanders (start config) named names⟩)
  intro world label _ meets shuts thread
  rcases meets with ⟨quiet, rest⟩
  by_cases within : thread ∈ named
  · exact quiet shuts thread within
  · rw [rest thread within]
    rfl

/-- A submission waits for room in a channel without any, while the pool is closed. -/
def waitWhileClosed : List (Nat × GoroutineChoice) :=
  [.submit .submit, .run, .run, .park].map (0, ·) ++ [.close, .run, .run, .run].map (1, ·) ++
    [(0, .stopped), (0, .run)]

/-- A submission that was blocked when the pool was closed is told so, and nobody panics. -/
theorem blocked_submission_is_told :
    ∃ world, exec step (start ⟨1, 0, 0, false⟩) waitWhileClosed = some world ∧
      world.shared.taskQueueClosed = true ∧ world.frame 0 = .ready (some .closed) ∧
      ∀ thread, world.frame thread ≠ .panicked := by
  -- When the task channel is closed, the submission is blocked and not exposed.
  have ran : exec step (start ⟨1, 0, 0, false⟩) waitWhileClosed = some _ := rfl
  have closes : Along step ClosesQuietly (start ⟨1, 0, 0, false⟩) waitWhileClosed :=
    closesQuietly_of_named [0, 1] (by decide) (by decide)
  exact ⟨_, ran, rfl, rfl, ((submit_safe_iff_quiet ran).1 closes).1⟩

/-- The pool is closed while a submission has its select before it, and that takes the send. -/
def sendLate : List (Nat × GoroutineChoice) :=
  [.submit .submit, .run, .run].map (0, ·) ++ [.close, .run, .run, .run].map (1, ·) ++
    [(0, .send)]

/-- A submission that has checked the flag panics at the closed channel, blocking or not. -/
theorem late_send_panics :
    (∃ world, exec step (start ⟨1, 0, 1, false⟩) sendLate = some world ∧
      world.frame 0 = .panicked) ∧
    ∃ world, exec step (start ⟨1, 0, 1, true⟩) sendLate = some world ∧
      world.frame 0 = .panicked :=
  -- Both runs evaluate.
  ⟨⟨_, rfl, rfl⟩, _, rfl, rfl⟩

end GoroutineWorld

end Balance
