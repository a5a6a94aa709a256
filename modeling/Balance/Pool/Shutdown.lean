import Balance.Pool.Connection

/-! Closing a pool while other goroutines are on their way to its channel. -/

namespace Balance

open Machine

/-- A goroutine in `Get` that uses the channel next, without another look at the flag. -/
def GetFrame.exposed : GetFrame → Bool
  | .select | .wait => true
  | _ => false

/-- A goroutine in `put` that sends next, without another look at the flag. -/
def CloseFrame.exposed : CloseFrame → Bool
  | .putMark | .putSend => true
  | _ => false

/-- A goroutine that comes to use the channel without another look at the flag. -/
def PoolFrame.exposed : PoolFrame → Bool
  | .get frame => frame.exposed
  | .close _ frame => frame.exposed
  -- The loop of `cleanup` never looks at the flag.
  | .cleanup _ _ => true
  | _ => false

/-- A goroutine that was stopped by a send on the closed channel or by a nil connection. -/
def PoolFrame.isPanicked : PoolFrame → Bool
  | .panicked _ => true
  | _ => false

/-- A call that closes the pool. -/
def PoolFrame.callsClosePool : PoolFrame → PoolChoice → Bool
  | .ready _, .closePool => true
  | _, _ => false

/-- A goroutine that closes the channel next. -/
def PoolFrame.closesChannel : PoolFrame → Bool
  | .shutdown .channel => true
  | _ => false

/-- A goroutine that closes the pool, and has set the flag. -/
def PoolFrame.closesPool : PoolFrame → Bool
  | .shutdown _ => true
  | _ => false

namespace ConnectionPool

variable {pool next : ConnectionPool} {frame after : PoolFrame} {choice : PoolChoice}

/-- Only a goroutine that uses the closed channel panics. -/
theorem PoolStep.panicked (step : PoolStep pool frame choice next after)
    (panicked : after.isPanicked = true) :
    frame.exposed = true ∧ pool.connectionsClosed = true := by
  -- A nil connection is received, or a connection is sent.
  cases step with
  | get step =>
    cases step with
    | @receivedNil waited empty closed => cases waited <;> exact ⟨rfl, closed⟩
    | _ => cases panicked
  | @close pc place now =>
    cases place with
    | putSend =>
      simp only [advanceClose, send] at panicked
      split at panicked
      · next closed => exact ⟨rfl, closed⟩
      · split at panicked <;> cases panicked
    | _ => cases panicked
  | cleanup step =>
    cases step with
    | receivedNil empty closed => exact ⟨rfl, closed⟩
    | sentClosed closed => exact ⟨rfl, closed⟩
    | _ => cases panicked
  | @shutdown place now =>
    cases place with
    | drain =>
      simp only [advanceShutdown] at panicked
      split at panicked <;> cases panicked
    | _ => cases panicked
  | _ => cases panicked

/-- Closing a network connection leaves the channel alone. -/
theorem closeConn_connections (pool : ConnectionPool) (pc : Nat) :
    (pool.closeConn pc).connections = pool.connections := by
  rw [closeConn_eq]

/-- Neither the flag of the pool nor the state of its channel has changed. -/
def SameFlags (pool next : ConnectionPool) : Prop :=
  next.closed = pool.closed ∧ next.connectionsClosed = pool.connectionsClosed

/-- Closing a network connection leaves the flags alone. -/
theorem sameFlags_closeConn (pool : ConnectionPool) (pc : Nat) :
    SameFlags pool (pool.closeConn pc) := by
  rw [closeConn_eq]
  exact ⟨rfl, rfl⟩

/-- A step of `Get` leaves the flags alone. -/
theorem GetStep.sameFlags {place : GetFrame} (step : GetStep pool place choice next after) :
    SameFlags pool next := by
  cases step with
  | discarded => exact sameFlags_closeConn pool _
  | _ => exact ⟨rfl, rfl⟩

/-- A step of the body of `Close` leaves the flags alone. -/
theorem sameFlags_advanceClose (pool : ConnectionPool) (pc : Nat) (now : Int)
    (place : CloseFrame) : SameFlags pool (pool.advanceClose pc now place).1 := by
  -- The body works on the connection and on the channel.
  cases place with
  | direct => exact sameFlags_closeConn pool pc
  | putSend =>
    simp only [advanceClose, send]
    split
    · exact ⟨rfl, rfl⟩
    · split <;> exact ⟨rfl, rfl⟩
  | putClose => exact sameFlags_closeConn pool pc
  | _ => exact ⟨rfl, rfl⟩

/-- A step of `cleanup` leaves the flags alone. -/
theorem CleanupStep.sameFlags {now : Int} {place : CleanupFrame}
    (step : CleanupStep pool now place choice next after) : SameFlags pool next := by
  cases step with
  | closed => exact sameFlags_closeConn pool _
  | _ => exact ⟨rfl, rfl⟩

/-- The flag is set by the call that closes the pool, and the channel closed right after it. -/
theorem PoolStep.flags (step : PoolStep pool frame choice next after) :
    next.closed = (pool.closed || frame.callsClosePool choice) ∧
      next.connectionsClosed = (pool.connectionsClosed || frame.closesChannel) := by
  -- Inside the other calls, and between calls, the flags stay as they are.
  have unchanged (same : SameFlags pool next) (call : frame.callsClosePool choice = false)
      (channel : frame.closesChannel = false) :
      next.closed = (pool.closed || frame.callsClosePool choice) ∧
        next.connectionsClosed = (pool.connectionsClosed || frame.closesChannel) := by
    rw [call, channel, Bool.or_false, Bool.or_false]
    exact same
  cases step with
  | poolClosed => simp [PoolFrame.callsClosePool, PoolFrame.closesChannel]
  | poolClosedAgain closed => simp [PoolFrame.callsClosePool, PoolFrame.closesChannel, closed]
  | get step => exact unchanged step.sameFlags rfl rfl
  | close => exact unchanged (sameFlags_advanceClose pool _ _ _) rfl rfl
  | cleanup step => exact unchanged step.sameFlags rfl rfl
  | @shutdown place now =>
    cases place with
    | channel => simp [PoolFrame.callsClosePool, PoolFrame.closesChannel, advanceShutdown]
    | drain =>
      apply unchanged _ rfl rfl
      simp only [advanceShutdown]
      split <;> exact ⟨rfl, rfl⟩
    | close pc => exact unchanged (sameFlags_closeConn pool pc) rfl rfl
  | _ => exact unchanged ⟨rfl, rfl⟩ rfl rfl

/-- Only the call that closes the pool begins to shut it down. -/
theorem PoolStep.closesPool (step : PoolStep pool frame choice next after)
    (closing : after.closesPool = true) :
    frame.closesPool = true ∨ frame.callsClosePool choice = true := by
  -- The call goes on to its end without interruption by other calls.
  cases step with
  | poolClosed => exact .inr rfl
  | get step => cases step <;> cases closing
  | @close pc place now =>
    cases place with
    | putSend =>
      simp only [advanceClose, send] at closing
      split at closing
      · cases closing
      · split at closing <;> cases closing
    | _ => cases closing
  | cleanup step => cases step <;> cases closing
  | shutdown => exact .inl rfl
  | _ => cases closing

/-- The call that closes the pool does not use the channel of others. -/
theorem PoolStep.exposed_closePool (step : PoolStep pool frame choice next after)
    (call : frame.callsClosePool choice = true) : after.exposed = false := by
  cases step with
  | poolClosed => rfl
  | poolClosedAgain => rfl
  | _ => cases call

/--
The step after which a goroutine may use the channel of a closed pool.

A cleanup is begun, or `Get` has checked the flag long ago and now finds no slot free.
-/
def exposes (pool : ConnectionPool) : PoolFrame → PoolChoice → Bool
  | .ready _, .cleanup _ => true
  | .get .lock, .run _ => pool.maxSize ≤ pool.activeCount
  | _, _ => false

/-- In a closed pool, nobody else comes to use the channel. -/
theorem PoolStep.exposed (step : PoolStep pool frame choice next after)
    (closed : pool.closed = true) (hidden : frame.exposed = false)
    (exposed : after.exposed = true) : pool.exposes frame choice = true := by
  -- Whoever looks at the flag finds it set.
  cases step with
  | calledCleanup => rfl
  | get step =>
    cases step with
    | admitted usable =>
      rw [closed] at usable
      cases usable
    | @discarded waited => cases waited <;> cases exposed
    | exhausted full => simpa [exposes] using full
    | _ => cases exposed
  | @close pc place now =>
    cases place with
    | test => simp [advanceClose, closed, PoolFrame.exposed, CloseFrame.exposed] at exposed
    | putCheck => simp [advanceClose, closed, PoolFrame.exposed, CloseFrame.exposed] at exposed
    | putMark => cases hidden
    | putSend => cases hidden
    | _ => cases exposed
  | cleanup => cases hidden
  | @shutdown place now =>
    cases place with
    | drain =>
      simp only [advanceShutdown] at exposed
      split at exposed <;> cases exposed
    | _ => cases exposed
  | _ => cases exposed

/-- A goroutine, as far as it goes by itself, begins neither a cleanup nor to wait. -/
abbrev Undisturbed (reached : ConnectionPool × PoolFrame) (choice : PoolChoice) : Prop :=
  reached.1.closed = true → reached.1.exposes reached.2 choice = false

/-- A goroutine gets from one place to another by itself. -/
abbrev Gets : ConnectionPool × PoolFrame → ConnectionPool × PoolFrame → Prop :=
  Leads (fun reached choice => reached.1.advance reached.2 choice) Undisturbed

/-- The goroutine that closes the pool drains its channel to the end. -/
theorem drains (closed : pool.connectionsClosed = true) :
    ∃ drained : ConnectionPool, Gets (pool, .shutdown .drain) (drained, .ready none) ∧
      drained.connections = [] ∧ drained.connectionsClosed = true := by
  -- Each round takes one connection off the channel and closes it.
  generalize waiting : pool.connections = queue
  induction queue generalizing pool with
  | nil =>
    refine ⟨pool, .head (.run 0) (fun _ => rfl) ?_ (.refl _), waiting, closed⟩
    simp [advance, advanceShutdown, waiting]
  | cons pc rest ih =>
    have same := sameFlags_closeConn { pool with connections := rest } pc
    obtain ⟨drained, gets, empty, still⟩ :=
      ih (same.2.trans closed)
        (closeConn_connections _ pc)
    have closes : Gets ({ pool with connections := rest }, .shutdown (.close pc))
        (drained, .ready none) := .head (.run 0) (fun _ => rfl) rfl gets
    refine ⟨drained, .head (.run 0) (fun _ => rfl) ?_ closes, empty, still⟩
    simp [advance, advanceShutdown, waiting]

/-- Receiving from a closed and empty channel is a panic. -/
theorem receive_nil (empty : pool.connections = []) (closed : pool.connectionsClosed = true)
    (andThen : Nat → PoolFrame) : pool.receive andThen = some (pool, .panicked none) := by
  simp [receive, empty, closed]

/-- Whoever is on the way to a closed and empty channel panics, if left to itself. -/
theorem exposed_panics (empty : pool.connections = []) (closed : pool.connectionsClosed = true)
    (exposed : frame.exposed = true) :
    ∃ reached hand, Gets (pool, frame) (reached, .panicked hand) := by
  cases frame with
  | get place =>
    -- Both selects receive a nil connection.
    refine ⟨pool, none, .head .receive (fun _ => ?_) ?_ (.refl _)⟩
    · cases place <;> rfl
    · cases place with
      | select => exact receive_nil empty closed _
      | wait => exact receive_nil empty closed _
      | _ => cases exposed
  | close pc place =>
    have sends (pool : ConnectionPool) (closed : pool.connectionsClosed = true) :
        Gets (pool, .close pc .putSend) (pool, .panicked (some pc)) := by
      refine .head (.run 0) (fun _ => rfl) ?_ (.refl _)
      simp [advance, advanceClose, send, closed]
    cases place with
    | putMark => exact ⟨_, some pc, .head (.run 0) (fun _ => rfl) rfl (sends _ closed)⟩
    | putSend => exact ⟨_, some pc, sends pool closed⟩
    | _ => cases exposed
  | cleanup now place =>
    have receives {pool : ConnectionPool} (empty : pool.connections = [])
        (closed : pool.connectionsClosed = true) :
        Gets (pool, .cleanup now .receive) (pool, .panicked none) :=
      .head .receive (fun _ => rfl) (receive_nil empty closed _) (.refl _)
    have releases {pool : ConnectionPool} (empty : pool.connections = [])
        (closed : pool.connectionsClosed = true) :
        Gets (pool, .cleanup now .release) (pool.releaseSlot, .panicked none) :=
      .head (.run 0) (fun _ => rfl) rfl (receives empty closed)
    have closes (pc : Nat) :
        Gets (pool, .cleanup now (.close pc)) ((pool.closeConn pc).releaseSlot, .panicked none) :=
      .head (.run 0) (fun _ => rfl) rfl
        (releases ((closeConn_connections pool pc).trans empty)
          ((sameFlags_closeConn pool pc).2.trans closed))
    have returns (pc : Nat) :
        Gets (pool, .cleanup now (.putBack pc)) (pool, .panicked (some pc)) := by
      refine .head (.run 0) (fun _ => rfl) ?_ (.refl _)
      simp [advance, advanceCleanup, send, closed]
    cases place with
    | receive => exact ⟨_, _, receives empty closed⟩
    | inspect pc =>
      -- The connection is put back or closed, and either way ends at the channel.
      by_cases valid : (pool.pooled pc).inUse ||
          Go.since now (pool.pooled pc).lastUsed < pool.maxIdleTime
      · refine ⟨_, _, .head (.run 0) (fun _ => rfl) ?_ (returns pc)⟩
        exact if_pos valid
      · refine ⟨_, _, .head (.run 0) (fun _ => rfl) ?_ (closes pc)⟩
        exact if_neg valid
    | putBack pc => exact ⟨_, _, returns pc⟩
    | close pc => exact ⟨_, _, closes pc⟩
    | release => exact ⟨_, _, releases empty closed⟩
  | _ => cases exposed

end ConnectionPool

namespace PoolWorld

variable {world next : PoolWorld} {label : Nat × PoolChoice}

/-- The channel is closed by a goroutine that has set the flag, and nobody panics before. -/
structure Flagged (world : PoolWorld) : Prop where
  channel : world.shared.connectionsClosed = true → world.shared.closed = true
  closers : ∀ thread, (world.frame thread).closesPool = true → world.shared.closed = true
  struck : ∀ thread, (world.frame thread).isPanicked = true → world.shared.connectionsClosed = true

/-- In a closed pool nobody is on the way to the channel, and nobody has panicked at all. -/
structure Hushed (world : PoolWorld) : Prop where
  flagged : world.Flagged
  hidden : world.shared.closed = true → ∀ thread, (world.frame thread).exposed = false
  calm : ∀ thread, (world.frame thread).isPanicked = false

/-- A new pool is open, and nobody has begun to close it. -/
theorem start_flagged (config : PoolConfig) : (start config).Flagged := by
  -- All three facts are about a pool that is being closed.
  refine ⟨?_, ?_, ?_⟩
  · intro closed
    cases closed
  · intro thread closing
    cases closing
  · intro thread panicked
    cases panicked

/-- Every step keeps the flag ahead of the channel, and the channel ahead of any panic. -/
theorem step_flagged (flagged : world.Flagged) (taken : world.step label = some next) :
    next.Flagged := by
  -- The flag stays set, so that what was behind it stays behind it.
  obtain ⟨thread, choice⟩ := label
  obtain ⟨pool, after, step, rfl⟩ := step_inv taken
  obtain ⟨flag, channel⟩ := step.flags
  have stays (closed : world.shared.closed = true) : pool.closed = true := by
    rw [flag, closed, Bool.true_or]
  refine ⟨?_, ?_, ?_⟩
  · intro closed
    change pool.connectionsClosed = true at closed
    rw [channel, Bool.or_eq_true] at closed
    rcases closed with before | closes
    · exact stays (flagged.channel before)
    · apply stays
      apply flagged.closers thread
      revert closes
      fun_cases PoolFrame.closesChannel (world.frame thread) <;> simp_all [PoolFrame.closesPool]
  · apply Threads.forall_frame_update
      fun frame : PoolFrame => frame.closesPool = true → pool.closed = true
    · intro reader closing
      exact stays (flagged.closers reader closing)
    · intro closing
      rcases step.closesPool closing with before | call
      · exact stays (flagged.closers thread before)
      · rw [flag, call, Bool.or_true]
  · apply Threads.forall_frame_update
      fun frame : PoolFrame => frame.isPanicked = true → pool.connectionsClosed = true
    · intro reader panicked
      rw [channel, flagged.struck reader panicked, Bool.true_or]
    · intro panicked
      rw [channel, (step.panicked panicked).2, Bool.true_or]

/-- In every state a run reaches, the flag is ahead of the channel. -/
theorem run_flagged {config : PoolConfig} {trace : List (Nat × PoolChoice)}
    (ran : exec step (start config) trace = some world) : world.Flagged :=
  exec_invariant Flagged (fun _ _ _ flagged taken => step_flagged flagged taken)
    (start_flagged config) ran

/-- When the flag is set, nobody is on the way to the channel. -/
def ClosesQuietly (world : PoolWorld) (label : Nat × PoolChoice) : Prop :=
  world.shared.closed = false → (world.frame label.1).callsClosePool label.2 = true →
    ∀ thread, (world.frame thread).exposed = false

/-- Once the flag is set, no cleanup begins and no `Get` begins to wait. -/
abbrev StaysQuiet (world : PoolWorld) (label : Nat × PoolChoice) : Prop :=
  world.shared.closed = true → world.shared.exposes (world.frame label.1) label.2 = false

/-- A pool that is closed quietly, and stays quiet, never makes anybody panic. -/
theorem step_hushed (hushed : world.Hushed) (closes : world.ClosesQuietly label)
    (stays : world.StaysQuiet label) (taken : world.step label = some next) : next.Hushed := by
  have flagged := step_flagged hushed.flagged taken
  obtain ⟨thread, choice⟩ := label
  obtain ⟨pool, after, step, rfl⟩ := step_inv taken
  refine ⟨flagged, ?_, ?_⟩
  · intro closed
    change pool.closed = true at closed
    cases before : world.shared.closed with
    | true =>
      -- The pool was closed already, and only a step that was ruled out leads to the channel.
      have hidden := hushed.hidden before
      apply Threads.forall_frame_update (fun frame : PoolFrame => frame.exposed = false) hidden
      rw [← Bool.not_eq_true]
      intro exposed
      have ruled := step.exposed before (hidden thread) exposed
      rw [stays before] at ruled
      cases ruled
    | false =>
      -- This is the step that sets the flag.
      rw [step.flags.1, before, Bool.false_or] at closed
      apply Threads.forall_frame_update (fun frame : PoolFrame => frame.exposed = false)
        (closes before closed)
      exact step.exposed_closePool closed
  · apply Threads.forall_frame_update (fun frame : PoolFrame => frame.isPanicked = false)
      hushed.calm
    rw [← Bool.not_eq_true]
    intro panicked
    obtain ⟨exposed, channel⟩ := step.panicked panicked
    rw [hushed.hidden (hushed.flagged.channel channel) thread] at exposed
    cases exposed

/-- Closing an open pool sets the flag, and the goroutine that does it was between calls. -/
theorem step_closePool {closer : Nat} (usable : world.shared.closed = false)
    (taken : world.step (closer, .closePool) = some next) :
    (world.frame closer).exposed = false ∧ next = ⟨{ world.shared with closed := true },
      Function.update world.frame closer (.shutdown .channel)⟩ := by
  -- Only a goroutine between calls can make this call.
  obtain ⟨pool, after, step, rfl⟩ := step_inv taken
  generalize world.frame closer = frame at step
  cases step with
  | poolClosed => exact ⟨rfl, rfl⟩
  | poolClosedAgain closed =>
    rw [usable] at closed
    cases closed
  | get step => cases step
  | cleanup step => cases step

/-- Setting the flag while somebody is on the way to the channel may end in a panic. -/
theorem closing_exposed_panics {closer other : Nat} (usable : world.shared.closed = false)
    (taken : world.step (closer, .closePool) = some next)
    (exposed : (world.frame other).exposed = true) :
    ∃ final : PoolWorld, Leads step StaysQuiet next final ∧
      (final.frame other).isPanicked = true := by
  obtain ⟨hidden, rfl⟩ := step_closePool usable taken
  have differs : other ≠ closer := by
    intro same
    rw [same, hidden] at exposed
    cases exposed
  -- The channel is closed and drained, and then the other goroutine goes on.
  let closedPool := { world.shared with closed := true, connectionsClosed := true }
  obtain ⟨drained, gets, empty, closed⟩ :=
    ConnectionPool.drains (show closedPool.connectionsClosed = true from rfl)
  obtain ⟨reached, hand, panics⟩ := ConnectionPool.exposed_panics empty closed exposed
  have allows (thread : Nat) (world : PoolWorld) (choice : PoolChoice)
      (own : ConnectionPool.Undisturbed (world.shared, world.frame thread) choice) :
      world.StaysQuiet (thread, choice) := own
  have shuts := Threads.leads_solo ⟨{ world.shared with closed := true },
    Function.update world.frame closer (.shutdown .channel)⟩ _ (allows closer)
    (Function.update_self closer _ _)
    (Leads.head (.run 0) (fun _ => rfl) rfl gets : ConnectionPool.Gets _ _)
  rw [Function.update_idem] at shuts
  have strikes := Threads.leads_solo
    ⟨drained, Function.update world.frame closer (.ready none)⟩ _ (allows other)
    (Function.update_of_ne differs _ _) panics
  exact ⟨_, shuts.trans strikes, by simp [PoolFrame.isPanicked]⟩

/-- A pool that has been closed quietly is safe as long as it stays quiet. -/
theorem Hushed.stays {start final : PoolWorld} {trace : List (Nat × PoolChoice)}
    (hushed : start.Hushed) (closed : start.shared.closed = true)
    (quiet : Along step StaysQuiet start trace) (ran : exec step start trace = some final) :
    final.Hushed := by
  -- The flag stays set, so that nobody sets it again.
  refine (exec_invariant_along (fun world => world.Hushed ∧ world.shared.closed = true)
    ?_ ⟨hushed, closed⟩ quiet ran).1
  intro world label next holds stays taken
  rcases holds with ⟨hushed, closed⟩
  constructor
  · apply step_hushed hushed _ stays taken
    intro usable
    rw [closed] at usable
    cases usable
  · obtain ⟨pool, after, step, rfl⟩ := step_inv taken
    rw [step.flags.1, closed, Bool.true_or]

/--
Closing a pool is safe in a run that closes it quietly and keeps it quiet, and only then.

Nobody panics in such a run, and no `Get` waits in a closed pool.
If instead somebody is on the way to the channel when the flag is set, the run may go on,
quietly, to a panic.
-/
theorem close_safe_iff_quiet {config : PoolConfig} {trace : List (Nat × PoolChoice)}
    (ran : exec step (start config) trace = some world) :
    (Along step ClosesQuietly (start config) trace → Along step StaysQuiet (start config) trace →
      ∀ thread, (world.frame thread).isPanicked = false ∧
        (world.shared.closed = true → world.frame thread ≠ .get .wait)) ∧
    ∀ closer closing, world.shared.closed = false →
      world.step (closer, .closePool) = some closing →
      ((∀ later final, Along step StaysQuiet closing later → exec step closing later = some final →
          ∀ thread, (final.frame thread).isPanicked = false) ↔
        ∀ thread, (world.frame thread).exposed = false) := by
  have flagged := run_flagged ran
  constructor
  · intro closes stays
    have hushed := exec_invariant_along Hushed
      (fun _ _ _ hushed met taken => step_hushed hushed met.1 met.2 taken)
      ⟨start_flagged config, fun _ _ => rfl, fun _ => rfl⟩
      ((along_and _ _).mpr ⟨closes, stays⟩) ran
    intro thread
    refine ⟨hushed.calm thread, ?_⟩
    intro closed waiting
    have hidden := hushed.hidden closed thread
    rw [waiting] at hidden
    cases hidden
  · intro closer closing usable taken
    constructor
    · -- Whoever is on the way to the channel could go on to a panic.
      intro safe thread
      rw [← Bool.not_eq_true]
      intro exposed
      obtain ⟨final, ⟨later, meets, reached⟩, panicked⟩ :=
        closing_exposed_panics usable taken exposed
      rw [safe later final meets reached thread] at panicked
      cases panicked
    · intro hidden later final meets reached
      -- Nobody has panicked while the pool was open.
      have open_ : world.Hushed := by
        refine ⟨flagged, ?_, ?_⟩
        · intro closed
          rw [usable] at closed
          cases closed
        · intro thread
          rw [← Bool.not_eq_true]
          intro panicked
          rw [flagged.channel (flagged.struck thread panicked)] at usable
          cases usable
      have closed : closing.Hushed := by
        apply step_hushed open_ (fun _ _ => hidden) _ taken
        intro closed
        rw [usable] at closed
        cases closed
      apply (closed.stays _ meets reached).calm
      rw [(step_closePool usable taken).2]

/-- A pool that only one goroutine uses is closed quietly. -/
theorem closesQuietly_of_single {config : PoolConfig} {trace : List (Nat × PoolChoice)} {only : Nat}
    (single : ∀ label ∈ trace, label.1 = only) :
    Along step ClosesQuietly (start config) trace := by
  -- The other goroutines have made no call, and this one is between calls when it closes the pool.
  have alone : Along step (fun _ label => label.1 = only) (start config) trace :=
    along_of_forall_mem _ fun label member _ => single label member
  have named : ∀ label ∈ trace, label.1 ∈ [only] :=
    fun label member => List.mem_singleton.mpr (single label member)
  refine along_of_invariant (fun _ => True) (fun _ _ _ _ _ _ => trivial) ?_ trivial
    ((along_and _ _).mpr ⟨alone, Threads.along_bystanders (start config) [only] named⟩)
  intro world label _ meets _ call thread
  rcases meets with ⟨mine, rest⟩
  by_cases same : thread = only
  · rw [same, ← mine]
    generalize world.frame label.1 = frame at call
    cases frame with
    | ready error => rfl
    | _ => cases call
  · rw [rest thread (List.mem_singleton.not.mpr same)]
    rfl

/-- A goroutine returns its connection, closes the pool, and asks for a connection again. -/
def closeAndAsk : List (Nat × PoolChoice) :=
  firstUse ++ [.closePool, .run 0, .run 0, .run 0, .run 0, .get, .run 0].map (0, ·)

/-- A pool closed by its only user turns that user away afterwards. -/
theorem closed_pool_refuses : ∃ world, exec step (start oneSlot) closeAndAsk = some world ∧
    world.shared.closed = true ∧ world.frame 0 = .ready (some .poolClosed) ∧
      ∀ thread, (world.frame thread).isPanicked = false := by
  -- There is no second goroutine to be on the way to the channel.
  have ran : exec step (start oneSlot) closeAndAsk = some _ := rfl
  have closes : Along step ClosesQuietly (start oneSlot) closeAndAsk :=
    closesQuietly_of_single (by decide : ∀ label ∈ closeAndAsk, label.1 = 0)
  have stays : Along step StaysQuiet (start oneSlot) closeAndAsk := by decide
  exact ⟨_, ran, rfl, rfl, fun thread => ((close_safe_iff_quiet ran).1 closes stays thread).1⟩

/-- The only connection is in use, and another goroutine waits for it. -/
def waitForConnection : List (Nat × PoolChoice) :=
  [.get, .run 0, .default, .run 0, .dialed 0].map (0, ·) ++
    [.get, .run 0, .default, .run 0].map (1, ·)

/-- The only connection has passed the check of the flag on its way back. -/
def returnPastCheck : List (Nat × PoolChoice) :=
  [.get, .run 0, .default, .run 0, .dialed 0, .close, .run 0, .run 0].map (0, ·)

/-- A third goroutine closes the pool to the end. -/
def closeMeanwhile : List (Nat × PoolChoice) :=
  [.closePool, .run 0, .run 0].map (2, ·)

/--
Closing the pool makes a waiting `Get` panic on a nil connection, and a returning connection
panic on the closed channel.
-/
theorem close_makes_others_panic :
    (∃ world final, exec step (start oneSlot) waitForConnection = some world ∧
      world.frame 1 = .get .wait ∧
      exec step world (closeMeanwhile ++ [(1, .receive)]) = some final ∧
      final.frame 1 = .panicked none) ∧
    ∃ world final, exec step (start oneSlot) returnPastCheck = some world ∧
      world.frame 0 = .close 0 .putMark ∧
      exec step world (closeMeanwhile ++ [(0, .run 0), (0, .run 0)]) = some final ∧
      final.frame 0 = .panicked (some 0) :=
  -- Both runs evaluate.
  ⟨⟨_, _, rfl, rfl, rfl, rfl⟩, _, _, rfl, rfl, rfl, rfl⟩

end PoolWorld

end Balance
