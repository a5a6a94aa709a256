import Balance.Machine.Errands
import Balance.Machine.Progress
import Balance.Proxy.AcceptLoop

/-! What the counters of a TCP server say in every state, and what a shutdown can rely on. -/

namespace Balance

open Machine

namespace ServerFrame

/-- What a goroutine has in the wait group, by itself and for a goroutine it is about to create. -/
def awaited : ServerFrame → Int
  | .acceptLoop (.spawn _) => 2
  | .acceptLoop _ => 1
  | .handleConnection _ _ => 1
  | _ => 0

/-- A handler between the two updates of the count of active connections. -/
def active : ServerFrame → Bool
  | .handleConnection _ .count => false
  | .handleConnection _ .activate => false
  | .handleConnection _ (.closeClient _) => false
  | .handleConnection _ (.leave _) => false
  | .handleConnection _ _ => true
  | _ => false

/-- The backend that counts a handler among its connections. -/
def counting : ServerFrame → Option Nat
  | .handleConnection _ (.dial b) => some b
  | .handleConnection _ (.markUnhealthy b) => some b
  | .handleConnection _ (.proxyData b) => some b
  | .handleConnection _ (.decrement b) => some b
  | _ => none

/-- A connection that was accepted and is not yet counted is in the hands of this goroutine. -/
def uncounted : ServerFrame → Bool
  | .acceptLoop (.add _) => true
  | .acceptLoop (.spawn _) => true
  | .handleConnection _ .count => true
  | _ => false

/-- The client connection that a goroutine has to see to. -/
def conn : ServerFrame → Option Nat
  | .acceptLoop (.add conn) => some conn
  | .acceptLoop (.spawn conn) => some conn
  | .handleConnection _ (.leave _) => none
  | .handleConnection conn _ => some conn
  | _ => none

/-- A goroutine that has seen the wait group at zero, or has been told so. -/
def assured : ServerFrame → Bool
  | .waiter _ .close => true
  | .ready (some .allClosed) => true
  | _ => false

/-- How many steps a goroutine takes at most once the context is cancelled. -/
def remaining : ServerFrame → Nat
  | .ready _ => 0
  | .acceptLoop .accept => 3
  | .acceptLoop .check => 2
  | .acceptLoop .leave => 1
  -- The connection that has been accepted is still to be handled.
  | .acceptLoop (.add _) => 17
  | .acceptLoop (.spawn _) => 16
  | .handleConnection _ .count => 11
  | .handleConnection _ .activate => 10
  | .handleConnection _ .select => 9
  | .handleConnection _ (.increment _) => 8
  | .handleConnection _ (.dial _) => 7
  | .handleConnection _ (.markUnhealthy _) => 6
  | .handleConnection _ (.proxyData _) => 6
  | .handleConnection _ (.decrement _) => 5
  | .handleConnection _ (.deactivate _) => 4
  | .handleConnection _ (.closeClient _) => 3
  | .handleConnection _ (.leave _) => 2
  | .panic => 1
  | .shutdown _ .cancel => 7
  | .shutdown _ .closeListener => 6
  | .shutdown _ .spawn => 5
  | .shutdown _ .select => 1
  | .waiter _ .wait => 2
  | .waiter _ .close => 1

/-- Who has no step left to take is ready for another call. -/
theorem eq_ready_of_remaining {frame : ServerFrame} (none : frame.remaining = 0) :
    ∃ outcome, frame = .ready outcome := by
  unfold remaining at none
  split at none
  case h_1 outcome => exact ⟨outcome, rfl⟩
  all_goals cases none

/-- Nobody has less than nothing in the wait group. -/
theorem awaited_nonneg (frame : ServerFrame) : 0 ≤ frame.awaited := by
  unfold awaited
  split
  · decide
  · decide
  · decide
  · decide

end ServerFrame

namespace TcpServer

open ServerFrame

variable {clientIP : Nat → List UInt8} {server next : TcpServer} {frame after : ServerFrame}
  {choice : ServerChoice}

/-- The client connections as errands: those to begin with, those closed, and those accepted. -/
def conns (server : TcpServer) : Errands :=
  ⟨server.starting, server.closed, server.accepted⟩

/-- The wait group, without the goroutines that have not begun. -/
def running (server : TcpServer) : Int := server.wg - server.starting.length

/-- How many connections are counted later than they were accepted. -/
def pending (server : TcpServer) : Int :=
  server.accepted - server.starting.length - server.totalConnections

namespace Step

/-- The wait group changes by what the mover has in it. -/
theorem awaited_booked (step : Step clientIP server frame choice next after) :
    after.awaited - frame.awaited = next.running - server.running := by
  -- A connection that begins was in the wait group before, by the accept loop's doing.
  cases step with
  | handlerBegun front => simp [awaited, running, front]
  | _ => simp [awaited, running]

/-- The count of active connections changes by what the mover has in it. -/
theorem active_booked (step : Step clientIP server frame choice next after) :
    (if after.active then 1 else 0) - (if frame.active then 1 else 0) =
      next.activeConnections - server.activeConnections := by
  cases step with
  | _ => simp [active]

/-- The count of uncounted connections changes by what the mover has in it. -/
theorem uncounted_booked (step : Step clientIP server frame choice next after) :
    (if after.uncounted then 1 else 0) - (if frame.uncounted then 1 else 0) =
      next.pending - server.pending := by
  cases step with
  | handlerBegun front => simp [uncounted, pending, front]
  | _ => simp [uncounted, pending]

/-- The connections of a backend change by what the mover has among them. -/
theorem counting_booked (step : Step clientIP server frame choice next after) (b : Nat) :
    (if after.counting = some b then 1 else 0) - (if frame.counting = some b then 1 else 0) =
      (next.heap b).activeConnections - (server.heap b).activeConnections := by
  -- Marking a backend unhealthy leaves its count alone.
  cases step with
  | @incremented conn c =>
    by_cases same : b = c
    · subst same
      simp [counting, BackendHeap.incrementConnections, BackendHeap.addConnections]
    · simp [counting, BackendHeap.incrementConnections, BackendHeap.addConnections, same,
        Ne.symm same]
  | @decremented conn c =>
    by_cases same : b = c
    · subst same
      simp [counting, BackendHeap.decrementConnections, BackendHeap.addConnections]
    · simp [counting, BackendHeap.decrementConnections, BackendHeap.addConnections, same,
        Ne.symm same]
  | @marked conn c => simp [counting, BackendHeap.markUnhealthy, BackendHeap.storeHealthy_apply]
  | _ => simp [counting]

/-- A connection is accepted, handed to its goroutine, and closed by it, and is never dropped. -/
theorem conn_moved (step : Step clientIP server frame choice next after) :
    Errands.Move server.conns frame.conn next.conns after.conn ∧
      (next.conns = server.conns → after.conn = frame.conn) := by
  -- The steps that change neither list nor number leave every connection where it is.
  cases step with
  | connected => exact ⟨.issue _, fun same => by simp [conns] at same⟩
  | spawned => exact ⟨.give _ _, fun same => by simp [conns] at same⟩
  | clientClosed => exact ⟨.finish _ _, fun same => by simp [conns] at same⟩
  | handlerBegun front =>
    refine ⟨.take front, ?_⟩
    intro same
    simp [conns, front] at same
  | _ => exact ⟨.keep _ _, fun _ => rfl⟩

/-- Nobody who is not in the wait group changes it, or accepts a connection. -/
theorem unawaited (step : Step clientIP server frame choice next after)
    (idle : frame.awaited = 0) : next.wg = server.wg ∧ next.accepted = server.accepted := by
  cases step with
  | connected => cases idle
  | added => cases idle
  | acceptEnded => cases idle
  | handlerEnded => cases idle
  | handlerPanicked => cases idle
  | _ => exact ⟨rfl, rfl⟩

/-- Who is assured has seen the wait group at zero, or a channel that is closed. -/
theorem assured (step : Step clientIP server frame choice next after)
    (told : after.assured = true) : server.wg = 0 ∨ server.done ≠ [] := by
  cases step with
  | waited zero => exact .inl zero
  | allClosed signalled => exact .inr (List.ne_nil_of_mem signalled)
  | _ => cases told

/-- Only who is assured closes a channel. -/
theorem signals (step : Step clientIP server frame choice next after)
    (closed : next.done ≠ []) : server.done ≠ [] ∨ frame.assured = true := by
  cases step with
  | signalled => exact .inr rfl
  | _ => exact .inl closed

end Step

/-- The counters say where the goroutines stand, and no connection is lost. -/
structure Accounted (heap : BackendHeap) (world : Threads TcpServer ServerFrame) : Prop where
  waitGroup : world.Counts running awaited
  active : world.Counts activeConnections fun frame => if frame.active then 1 else 0
  uncounted : world.Counts pending fun frame => if frame.uncounted then 1 else 0
  backends : ∀ b, world.Counts
    (fun server => (server.heap b).activeConnections - (heap b).activeConnections)
    fun frame => if frame.counting = some b then 1 else 0
  sound : world.shared.conns.Sound fun thread => (world.frame thread).conn
  whole : world.shared.conns.Whole fun thread => (world.frame thread).conn

variable {heap : BackendHeap} {pool : Pool} {balancer : LoadBalancer}
  {world later : Threads TcpServer ServerFrame} {trace : List (Nat × ServerChoice)}

/-- Where no goroutine has a share, and the measure is zero, it is counted. -/
theorem counts_start {measure : TcpServer → Int} {share : ServerFrame → Int}
    (none : ∀ thread, share ((start heap pool balancer).frame thread) = 0)
    (zero : measure (listening heap pool balancer) = 0) :
    (start heap pool balancer).Counts measure share := by
  have nobody : (fun thread => share ((start heap pool balancer).frame thread)) = fun _ => 0 :=
    funext none
  have total : measure (start heap pool balancer).shared = 0 := zero
  unfold Threads.Counts
  rw [nobody, total]
  exact tallies_zero

/-- When the server has been started, the accept loop alone is in the wait group. -/
theorem accounted_start : Accounted heap (start heap pool balancer) where
  waitGroup := by
    -- `Start` has added one for it.
    refine ⟨{0}, ?_, ?_⟩
    · intro thread outside
      cases thread with
      | zero => simp at outside
      | succ thread => rfl
    · simp [start, awaited, running, listening]
  active := counts_start (fun thread => by cases thread <;> rfl) rfl
  uncounted := counts_start (fun thread => by cases thread <;> rfl) rfl
  backends b := counts_start (fun thread => by cases thread <;> rfl) (sub_self _)
  sound := by
    have free : (fun thread => ((start heap pool balancer).frame thread).conn) = fun _ => none :=
      funext fun thread => by cases thread <;> rfl
    rw [free]
    exact Errands.sound_empty
  whole := fun _ below => absurd below (Nat.not_lt_zero _)

/-- Every step keeps the accounts. -/
theorem Accounted.step (accounts : Accounted heap world) {label : Nat × ServerChoice}
    (taken : world.step (advance clientIP) label = some later) : Accounted heap later := by
  -- Each counter changes by the share of the mover, and nobody else's share changes.
  obtain ⟨shared, after, step, rfl⟩ := Threads.exists_advance advance_step taken
  have moved := step.conn_moved
  refine ⟨accounts.waitGroup.advance step.awaited_booked,
    accounts.active.advance step.active_booked,
    accounts.uncounted.advance step.uncounted_booked, fun b => ?_, ?_, ?_⟩
  · apply (accounts.backends b).advance
    have booked := step.counting_booked b
    omega
  · have kept := accounts.sound.move rfl moved.1
    rwa [← Threads.read_update] at kept
  · have kept := accounts.whole.move rfl moved.1 moved.2
    rwa [← Threads.read_update] at kept

/-- The wait group is never less than what waits to begin. -/
theorem Accounted.starting_le (accounts : Accounted heap world) :
    (world.shared.starting.length : Int) ≤ world.shared.wg := by
  have nonneg : 0 ≤ world.shared.running :=
    accounts.waitGroup.nonneg fun thread => awaited_nonneg _
  unfold running at nonneg
  omega

/-- Once the wait group is at zero, no connection waits to begin. -/
theorem Accounted.starting_nil (accounts : Accounted heap world) (zero : world.shared.wg = 0) :
    world.shared.starting = [] := by
  have fits := accounts.starting_le
  rw [zero] at fits
  exact List.eq_nil_of_length_eq_zero (by omega)

/-- Once the wait group is at zero, no goroutine is in it. -/
theorem Accounted.unawaited (accounts : Accounted heap world) (zero : world.shared.wg = 0)
    (thread : Nat) : (world.frame thread).awaited = 0 := by
  apply accounts.waitGroup.forall_zero awaited_nonneg
  rw [running, zero, accounts.starting_nil zero]
  rfl

/-- A wait group at zero stays there, and no connection is accepted any more. -/
theorem Accounted.wg_zero_step (accounts : Accounted heap world) (zero : world.shared.wg = 0)
    {label : Nat × ServerChoice} (taken : world.step (advance clientIP) label = some later) :
    later.shared.wg = 0 ∧ later.shared.accepted = world.shared.accepted := by
  obtain ⟨shared, after, step, rfl⟩ := Threads.exists_advance advance_step taken
  obtain ⟨same, accepted⟩ := step.unawaited (accounts.unawaited zero label.1)
  exact ⟨same.trans zero, accepted⟩

/-- Nothing is left of the work of a server. -/
structure Drained (heap : BackendHeap) (world : Threads TcpServer ServerFrame) : Prop where
  waitGroup : world.shared.wg = 0
  loop : ∀ thread place, world.frame thread ≠ .acceptLoop place
  handlers : ∀ thread conn place, world.frame thread ≠ .handleConnection conn place
  starting : world.shared.starting = []
  active : world.shared.activeConnections = 0
  /-- Every backend counts as many connections as before the server was started. -/
  backends : ∀ b, (world.shared.heap b).activeConnections = (heap b).activeConnections
  total : world.shared.totalConnections = world.shared.accepted
  /-- Each connection that was accepted was closed, once. -/
  closed : world.shared.closed.Perm (List.range world.shared.accepted)

/-- Once the wait group is at zero, nothing is left. -/
theorem Accounted.drained (accounts : Accounted heap world) (zero : world.shared.wg = 0) :
    Drained heap world := by
  have idle := accounts.unawaited zero
  have empty := accounts.starting_nil zero
  have loop : ∀ thread place, world.frame thread ≠ .acceptLoop place := by
    intro thread place stands
    have none := idle thread
    rw [stands] at none
    cases place <;> cases none
  have handlers : ∀ thread conn place, world.frame thread ≠ .handleConnection conn place := by
    intro thread conn place stands
    have none := idle thread
    rw [stands] at none
    cases none
  -- Who is neither the accept loop nor a handler has a share in no counter.
  have others (thread : Nat) : (world.frame thread).active = false ∧
      (world.frame thread).uncounted = false ∧ (world.frame thread).counting = none ∧
      (world.frame thread).conn = none := by
    cases stands : world.frame thread with
    | acceptLoop place => exact absurd stands (loop thread place)
    | handleConnection conn place => exact absurd stands (handlers thread conn place)
    | _ => exact ⟨rfl, rfl, rfl, rfl⟩
  have pending : world.shared.pending = 0 :=
    accounts.uncounted.eq_zero fun thread => by simp [(others thread).2.1]
  refine ⟨zero, loop, handlers, empty, ?_, ?_, ?_, ?_⟩
  · exact accounts.active.eq_zero fun thread => by simp [(others thread).1]
  · intro b
    have counted := (accounts.backends b).eq_zero fun thread => by simp [(others thread).2.2.1]
    omega
  · rw [TcpServer.pending, empty, List.length_nil] at pending
    omega
  · exact accounts.sound.finished_perm accounts.whole empty fun thread => (others thread).2.2.2

/-- Who is told that all connections are closed is told the truth. -/
structure Truthful (heap : BackendHeap) (world : Threads TcpServer ServerFrame) : Prop where
  accounts : Accounted heap world
  frames : ∀ thread, (world.frame thread).assured = true → world.shared.wg = 0
  done : world.shared.done ≠ [] → world.shared.wg = 0

/-- At first nobody has been told anything. -/
theorem truthful_start : Truthful heap (start heap pool balancer) where
  accounts := accounted_start
  frames := by
    intro thread told
    cases thread <;> cases told
  done := fun closed => absurd rfl closed

/-- Every step keeps to the truth. -/
theorem Truthful.step (truthful : Truthful heap world) {label : Nat × ServerChoice}
    (taken : world.step (advance clientIP) label = some later) : Truthful heap later := by
  have stays : world.shared.wg = 0 → later.shared.wg = 0 :=
    fun zero => (truthful.accounts.wg_zero_step zero taken).1
  have accounts := truthful.accounts.step taken
  obtain ⟨shared, after, step, rfl⟩ := Threads.exists_advance advance_step taken
  refine ⟨accounts, ?_, ?_⟩
  · -- What was true of the wait group stays true of it.
    refine Threads.forall_frame_update
      (fun frame : ServerFrame => frame.assured = true → shared.wg = 0)
      (fun thread told => stays (truthful.frames thread told)) ?_
    intro told
    rcases step.assured told with zero | signalled
    · exact stays zero
    · exact stays (truthful.done signalled)
  · intro closed
    rcases step.signals closed with signalled | told
    · exact stays (truthful.done signalled)
    · exact stays (truthful.frames label.1 told)

/-- In every state of every run, who is told that all connections are closed is told the truth. -/
theorem truthful_of_exec
    (ran : exec (Threads.step (advance clientIP)) (start heap pool balancer) trace = some world) :
    Truthful heap world :=
  exec_invariant (Truthful heap) (fun _ _ _ truthful taken => truthful.step taken)
    truthful_start ran

/--
When a call of `Shutdown` has returned because all connections are closed, the accept loop and all
handlers have ended for good, every connection accepted was closed once, and all counts are settled.
-/
theorem shutdown_drained {more : List (Nat × ServerChoice)} {thread : Nat}
    (ran : exec (Threads.step (advance clientIP)) (start heap pool balancer) trace = some world)
    (returned : world.frame thread = .ready (some .allClosed))
    (further : exec (Threads.step (advance clientIP)) world more = some later) :
    Drained heap world ∧ Drained heap later ∧
      later.shared.accepted = world.shared.accepted := by
  have truthful := truthful_of_exec ran
  have zero : world.shared.wg = 0 := truthful.frames thread (by rw [returned]; rfl)
  -- The wait group stays at zero, whatever is called afterwards.
  have stays := exec_invariant
    (fun later => Accounted heap later ∧ later.shared.wg = 0 ∧
      later.shared.accepted = world.shared.accepted)
    (fun state label next holds taken => by
      obtain ⟨accounts, zero, same⟩ := holds
      obtain ⟨still, accepted⟩ := accounts.wg_zero_step zero taken
      exact ⟨accounts.step taken, still, accepted.trans same⟩)
    ⟨truthful.accounts, zero, rfl⟩ further
  exact ⟨truthful.accounts.drained zero, stays.1.drained stays.2.1, stays.2.2⟩

/--
In every state of every run, the wait group is not negative and is never added to at zero, and the
counts of active connections are the numbers of handlers between the two updates of each.
-/
theorem server_counters
    (ran : exec (Threads.step (advance clientIP)) (start heap pool balancer) trace = some world) :
    0 ≤ world.shared.wg ∧
      (∀ thread conn, world.frame thread = .acceptLoop (.add conn) → 0 < world.shared.wg) ∧
      (∃ handlers : Finset Nat,
        (∀ thread, thread ∈ handlers ↔ (world.frame thread).active = true) ∧
        world.shared.activeConnections = handlers.card) ∧
      ∀ b, ∃ handlers : Finset Nat,
        (∀ thread, thread ∈ handlers ↔ (world.frame thread).counting = some b) ∧
        (world.shared.heap b).activeConnections = (heap b).activeConnections + handlers.card := by
  have accounts := (truthful_of_exec ran).accounts
  have fits := accounts.starting_le
  refine ⟨by omega, ?_, accounts.active.card, ?_⟩
  · -- The accept loop that adds is itself in the wait group.
    intro thread conn stands
    have own := accounts.waitGroup.share_le awaited_nonneg thread
    rw [stands, running] at own
    have one : awaited (.acceptLoop (.add conn)) = 1 := rfl
    omega
  · -- The count of a backend may have begun with any number.
    intro b
    have counts : Tallies
        (fun thread => if decide ((world.frame thread).counting = some b) then 1 else 0)
        ((world.shared.heap b).activeConnections - (heap b).activeConnections) := by
      simp only [decide_eq_true_eq]
      exact accounts.backends b
    obtain ⟨handlers, listed, total⟩ := counts.card
    refine ⟨handlers, fun thread => by simp [listed], ?_⟩
    omega

/-- One backend, and a client who is served before the server is shut down. -/
def oneClientServed : List (Nat × ServerChoice) :=
  [(0, .connect), (0, .run), (0, .run), (1, .beginHandler), (1, .run), (1, .run), (1, .run),
    (1, .run), (1, .reached), (2, .callShutdown), (2, .run), (2, .run), (2, .run),
    (0, .acceptFailed), (0, .run), (0, .run), (3, .beginWaiter), (1, .ended), (1, .run),
    (1, .run), (1, .run), (1, .run), (3, .run), (3, .run), (2, .allClosed)]

/-- A server with one backend, to which its clients go in turn. -/
def oneBackend : Threads TcpServer ServerFrame :=
  start (fun _ => newBackend "a" "a:1" 1) [0] (.roundRobin ⟨0⟩)

/-- The server above shuts down with nothing left. -/
theorem shutdown_drained_oneClient :
    ∃ world, exec (Threads.step (advance fun _ => bytesOf "10.0.0.1")) oneBackend oneClientServed =
        some world ∧
      world.frame 2 = .ready (some .allClosed) ∧ world.shared.accepted = 1 ∧
      Drained (fun _ => newBackend "a" "a:1" 1) world := by
  obtain ⟨world, ran, returned, accepted⟩ :
      ∃ world, exec (Threads.step (advance fun _ => bytesOf "10.0.0.1")) oneBackend oneClientServed =
          some world ∧
        world.frame 2 = .ready (some .allClosed) ∧ world.shared.accepted = 1 :=
    ⟨_, rfl, rfl, rfl⟩
  exact ⟨world, ran, returned, accepted, (shutdown_drained ran returned (exec_nil world)).1⟩

/-- The counters of the server above agree with its handlers in the middle of the run. -/
theorem server_counters_oneClient :
    ∃ world, exec (Threads.step (advance fun _ => bytesOf "10.0.0.1")) oneBackend
        (oneClientServed.take 9) = some world ∧
      world.frame 1 = .handleConnection 0 (.proxyData 0) ∧ 0 ≤ world.shared.wg := by
  obtain ⟨world, ran, stands⟩ :
      ∃ world, exec (Threads.step (advance fun _ => bytesOf "10.0.0.1")) oneBackend
          (oneClientServed.take 9) = some world ∧
        world.frame 1 = .handleConnection 0 (.proxyData 0) :=
    ⟨_, rfl, rfl⟩
  exact ⟨world, ran, stands, (server_counters ran).1⟩

/-- A step for which no client connects, nobody calls `Shutdown`, and no timer expires. -/
def Quiet (_ : Threads TcpServer ServerFrame) (label : Nat × ServerChoice) : Prop :=
  label.2 ∉ [.connect, .callShutdown, .timeout]

/-- What the goroutines that have not begun will take, in steps. -/
def toBegin (server : TcpServer) : Nat := 12 * server.starting.length + 3 * server.waiting.length

/-- There is a step with which a goroutine comes closer to its end. -/
def Lowers (clientIP : Nat → List UInt8) (server : TcpServer) (frame : ServerFrame) : Prop :=
  ∃ choice next after, server.advance clientIP frame choice = some (next, after) ∧
    choice ∉ [.connect, .callShutdown, .timeout] ∧
    after.remaining + next.toBegin < frame.remaining + server.toBegin

/-- A server that has not crashed goes on. -/
theorem advance_alive (alive : server.crashed = false) :
    server.advance clientIP frame choice = server.advanceRunning clientIP frame choice := by
  rw [advance, alive, if_neg Bool.false_ne_true]

/-- The accept loop comes closer to its end once the context is cancelled. -/
theorem lowers_acceptLoop (alive : server.crashed = false) (cancelled : server.cancelled = true)
    (place : AcceptFrame) : Lowers clientIP server (.acceptLoop place) := by
  -- `Accept` fails on a closed listener, and then the context is found cancelled.
  cases place with
  | accept => exact ⟨.acceptFailed, _, _, advance_alive alive, by decide, by simp [remaining]⟩
  | check =>
    refine ⟨.run, server, .acceptLoop .leave, ?_, by decide, by simp [remaining]⟩
    simp [advance_alive alive, advanceRunning, advanceAccept, cancelled]
  | add conn =>
    exact ⟨.run, _, _, advance_alive alive, by decide, by simp [remaining, toBegin]⟩
  | spawn conn =>
    refine ⟨.run, _, _, advance_alive alive, by decide, ?_⟩
    simp only [remaining, toBegin, List.length_append, List.length_singleton]
    omega
  | leave => exact ⟨.run, _, _, advance_alive alive, by decide, by simp [remaining, toBegin]⟩

/-- A handler comes closer to its end, whether it gets a backend or not. -/
theorem lowers_handleConnection (alive : server.crashed = false) (conn : Nat)
    (place : ConnFrame) : Lowers clientIP server (.handleConnection conn place) := by
  cases place with
  | select =>
    rcases selection : server.balancer.selectFor server.heap server.pool (clientIP conn) with
      ⟨balancer, failed | _ | b⟩
    · refine ⟨.run, { server with balancer := balancer }, .handleConnection conn (.deactivate true),
        ?_, by decide, by simp [remaining, toBegin]⟩
      simp [advance_alive alive, advanceRunning, advanceConn, selection]
    · refine ⟨.run, { server with balancer := balancer },
        .handleConnection conn (.deactivate false), ?_, by decide, by simp [remaining, toBegin]⟩
      simp [advance_alive alive, advanceRunning, advanceConn, selection]
    · refine ⟨.run, { server with balancer := balancer }, .handleConnection conn (.increment b),
        ?_, by decide, by simp [remaining, toBegin]⟩
      simp [advance_alive alive, advanceRunning, advanceConn, selection]
  -- The connection is not reached, as the context is cancelled, and a copy comes to its end.
  | dial b => exact ⟨.failed, _, _, advance_alive alive, by decide, by simp [remaining]⟩
  | proxyData b => exact ⟨.ended, _, _, advance_alive alive, by decide, by simp [remaining]⟩
  | leave panicking =>
    refine ⟨.run, _, _, advance_alive alive, by decide, ?_⟩
    cases panicking <;> simp [remaining, toBegin]
  | _ => exact ⟨.run, _, _, advance_alive alive, by decide, by simp [remaining, toBegin]⟩

/-- A call of `Shutdown` can count on its channel: somebody has to close it, or has closed it. -/
def Promise (call : Nat) (world : Threads TcpServer ServerFrame) : Prop :=
  call ∈ world.shared.waiting ∨ (∃ thread place, world.frame thread = .waiter call place) ∨
    call ∈ world.shared.done

/-- What a call of `Shutdown` has arranged by the time that it waits. -/
structure Arranged (world : Threads TcpServer ServerFrame) : Prop where
  cancelled : ∀ thread call place, world.frame thread = .shutdown call place →
    place = .cancel ∨ world.shared.cancelled = true
  promised : ∀ thread call, world.frame thread = .shutdown call .select → Promise call world

namespace Step

/-- A goroutine that waits to begin still waits, unless it is the one that begins. -/
theorem waiting (step : Step clientIP server frame choice next after) {call : Nat}
    (waits : call ∈ server.waiting) : call ∈ next.waiting ∨ after = .waiter call .wait := by
  cases step with
  | waiterSpawned => exact .inl (List.mem_append_left _ waits)
  | waiterBegun front =>
    rw [front] at waits
    rcases List.mem_cons.mp waits with rfl | later
    · exact .inr rfl
    · exact .inl later
  | _ => exact .inl waits

/-- A goroutine that waits for the connections goes on until it closes its channel. -/
theorem waiter {call : Nat} {place : WaiterFrame}
    (step : Step clientIP server (.waiter call place) choice next after) :
    (∃ place, after = .waiter call place) ∨ call ∈ next.done := by
  -- It has two steps, and the second closes the channel.
  cases step with
  | waited => exact .inl ⟨_, rfl⟩
  | signalled => exact .inr (List.mem_append_right _ List.mem_cons_self)

/-- A closed channel stays closed, and so does a cancelled context. -/
theorem lasting (step : Step clientIP server frame choice next after) :
    (∀ call ∈ server.done, call ∈ next.done) ∧
      (server.cancelled = true → next.cancelled = true) := by
  cases step with
  | signalled => exact ⟨fun call closed => List.mem_append_left _ closed, id⟩
  | cancelled => exact ⟨fun _ => id, fun _ => rfl⟩
  | _ => exact ⟨fun _ => id, id⟩

/-- A call of `Shutdown` waits only after it has created the goroutine that tells it. -/
theorem arranges (step : Step clientIP server frame choice next after) {call : Nat}
    {place : ServerStopFrame} (stops : after = .shutdown call place) :
    (place = .cancel ∨ next.cancelled = true ∨
      ∃ before, frame = .shutdown call before ∧ before ≠ .cancel) ∧
    (place = .select → call ∈ next.waiting) := by
  -- The calls are made in order: cancel, close the listener, create the goroutine, wait.
  cases step with
  | shutdownCalled =>
    cases stops
    exact ⟨.inl rfl, by simp⟩
  | cancelled =>
    cases stops
    exact ⟨.inr (.inl rfl), by simp⟩
  | listenerClosed =>
    cases stops
    exact ⟨.inr (.inr ⟨_, rfl, by simp⟩), by simp⟩
  | waiterSpawned =>
    cases stops
    exact ⟨.inr (.inr ⟨_, rfl, by simp⟩), fun _ => List.mem_append_right _ List.mem_cons_self⟩
  | _ => cases stops

end Step

/-- What a call can count on, it can count on after every step. -/
theorem Promise.step {call : Nat} (promise : Promise call world) {label : Nat × ServerChoice}
    (taken : world.step (advance clientIP) label = some later) : Promise call later := by
  -- The promise goes from the list of those that wait to a goroutine, and from it to the channel.
  obtain ⟨shared, after, step, rfl⟩ := Threads.exists_advance advance_step taken
  rcases promise with waits | ⟨thread, place, stands⟩ | closed
  · rcases step.waiting waits with still | begun
    · exact .inl still
    · exact .inr (.inl ⟨label.1, .wait, by rw [← begun]; exact Function.update_self _ _ _⟩)
  · by_cases own : thread = label.1
    · rw [own] at stands
      rw [stands] at step
      rcases step.waiter with ⟨place, goes⟩ | closed
      · exact .inr (.inl ⟨label.1, place, by rw [← goes]; exact Function.update_self _ _ _⟩)
      · exact .inr (.inr closed)
    · exact .inr (.inl ⟨thread, place, by rw [← stands]; exact Function.update_of_ne own _ _⟩)
  · exact .inr (.inr (step.lasting.1 call closed))

/-- At first nobody has called `Shutdown`. -/
theorem arranged_start : Arranged (start heap pool balancer) where
  cancelled := by
    intro thread call place stands
    cases thread <;> cases stands
  promised := by
    intro thread call stands
    cases thread <;> cases stands

/-- Every step keeps what the calls of `Shutdown` have arranged. -/
theorem Arranged.step (arranged : Arranged world) {label : Nat × ServerChoice}
    (taken : world.step (advance clientIP) label = some later) : Arranged later := by
  -- The mover may be a call of `Shutdown` itself, or somebody else on whom it counts.
  have keeps := fun call (promise : Promise call world) => promise.step taken
  obtain ⟨shared, after, step, rfl⟩ := Threads.exists_advance advance_step taken
  constructor
  · refine Threads.forall_frame_update (fun frame : ServerFrame => ∀ call place,
      frame = .shutdown call place → place = .cancel ∨ shared.cancelled = true) ?_ ?_
    · intro thread call place stands
      exact (arranged.cancelled thread call place stands).imp_right step.lasting.2
    · intro call place stops
      rcases (step.arranges stops).1 with first | now | ⟨before, stands, later⟩
      · exact .inl first
      · exact .inr now
      · have already := (arranged.cancelled label.1 call before stands).resolve_left later
        exact .inr (step.lasting.2 already)
  · refine Threads.forall_frame_update (fun frame : ServerFrame => ∀ call,
      frame = .shutdown call .select →
        Promise call ⟨shared, Function.update world.frame label.1 after⟩) ?_ ?_
    · intro thread call stands
      exact keeps call (arranged.promised thread call stands)
    · intro call stops
      exact .inl ((step.arranges stops).2 rfl)

/-- A call of `Shutdown` goes on, or has returned because all connections are closed. -/
def Stopping (frame : ServerFrame) : Prop :=
  (∃ call place, frame = .shutdown call place) ∨ frame = .ready (some .allClosed)

/-- A thread is in `Shutdown`, and all threads together have at most so many steps to take. -/
structure Nearing (heap : BackendHeap) (thread : Nat) (world : Threads TcpServer ServerFrame)
    (far : Nat) : Prop where
  accounts : Accounted heap world
  arranged : Arranged world
  stops : Stopping (world.frame thread)
  steps : world.Counts (fun server => far - server.toBegin) fun frame => frame.remaining

/-- A step that comes closer to the end of one goroutine brings all of them nearer to theirs. -/
theorem Nearing.lower {thread mover far : Nat} (nearing : Nearing heap thread world far)
    {choice : ServerChoice} {next : TcpServer} {after : ServerFrame}
    (taken : world.shared.advance clientIP (world.frame mover) choice = some (next, after))
    (less : after.remaining + next.toBegin <
      (world.frame mover).remaining + world.shared.toBegin)
    (stops : mover = thread → Stopping after) :
    ∃ later near, world.step (advance clientIP) (mover, choice) = some later ∧
      Nearing heap thread later near ∧ near < far := by
  -- The distance shrinks by as much as the mover, and what is still to begin, come closer.
  have moved : world.step (advance clientIP) (mover, choice) =
      some ⟨next, Function.update world.frame mover after⟩ :=
    Threads.step_eq_some.mpr ⟨next, after, taken, rfl⟩
  have within := nearing.steps.share_le (fun frame => Int.natCast_nonneg _) mover
  refine ⟨_, far + (after.remaining + next.toBegin) -
      ((world.frame mover).remaining + world.shared.toBegin), moved,
    ⟨nearing.accounts.step moved, nearing.arranged.step moved, ?_, ?_⟩, by omega⟩
  · show Stopping (Function.update world.frame mover after thread)
    by_cases own : mover = thread
    · subst own
      rw [Function.update_self]
      exact stops rfl
    · rw [Function.update_of_ne (Ne.symm own)]
      exact nearing.stops
  · apply nearing.steps.advance
    omega

/-- A goroutine other than the one that waits in `Shutdown` can take a step. -/
theorem Nearing.lower_other {thread mover far : Nat} (nearing : Nearing heap thread world far)
    (lowers : Lowers clientIP world.shared (world.frame mover)) (differs : mover ≠ thread) :
    ∃ label later near, Quiet world label ∧ world.step (advance clientIP) label = some later ∧
      Nearing heap thread later near ∧ near < far := by
  obtain ⟨choice, next, after, taken, quiet, less⟩ := lowers
  obtain ⟨later, near, moved, nearer, fewer⟩ :=
    nearing.lower taken less fun own => absurd own differs
  exact ⟨(mover, choice), later, near, quiet, moved, nearer, fewer⟩

/-- Where a goroutine is in the wait group, one of them can take a step. -/
theorem lowers_awaited (alive : server.crashed = false) (cancelled : server.cancelled = true)
    (awaits : frame.awaited ≠ 0) : Lowers clientIP server frame := by
  cases frame with
  | acceptLoop place => exact lowers_acceptLoop alive cancelled place
  | handleConnection conn place => exact lowers_handleConnection alive conn place
  | _ => exact absurd rfl awaits

/-- Where a connection waits for its goroutine to begin, it can begin. -/
theorem lowers_beginHandler (alive : server.crashed = false) {outcome : Option ServerStopOutcome}
    (waits : server.starting ≠ []) : Lowers clientIP server (.ready outcome) := by
  obtain ⟨conn, rest, front⟩ := List.exists_cons_of_ne_nil waits
  refine ⟨.beginHandler, { server with starting := rest }, .handleConnection conn .count, ?_,
    by decide, ?_⟩
  · simp [advance_alive alive, advanceRunning, advanceReady, front]
  · simp only [remaining, toBegin, front, List.length_cons]
    omega

/-- Where a goroutine of `Shutdown` waits to begin, it can begin. -/
theorem lowers_beginWaiter (alive : server.crashed = false) {outcome : Option ServerStopOutcome}
    (waits : server.waiting ≠ []) : Lowers clientIP server (.ready outcome) := by
  obtain ⟨call, rest, front⟩ := List.exists_cons_of_ne_nil waits
  refine ⟨.beginWaiter, { server with waiting := rest }, .waiter call .wait, ?_, by decide, ?_⟩
  · simp [advance_alive alive, advanceRunning, advanceReady, front]
  · simp only [remaining, toBegin, front, List.length_cons]
    omega

/-- Once the wait group is at zero, the goroutine that waits for it can go on. -/
theorem lowers_waiter (alive : server.crashed = false) (zero : server.wg = 0) (call : Nat)
    (place : WaiterFrame) : Lowers clientIP server (.waiter call place) := by
  cases place with
  | wait =>
    refine ⟨.run, server, .waiter call .close, ?_, by decide, by simp [remaining]⟩
    simp [advance_alive alive, advanceRunning, advanceWaiter, zero]
  | close => exact ⟨.run, _, _, advance_alive alive, by decide, by simp [remaining, toBegin]⟩

/-- A call that waits in `Shutdown` can go on, or somebody else can for whom it waits. -/
theorem Nearing.select_progress {thread far call : Nat} (nearing : Nearing heap thread world far)
    (alive : world.shared.crashed = false) (stands : world.frame thread = .shutdown call .select) :
    ∃ label later near, Quiet world label ∧ world.step (advance clientIP) label = some later ∧
      Nearing heap thread later near ∧ near < far := by
  have cancelled : world.shared.cancelled = true :=
    (nearing.arranged.cancelled thread call .select stands).resolve_left (by simp)
  -- A goroutine that is ready is there for whoever has to begin.
  obtain ⟨free, none⟩ := nearing.steps.exists_free
  obtain ⟨outcome, ready⟩ := eq_ready_of_remaining (Int.natCast_eq_zero.mp none)
  have other : free ≠ thread := by
    rintro rfl
    rw [ready] at stands
    cases stands
  by_cases idle : ∀ mover, (world.frame mover).awaited = 0
  · by_cases empty : world.shared.starting = []
    · -- Nobody is in the wait group any more.
      have zero : world.shared.wg = 0 := by
        have total := nearing.accounts.waitGroup.eq_zero idle
        rw [running, empty] at total
        simpa using total
      rcases nearing.arranged.promised thread call stands with
        waits | ⟨mover, place, waits⟩ | closed
      · refine nearing.lower_other ?_ other
        rw [ready]
        exact lowers_beginWaiter alive (List.ne_nil_of_mem waits)
      · have lowers : Lowers clientIP world.shared (world.frame mover) := by
          rw [waits]
          exact lowers_waiter alive zero call place
        refine nearing.lower_other lowers ?_
        rintro rfl
        rw [waits] at stands
        cases stands
      · -- The channel is closed, and the call returns.
        have returns : world.shared.advance clientIP (world.frame thread) .allClosed =
            some (world.shared, .ready (some .allClosed)) := by
          rw [stands]
          simp [advance_alive alive, advanceRunning, advanceShutdown, closed]
        obtain ⟨later, near, moved, nearer, fewer⟩ :=
          nearing.lower returns (by rw [stands]; simp [remaining]) fun _ => .inr rfl
        exact ⟨(thread, .allClosed), later, near, by simp [Quiet], moved, nearer, fewer⟩
    · refine nearing.lower_other ?_ other
      rw [ready]
      exact lowers_beginHandler alive empty
  · rw [not_forall] at idle
    obtain ⟨mover, awaits⟩ := idle
    refine nearing.lower_other (lowers_awaited alive cancelled awaits) ?_
    rintro rfl
    rw [stands] at awaits
    exact awaits rfl

/-- As long as a call of `Shutdown` has not returned, some goroutine can go on. -/
theorem Nearing.progress {thread far : Nat} (nearing : Nearing heap thread world far) :
    (world.frame thread = .ready (some .allClosed) ∨ world.shared.crashed = true) ∨
      ∃ label later near, Quiet world label ∧ world.step (advance clientIP) label = some later ∧
        Nearing heap thread later near ∧ near < far := by
  cases alive : world.shared.crashed with
  | true => exact .inl (.inr rfl)
  | false =>
    rcases nearing.stops with ⟨call, place, stands⟩ | returned
    · right
      -- Up to its select, the call itself goes on.
      have goes {next : TcpServer} {place : ServerStopFrame}
          (taken : world.shared.advance clientIP (world.frame thread) .run =
            some (next, .shutdown call place))
          (less : (ServerFrame.shutdown call place).remaining + next.toBegin <
            (world.frame thread).remaining + world.shared.toBegin) :
          ∃ label later near, Quiet world label ∧
            world.step (advance clientIP) label = some later ∧
            Nearing heap thread later near ∧ near < far := by
        obtain ⟨later, near, moved, nearer, fewer⟩ :=
          nearing.lower taken less fun _ => .inl ⟨call, place, rfl⟩
        exact ⟨(thread, .run), later, near, by simp [Quiet], moved, nearer, fewer⟩
      cases place with
      | cancel =>
        exact goes (by rw [stands]; exact advance_alive alive)
          (by rw [stands]; simp [remaining, toBegin])
      | closeListener =>
        exact goes (by rw [stands]; exact advance_alive alive)
          (by rw [stands]; simp [remaining, toBegin])
      | spawn =>
        refine goes (by rw [stands]; exact advance_alive alive) ?_
        rw [stands]
        simp only [remaining, toBegin, List.length_append, List.length_singleton]
        omega
      | select => exact nearing.select_progress alive stands
    · exact .inl (.inl returned)

/-- In every state of every run, the goroutines have finitely many steps to take. -/
theorem exists_steps
    (ran : exec (Threads.step (advance clientIP)) (start heap pool balancer) trace = some world) :
    ∃ far : Nat, world.Counts (fun server => far - server.toBegin)
      fun frame => frame.remaining := by
  -- At first the accept loop alone has any.
  have initial : ∃ total, Tallies
      (fun thread => (((start heap pool balancer).frame thread).remaining : Int)) total := by
    refine ⟨3, {0}, ?_, by simp [start, remaining]⟩
    intro thread outside
    cases thread with
    | zero => simp at outside
    | succ thread => rfl
  obtain ⟨total, tallies⟩ :=
    Threads.exists_tallies_of_exec (fun frame : ServerFrame => (frame.remaining : Int)) initial ran
  have nonneg := tallies.nonneg fun thread => Int.natCast_nonneg _
  refine ⟨total.toNat + world.shared.toBegin, ?_⟩
  have same :
      ((total.toNat + world.shared.toBegin : Nat) : Int) - world.shared.toBegin = total := by
    omega
  rw [← same] at tallies
  exact tallies

/--
From every state of every run, a call of `Shutdown` can still return because all connections are
closed, without any timer and without further clients, unless a handler makes the program crash.
-/
theorem shutdown_completes {thread call : Nat} {place : ServerStopFrame}
    (ran : exec (Threads.step (advance clientIP)) (start heap pool balancer) trace = some world)
    (stands : world.frame thread = .shutdown call place) :
    ∃ final, Leads (Threads.step (advance clientIP)) Quiet world final ∧
      (final.frame thread = .ready (some .allClosed) ∨ final.shared.crashed = true) := by
  -- All that a call counts on holds in the state that was reached, and the rest is progress.
  have accounts := (truthful_of_exec ran).accounts
  have arranged : Arranged world :=
    exec_invariant Arranged (fun _ _ _ holds taken => holds.step taken) arranged_start ran
  obtain ⟨far, steps⟩ := exists_steps ran
  refine leads_of_progress (Nearing heap thread) (fun _ _ nearing => nearing.progress)
    ⟨accounts, arranged, .inl ⟨call, place, stands⟩, steps⟩

/-- The call of `Shutdown` above can return from where the first client is still served. -/
theorem shutdown_completes_oneClient :
    ∃ world, exec (Threads.step (advance fun _ => bytesOf "10.0.0.1")) oneBackend
        (oneClientServed.take 11) = some world ∧
      world.frame 1 = .handleConnection 0 (.proxyData 0) ∧
      ∃ final, Leads (Threads.step (advance fun _ => bytesOf "10.0.0.1")) Quiet world final ∧
        (final.frame 2 = .ready (some .allClosed) ∨ final.shared.crashed = true) := by
  obtain ⟨world, ran, serves, stands⟩ :
      ∃ world, exec (Threads.step (advance fun _ => bytesOf "10.0.0.1")) oneBackend
          (oneClientServed.take 11) = some world ∧
        world.frame 1 = .handleConnection 0 (.proxyData 0) ∧
        world.frame 2 = .shutdown 0 .closeListener :=
    ⟨_, rfl, rfl, rfl⟩
  exact ⟨world, ran, serves, shutdown_completes ran stands⟩

end TcpServer

end Balance
