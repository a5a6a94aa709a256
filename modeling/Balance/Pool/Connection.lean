import Balance.Go.Time
import Balance.Machine.Threads
import Mathlib.Data.Finset.Card

/-! The pool of backend connections, as goroutines that share one channel of idle connections. -/

namespace Balance

/-- The errors with which the pool turns a request for a connection away. -/
inductive GetError where
  | poolClosed
  | contextDone
  | dialFailed
  deriving DecidableEq, Repr

/-- How far the only body a `sync.Once` ever runs has come. -/
inductive OnceState where
  | fresh
  | running
  | done
  deriving DecidableEq, Repr

/-- A network connection, if it is still there, with the data the pool keeps about it. -/
structure PooledConnection where
  conn : Option Nat
  lastUsed : Int
  inUse : Bool
  closeOnce : OnceState
  deriving DecidableEq, Repr

/-- The settings of a pool, before defaults stand in for what is not positive. -/
structure PoolConfig where
  address : String
  maxSize : Int
  maxIdleTime : Int
  connectTimeout : Int
  deriving DecidableEq, Repr

/--
A pool together with the memory its goroutines reach.

Pooled connections are named by the order in which they were built.
Network connections are named by the order in which they were dialed.
-/
structure ConnectionPool where
  address : String
  maxSize : Int
  maxIdleTime : Int
  connectTimeout : Int
  -- The buffered channel, oldest entry first, and whether it has been closed.
  connections : List Nat
  connectionsClosed : Bool
  closed : Bool
  activeCount : Int
  totalCreated : Int
  totalReused : Int
  -- The pooled connections built so far.
  pooled : Nat → PooledConnection
  nextPooled : Nat
  -- The network connections that are dialed and not closed.
  live : Finset Nat
  nextConn : Nat

/-- A setting, or its default where it is not positive. -/
def orPositive (setting default : Int) : Int :=
  if setting ≤ 0 then default else setting

/-- A new pool is open and holds no connection. -/
def newConnectionPool (config : PoolConfig) : ConnectionPool where
  address := config.address
  maxSize := orPositive config.maxSize 10
  maxIdleTime := orPositive config.maxIdleTime (5 * 60 * Go.second)
  connectTimeout := orPositive config.connectTimeout (5 * Go.second)
  connections := []
  connectionsClosed := false
  closed := false
  activeCount := 0
  totalCreated := 0
  totalReused := 0
  pooled := fun _ => ⟨none, Go.zeroTime, false, .fresh⟩
  nextPooled := 0
  live := ∅
  nextConn := 0

/-- The places at which `Get` may be interrupted by other goroutines. -/
inductive GetFrame where
  | check
  | select
  -- The flag tells a connection received after waiting from one that was there at once.
  | probe (waited : Bool) (pc : Nat)
  | mark (pc : Nat)
  | reuse (pc : Nat)
  | discard (waited : Bool) (pc : Nat)
  | lock
  | wait
  | release
  | dial
  | undial
  deriving DecidableEq, Repr

/-- The places at which the body of a `Close` may be interrupted, `put` included. -/
inductive CloseFrame where
  | test
  | direct
  | putCheck
  | putMark
  | putSend
  | putDrop
  | putClose
  deriving DecidableEq, Repr

/-- The places at which `cleanup` may be interrupted. -/
inductive CleanupFrame where
  | receive
  | inspect (pc : Nat)
  | putBack (pc : Nat)
  | close (pc : Nat)
  | release
  deriving DecidableEq, Repr

/-- The places at which closing the whole pool may be interrupted. -/
inductive ShutdownFrame where
  | channel
  | drain
  | close (pc : Nat)
  deriving DecidableEq, Repr

/-- Where a goroutine stands. -/
inductive PoolFrame where
  -- Between calls, with the error the last one returned.
  | ready (error : Option GetError)
  -- Using a connection that `Get` has returned.
  | holding (pc : Nat)
  | get (frame : GetFrame)
  | close (pc : Nat) (frame : CloseFrame)
  | cleanup (now : Int) (frame : CleanupFrame)
  | shutdown (frame : ShutdownFrame)
  -- Stopped by a runtime panic, with the connection it had in its hands.
  | panicked (hand : Option Nat)
  deriving DecidableEq, Repr

/-- What the callers, the clock, the network and the scheduler decide at a step. -/
inductive PoolChoice where
  | get
  | touch (now : Int)
  | close
  | closeAgain (pc : Nat)
  | cleanup (now : Int)
  | closePool
  -- Which ready case a select takes.
  | receive
  | contextDone
  | default
  | probe (answers : Bool)
  | dialed (now : Int)
  | dialFailed
  -- The next statement, at the given time.
  | run (now : Int)
  deriving DecidableEq, Repr

namespace PooledConnection

/-- A connection is healthy when it is there and the probe of it runs into its deadline. -/
def isHealthy (connection : PooledConnection) (answers : Bool) : Bool :=
  connection.conn.isSome && answers

/-- A connection handed out again is in use from now on. -/
def markInUse (connection : PooledConnection) (now : Int) : PooledConnection :=
  { connection with inUse := true, lastUsed := now }

/-- A connection on its way back to the pool has been used until now. -/
def markIdle (connection : PooledConnection) (now : Int) : PooledConnection :=
  { connection with inUse := false, lastUsed := now }

/-- Reading and writing note the time. -/
def updateLastUsed (connection : PooledConnection) (now : Int) : PooledConnection :=
  -- A connection that is gone answers with an error before it looks at the clock.
  if connection.conn.isSome then { connection with lastUsed := now } else connection

end PooledConnection

namespace ConnectionPool

/-- Change one pooled connection in place. -/
def modify (pool : ConnectionPool) (pc : Nat) (change : PooledConnection → PooledConnection) :
    ConnectionPool :=
  { pool with pooled := Function.update pool.pooled pc (change (pool.pooled pc)) }

/-- Move the once of one pooled connection on. -/
def setOnce (pool : ConnectionPool) (pc : Nat) (state : OnceState) : ConnectionPool :=
  pool.modify pc fun connection => { connection with closeOnce := state }

/-- Close the network connection behind a pooled one, if there is any. -/
def closeConn (pool : ConnectionPool) (pc : Nat) : ConnectionPool :=
  match (pool.pooled pc).conn with
  | none => pool
  | some conn => { pool with live := pool.live.erase conn }

/-- Closing a connection changes which connections are live, and nothing else. -/
theorem closeConn_eq (pool : ConnectionPool) (pc : Nat) :
    pool.closeConn pc = { pool with live := (pool.closeConn pc).live } := by
  unfold closeConn
  split
  · rfl
  · rfl

/-- Closing a connection takes it from those that are live. -/
theorem mem_live_closeConn {pool : ConnectionPool} {pc conn : Nat} :
    conn ∈ (pool.closeConn pc).live ↔ conn ∈ pool.live ∧ (pool.pooled pc).conn ≠ some conn := by
  -- A pooled connection that has none behind it leaves all of them live.
  unfold closeConn
  split
  case h_1 gone => simp [gone]
  case h_2 found present =>
    rw [present, Finset.mem_erase, and_comm, ne_eq, ne_eq, Option.some.injEq, eq_comm]

/-- Drop the reference to the network connection. -/
def forgetConn (pool : ConnectionPool) (pc : Nat) : ConnectionPool :=
  pool.modify pc fun connection => { connection with conn := none }

/-- Give one slot back. -/
def releaseSlot (pool : ConnectionPool) : ConnectionPool :=
  { pool with activeCount := pool.activeCount - 1 }

/-- Take one slot for a connection about to be dialed. -/
def takeSlot (pool : ConnectionPool) : ConnectionPool :=
  { pool with activeCount := pool.activeCount + 1, totalCreated := pool.totalCreated + 1 }

/-- Wrap a connection just dialed. -/
def wrap (pool : ConnectionPool) (now : Int) : ConnectionPool :=
  { pool with
    pooled := Function.update pool.pooled pool.nextPooled ⟨some pool.nextConn, now, true, .fresh⟩
    nextPooled := pool.nextPooled + 1
    live := insert pool.nextConn pool.live
    nextConn := pool.nextConn + 1 }

/-- No receive from the channel is ready, so that a select falls through to its default case. -/
def nothingReady (pool : ConnectionPool) : Bool :=
  pool.connections.isEmpty && !pool.connectionsClosed

/-- Receive from the channel and go on with the connection received. -/
def receive (pool : ConnectionPool) (andThen : Nat → PoolFrame) :
    Option (ConnectionPool × PoolFrame) :=
  match pool.connections with
  | pc :: rest => some ({ pool with connections := rest }, andThen pc)
  | [] =>
    -- A closed and empty channel yields a nil pointer, whose first use is a panic.
    if pool.connectionsClosed then some (pool, .panicked none) else none

/-- Send to the channel without blocking, and go on either way. -/
def send (pool : ConnectionPool) (pc : Nat) (sent full : ConnectionPool × PoolFrame) :
    ConnectionPool × PoolFrame :=
  -- A send on a closed channel is a panic, even where a default case stands ready.
  if pool.connectionsClosed then (pool, .panicked (some pc))
  else if (pool.connections.length : Int) < pool.maxSize then sent
  else full

/-- The channel with one more connection at its end. -/
def enqueue (pool : ConnectionPool) (pc : Nat) : ConnectionPool :=
  { pool with connections := pool.connections ++ [pc] }

/-- One step of `Get`. -/
def advanceGet (pool : ConnectionPool) : GetFrame → PoolChoice → Option (ConnectionPool × PoolFrame)
  | .check, .run _ =>
    if pool.closed then some (pool, .ready (some .poolClosed)) else some (pool, .get .select)
  -- The first select never blocks.
  | .select, .receive => pool.receive fun pc => .get (.probe false pc)
  | .select, .contextDone => some (pool, .ready (some .contextDone))
  | .select, .default => if pool.nothingReady then some (pool, .get .lock) else none
  | .probe waited pc, .probe answers =>
    if (pool.pooled pc).isHealthy answers then some (pool, .get (.mark pc))
    else some (pool, .get (.discard waited pc))
  | .mark pc, .run now => some (pool.modify pc (·.markInUse now), .get (.reuse pc))
  | .reuse pc, .run _ =>
    some ({ pool with totalReused := pool.totalReused + 1 }, .holding pc)
  -- Only the connection received after waiting gives its slot back.
  | .discard waited pc, .run _ =>
    some (pool.closeConn pc, .get (if waited then .release else .lock))
  | .lock, .run _ =>
    if pool.maxSize ≤ pool.activeCount then some (pool, .get .wait)
    else some (pool.takeSlot, .get .dial)
  | .wait, .receive => pool.receive fun pc => .get (.probe true pc)
  | .wait, .contextDone => some (pool, .ready (some .contextDone))
  -- The call starts over.
  | .release, .run _ => some (pool.releaseSlot, .get .check)
  | .dial, .dialed now => some (pool.wrap now, .holding pool.nextPooled)
  | .dial, .dialFailed => some (pool, .get .undial)
  | .undial, .run _ => some (pool.releaseSlot, .ready (some .dialFailed))
  | _, _ => none

/--
One step of the body that `Close` runs through the once of its connection.

The once is done with the last effect of the body: whoever waits for it finds it done
and does nothing.
-/
def advanceClose (pool : ConnectionPool) (pc : Nat) (now : Int) :
    CloseFrame → ConnectionPool × PoolFrame
  | .test => (pool, .close pc (if pool.closed then .direct else .putCheck))
  | .direct => (((pool.closeConn pc).forgetConn pc).setOnce pc .done, .ready none)
  | .putCheck => (pool, .close pc (if pool.closed then .putClose else .putMark))
  | .putMark => (pool.modify pc (·.markIdle now), .close pc .putSend)
  | .putSend =>
    pool.send pc ((pool.enqueue pc).setOnce pc .done, .ready none) (pool, .close pc .putDrop)
  | .putDrop => (pool.releaseSlot, .close pc .putClose)
  | .putClose => ((pool.closeConn pc).setOnce pc .done, .ready none)

/-- One step of `cleanup`, which took the time once when it was called. -/
def advanceCleanup (pool : ConnectionPool) (now : Int) :
    CleanupFrame → PoolChoice → Option (ConnectionPool × PoolFrame)
  | .receive, .receive => pool.receive fun pc => .cleanup now (.inspect pc)
  | .receive, .default => if pool.nothingReady then some (pool, .ready none) else none
  | .inspect pc, .run _ =>
    if (pool.pooled pc).inUse || Go.since now (pool.pooled pc).lastUsed < pool.maxIdleTime then
      some (pool, .cleanup now (.putBack pc))
    else some (pool, .cleanup now (.close pc))
  | .putBack pc, .run _ =>
    some (pool.send pc (pool.enqueue pc, .cleanup now .receive) (pool, .cleanup now (.close pc)))
  | .close pc, .run _ => some (pool.closeConn pc, .cleanup now .release)
  | .release, .run _ => some (pool.releaseSlot, .cleanup now .receive)
  | _, _ => none

/-- One step of closing the pool, after the flag has been set. -/
def advanceShutdown (pool : ConnectionPool) : ShutdownFrame → ConnectionPool × PoolFrame
  | .channel => ({ pool with connectionsClosed := true }, .shutdown .drain)
  | .drain =>
    match pool.connections with
    | [] => (pool, .ready none)
    | pc :: rest => ({ pool with connections := rest }, .shutdown (.close pc))
  | .close pc => (pool.closeConn pc, .shutdown .drain)

/-- A call of `Close` by the goroutine that holds the connection. -/
def callClose (pool : ConnectionPool) (pc : Nat) : Option (ConnectionPool × PoolFrame) :=
  match (pool.pooled pc).closeOnce with
  | .fresh => some (pool.setOnce pc .running, .close pc .test)
  | .running => none
  -- The once has run its body already, and the call returns without doing anything.
  | .done => some (pool, .ready none)

/-- One step of a goroutine that uses the pool. -/
def advance (pool : ConnectionPool) : PoolFrame → PoolChoice → Option (ConnectionPool × PoolFrame)
  | .ready _, .get => some (pool, .get .check)
  -- A goroutine that has returned a connection may well close it a second time.
  | .ready _, .closeAgain pc =>
    if (pool.pooled pc).closeOnce = .done then some (pool, .ready none) else none
  | .ready _, .cleanup now => some (pool, .cleanup now .receive)
  | .ready _, .closePool =>
    if pool.closed then some (pool, .ready none)
    else some ({ pool with closed := true }, .shutdown .channel)
  | .holding pc, .touch now => some (pool.modify pc (·.updateLastUsed now), .holding pc)
  | .holding pc, .close => pool.callClose pc
  | .get frame, choice => pool.advanceGet frame choice
  | .close pc frame, .run now => some (pool.advanceClose pc now frame)
  | .cleanup now frame, choice => pool.advanceCleanup now frame choice
  | .shutdown frame, .run _ => some (pool.advanceShutdown frame)
  | _, _ => none

/-- What a goroutine in `Get` may do, place by place. -/
inductive GetStep (pool : ConnectionPool) :
    GetFrame → PoolChoice → ConnectionPool → PoolFrame → Prop
  | refused {now : Int} (closed : pool.closed = true) :
      GetStep pool .check (.run now) pool (.ready (some .poolClosed))
  | admitted {now : Int} (usable : pool.closed = false) :
      GetStep pool .check (.run now) pool (.get .select)
  | nothing (ready : pool.nothingReady = true) : GetStep pool .select .default pool (.get .lock)
  -- The flag tells the select that waits from the one that does not.
  | received {waited : Bool} {pc : Nat} {rest : List Nat}
      (front : pool.connections = pc :: rest) :
      GetStep pool (if waited then .wait else .select) .receive
        { pool with connections := rest } (.get (.probe waited pc))
  | receivedNil {waited : Bool} (empty : pool.connections = [])
      (closed : pool.connectionsClosed = true) :
      GetStep pool (if waited then .wait else .select) .receive pool (.panicked none)
  | cancelled {waited : Bool} :
      GetStep pool (if waited then .wait else .select) .contextDone pool
        (.ready (some .contextDone))
  | alive {waited answers : Bool} {pc : Nat} (healthy : (pool.pooled pc).isHealthy answers = true) :
      GetStep pool (.probe waited pc) (.probe answers) pool (.get (.mark pc))
  | dead {waited answers : Bool} {pc : Nat} (failed : (pool.pooled pc).isHealthy answers = false) :
      GetStep pool (.probe waited pc) (.probe answers) pool (.get (.discard waited pc))
  | marked {pc : Nat} {now : Int} :
      GetStep pool (.mark pc) (.run now) (pool.modify pc (·.markInUse now)) (.get (.reuse pc))
  | reused {pc : Nat} {now : Int} :
      GetStep pool (.reuse pc) (.run now)
        { pool with totalReused := pool.totalReused + 1 } (.holding pc)
  | discarded {waited : Bool} {pc : Nat} {now : Int} :
      GetStep pool (.discard waited pc) (.run now) (pool.closeConn pc)
        (.get (if waited then .release else .lock))
  | exhausted {now : Int} (full : pool.maxSize ≤ pool.activeCount) :
      GetStep pool .lock (.run now) pool (.get .wait)
  | counted {now : Int} (free : pool.activeCount < pool.maxSize) :
      GetStep pool .lock (.run now) pool.takeSlot (.get .dial)
  | released {now : Int} : GetStep pool .release (.run now) pool.releaseSlot (.get .check)
  | dialed {now : Int} :
      GetStep pool .dial (.dialed now) (pool.wrap now) (.holding pool.nextPooled)
  | dialFailed : GetStep pool .dial .dialFailed pool (.get .undial)
  | uncounted {now : Int} :
      GetStep pool .undial (.run now) pool.releaseSlot (.ready (some .dialFailed))

/-- A receive of `Get` is one of its steps, whether it finds a connection or a closed channel. -/
theorem receive_step {pool next : ConnectionPool} {frame : PoolFrame} (waited : Bool)
    (taken : pool.receive (fun pc => .get (.probe waited pc)) = some (next, frame)) :
    GetStep pool (if waited then .wait else .select) .receive next frame := by
  -- A receive that is not ready is no step.
  unfold receive at taken
  split at taken
  case h_1 pc rest front =>
    cases taken
    exact .received front
  case h_2 empty =>
    split at taken
    · next closed =>
      cases taken
      exact .receivedNil empty closed
    · cases taken

/-- Every step of `Get` is one of those listed. -/
theorem advanceGet_step {pool next : ConnectionPool} {place : GetFrame} {choice : PoolChoice}
    {frame : PoolFrame} (taken : pool.advanceGet place choice = some (next, frame)) :
    GetStep pool place choice next frame := by
  -- The cases follow the definition, and each comparison is kept as a premise.
  unfold advanceGet at taken
  split at taken
  · split at taken
    · next closed =>
      cases taken
      exact .refused closed
    · next usable =>
      cases taken
      exact .admitted (by simpa using usable)
  · exact receive_step false taken
  · cases taken
    exact @GetStep.cancelled pool false
  · split at taken
    · next ready =>
      cases taken
      exact .nothing ready
    · cases taken
  · split at taken
    · next healthy =>
      cases taken
      exact .alive healthy
    · next failed =>
      cases taken
      exact .dead (by simpa using failed)
  · cases taken
    exact .marked
  · cases taken
    exact .reused
  · cases taken
    exact .discarded
  · split at taken
    · next full =>
      cases taken
      exact .exhausted full
    · next free =>
      cases taken
      exact .counted (by omega)
  · exact receive_step true taken
  · cases taken
    exact @GetStep.cancelled pool true
  · cases taken
    exact .released
  · cases taken
    exact .dialed
  · cases taken
    exact .dialFailed
  · cases taken
    exact .uncounted
  · cases taken

/-- What a goroutine in `cleanup` may do, place by place. -/
inductive CleanupStep (pool : ConnectionPool) (now : Int) :
    CleanupFrame → PoolChoice → ConnectionPool → PoolFrame → Prop
  | received {pc : Nat} {rest : List Nat} (front : pool.connections = pc :: rest) :
      CleanupStep pool now .receive .receive
        { pool with connections := rest } (.cleanup now (.inspect pc))
  | receivedNil (empty : pool.connections = []) (closed : pool.connectionsClosed = true) :
      CleanupStep pool now .receive .receive pool (.panicked none)
  | finished (ready : pool.nothingReady = true) :
      CleanupStep pool now .receive .default pool (.ready none)
  | kept {pc : Nat} {later : Int} (valid : (pool.pooled pc).inUse = true ∨
      Go.since now (pool.pooled pc).lastUsed < pool.maxIdleTime) :
      CleanupStep pool now (.inspect pc) (.run later) pool (.cleanup now (.putBack pc))
  | expired {pc : Nat} {later : Int} (idle : (pool.pooled pc).inUse = false ∧
      pool.maxIdleTime ≤ Go.since now (pool.pooled pc).lastUsed) :
      CleanupStep pool now (.inspect pc) (.run later) pool (.cleanup now (.close pc))
  | sentClosed {pc : Nat} {later : Int} (closed : pool.connectionsClosed = true) :
      CleanupStep pool now (.putBack pc) (.run later) pool (.panicked (some pc))
  | returned {pc : Nat} {later : Int} (usable : pool.connectionsClosed = false)
      (room : (pool.connections.length : Int) < pool.maxSize) :
      CleanupStep pool now (.putBack pc) (.run later) (pool.enqueue pc) (.cleanup now .receive)
  | full {pc : Nat} {later : Int} (usable : pool.connectionsClosed = false)
      (crowded : pool.maxSize ≤ pool.connections.length) :
      CleanupStep pool now (.putBack pc) (.run later) pool (.cleanup now (.close pc))
  | closed {pc : Nat} {later : Int} :
      CleanupStep pool now (.close pc) (.run later) (pool.closeConn pc) (.cleanup now .release)
  | released {later : Int} :
      CleanupStep pool now .release (.run later) pool.releaseSlot (.cleanup now .receive)

/-- Every step of `cleanup` is one of those listed. -/
theorem advanceCleanup_step {pool next : ConnectionPool} {now : Int} {place : CleanupFrame}
    {choice : PoolChoice} {frame : PoolFrame}
    (taken : pool.advanceCleanup now place choice = some (next, frame)) :
    CleanupStep pool now place choice next frame := by
  -- The cases follow the definition, and each comparison is kept as a premise.
  unfold advanceCleanup at taken
  split at taken
  · unfold receive at taken
    split at taken
    case h_1 pc rest front =>
      cases taken
      exact .received front
    case h_2 empty =>
      split at taken
      · next closed =>
        cases taken
        exact .receivedNil empty closed
      · cases taken
  · split at taken
    · next ready =>
      cases taken
      exact .finished ready
    · cases taken
  · split at taken
    · next valid =>
      cases taken
      exact .kept (by simpa using valid)
    · next idle =>
      cases taken
      exact .expired (by simpa using idle)
  · unfold send at taken
    split at taken
    · next closed =>
      cases taken
      exact .sentClosed closed
    · next usable =>
      split at taken
      · next room =>
        cases taken
        exact .returned (by simpa using usable) room
      · next crowded =>
        cases taken
        exact .full (by simpa using usable) (by omega)
  · cases taken
    exact .closed
  · cases taken
    exact .released
  · cases taken

/-- What a goroutine may do, place by place. -/
inductive PoolStep (pool : ConnectionPool) :
    PoolFrame → PoolChoice → ConnectionPool → PoolFrame → Prop
  | calledGet {error : Option GetError} : PoolStep pool (.ready error) .get pool (.get .check)
  | closedAgain {error : Option GetError} {pc : Nat} (done : (pool.pooled pc).closeOnce = .done) :
      PoolStep pool (.ready error) (.closeAgain pc) pool (.ready none)
  | calledCleanup {error : Option GetError} {now : Int} :
      PoolStep pool (.ready error) (.cleanup now) pool (.cleanup now .receive)
  | poolClosedAgain {error : Option GetError} (closed : pool.closed = true) :
      PoolStep pool (.ready error) .closePool pool (.ready none)
  | poolClosed {error : Option GetError} (usable : pool.closed = false) :
      PoolStep pool (.ready error) .closePool { pool with closed := true } (.shutdown .channel)
  | touched {pc : Nat} {now : Int} :
      PoolStep pool (.holding pc) (.touch now) (pool.modify pc (·.updateLastUsed now)) (.holding pc)
  | calledClose {pc : Nat} (fresh : (pool.pooled pc).closeOnce = .fresh) :
      PoolStep pool (.holding pc) .close (pool.setOnce pc .running) (.close pc .test)
  | closedBefore {pc : Nat} (done : (pool.pooled pc).closeOnce = .done) :
      PoolStep pool (.holding pc) .close pool (.ready none)
  | get {place : GetFrame} {choice : PoolChoice} {next : ConnectionPool} {frame : PoolFrame}
      (step : GetStep pool place choice next frame) : PoolStep pool (.get place) choice next frame
  | close {pc : Nat} {place : CloseFrame} {now : Int} :
      PoolStep pool (.close pc place) (.run now) (pool.advanceClose pc now place).1
        (pool.advanceClose pc now place).2
  | cleanup {now : Int} {place : CleanupFrame} {choice : PoolChoice} {next : ConnectionPool}
      {frame : PoolFrame} (step : CleanupStep pool now place choice next frame) :
      PoolStep pool (.cleanup now place) choice next frame
  | shutdown {place : ShutdownFrame} {now : Int} :
      PoolStep pool (.shutdown place) (.run now) (pool.advanceShutdown place).1
        (pool.advanceShutdown place).2

/-- Every step of a goroutine is one of those listed. -/
theorem advance_step {pool next : ConnectionPool} {frame after : PoolFrame} {choice : PoolChoice}
    (taken : pool.advance frame choice = some (next, after)) :
    PoolStep pool frame choice next after := by
  -- The calls have lists of their own.
  unfold advance at taken
  split at taken
  · cases taken
    exact .calledGet
  · split at taken
    · next done =>
      cases taken
      exact .closedAgain done
    · cases taken
  · cases taken
    exact .calledCleanup
  · split at taken
    · next closed =>
      cases taken
      exact .poolClosedAgain closed
    · next usable =>
      cases taken
      exact .poolClosed (by simpa using usable)
  · cases taken
    exact .touched
  · unfold callClose at taken
    split at taken
    · next fresh =>
      cases taken
      exact .calledClose fresh
    · cases taken
    · next done =>
      cases taken
      exact .closedBefore done
  · exact .get (advanceGet_step taken)
  · next pc place now =>
    have step := @PoolStep.close pool pc place now
    rwa [Option.some.inj taken] at step
  · exact .cleanup (advanceCleanup_step taken)
  · next place now =>
    have step := @PoolStep.shutdown pool place now
    rwa [Option.some.inj taken] at step
  · cases taken

end ConnectionPool

/-- A pool with all goroutines that use it. -/
abbrev PoolWorld := Machine.Threads ConnectionPool PoolFrame

namespace PoolWorld

/-- A new pool, with nobody using it yet. -/
def start (config : PoolConfig) : PoolWorld :=
  ⟨newConnectionPool config, fun _ => .ready none⟩

/-- One goroutine takes a step. -/
abbrev step : PoolWorld → Nat × PoolChoice → Option PoolWorld :=
  Machine.Threads.step ConnectionPool.advance

/-- A step of the world is one of the steps listed, taken by one goroutine. -/
theorem step_inv {world next : PoolWorld} {label : Nat × PoolChoice}
    (taken : world.step label = some next) :
    ∃ pool after, ConnectionPool.PoolStep world.shared (world.frame label.1) label.2 pool after ∧
      next = ⟨pool, Function.update world.frame label.1 after⟩ :=
  Machine.Threads.exists_advance ConnectionPool.advance_step taken

/-- The settings of a pool with room for a single connection. -/
def oneSlot : PoolConfig := ⟨"127.0.0.1:9001", 1, 0, 0⟩

/-- A goroutine gets a connection from an empty pool and closes it. -/
def firstUse : List (Nat × PoolChoice) :=
  [.get, .run 0, .default, .run 0, .dialed 0, .close, .run 0, .run 0, .run 0, .run 0].map (0, ·)

end PoolWorld

end Balance
