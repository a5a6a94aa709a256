import Balance.Lb.Balancers
import Balance.Machine.Threads

/-! The accept loop of the TCP server, its handlers, and the calls that shut it down. -/

namespace Balance

open Machine

/-- The state that the goroutines of a running TCP server share. -/
structure TcpServer where
  heap : BackendHeap
  pool : Pool
  balancer : LoadBalancer
  totalConnections : Int
  activeConnections : Int
  wg : Int
  -- The context, and the listener.
  cancelled : Bool
  listenerClosed : Bool
  -- How many connections were accepted; they are numbered in that order.
  accepted : Nat
  -- Connections whose goroutine has been created and has not begun.
  starting : List Nat
  -- Client connections in the order in which they were closed.
  closed : List Nat
  -- How many times `Shutdown` was called, and which calls' goroutines have not begun.
  calls : Nat
  waiting : List Nat
  -- The calls whose channel `done` is closed.
  done : List Nat
  crashed : Bool

/-- Where the accept loop stands. -/
inductive AcceptFrame where
  | accept
  /-- `Accept` has failed, and the context is looked at. -/
  | check
  /-- A connection was accepted and is added to the wait group. -/
  | add (conn : Nat)
  | spawn (conn : Nat)
  /-- The deferred call of `wg.Done`. -/
  | leave

/-- Where the handler of a connection stands. -/
inductive ConnFrame where
  | count
  | activate
  | select
  | increment (b : Nat)
  | dial (b : Nat)
  | markUnhealthy (b : Nat)
  | proxyData (b : Nat)
  -- From here on the deferred calls are made, the last one first, and also when panicking.
  | decrement (b : Nat)
  | deactivate (panicking : Bool)
  | closeClient (panicking : Bool)
  | leave (panicking : Bool)

/-- Where a call of `Shutdown` stands. -/
inductive ServerStopFrame where
  | cancel
  | closeListener
  | spawn
  | select

/-- Where the goroutine stands that waits for the connections. -/
inductive WaiterFrame where
  | wait
  | close

/-- How a call of `Shutdown` went on from its select. -/
inductive ServerStopOutcome where
  | allClosed
  | timeoutExceeded
  deriving DecidableEq

/-- Where a goroutine stands. -/
inductive ServerFrame where
  /-- Nothing is running, after a call of `Shutdown` perhaps. -/
  | ready (outcome : Option ServerStopOutcome)
  | acceptLoop (place : AcceptFrame)
  | handleConnection (conn : Nat) (place : ConnFrame)
  /-- A panic that nobody recovers has run the deferred calls, and now ends the program. -/
  | panic
  | shutdown (call : Nat) (place : ServerStopFrame)
  | waiter (call : Nat) (place : WaiterFrame)

/-- What decides how a goroutine goes on. -/
inductive ServerChoice where
  | run
  /-- `Accept` returns a connection, or an error. -/
  | connect
  | acceptFailed
  /-- A goroutine begins that was created for a connection, or by `Shutdown`. -/
  | beginHandler
  | beginWaiter
  /-- The backend is reached or not, and the copying ends. -/
  | reached
  | failed
  | ended
  /-- `Shutdown` is called, and its select goes on with `done` or with the timer. -/
  | callShutdown
  | allClosed
  | timeout
  deriving DecidableEq

namespace TcpServer

/-- The next step of the accept loop. -/
def advanceAccept (server : TcpServer) (place : AcceptFrame) (choice : ServerChoice) :
    Option (TcpServer × ServerFrame) :=
  match place, choice with
  | .accept, .connect =>
    -- A closed listener hands out no connection.
    if server.listenerClosed then none
    else
      some ({ server with accepted := server.accepted + 1 }, .acceptLoop (.add server.accepted))
  | .accept, .acceptFailed => some (server, .acceptLoop .check)
  | .check, .run =>
    some (server, .acceptLoop (if server.cancelled then .leave else .accept))
  | .add conn, .run => some ({ server with wg := server.wg + 1 }, .acceptLoop (.spawn conn))
  | .spawn conn, .run =>
    some ({ server with starting := server.starting ++ [conn] }, .acceptLoop .accept)
  | .leave, .run => some ({ server with wg := server.wg - 1 }, .ready none)
  | _, _ => none

/-- The next step of the handler of a connection, whose client has the given address. -/
def advanceConn (clientIP : Nat → List UInt8) (server : TcpServer) (conn : Nat) (place : ConnFrame)
    (choice : ServerChoice) : Option (TcpServer × ServerFrame) :=
  match place, choice with
  | .count, .run =>
    some ({ server with totalConnections := server.totalConnections + 1 },
      .handleConnection conn .activate)
  | .activate, .run =>
    some ({ server with activeConnections := server.activeConnections + 1 },
      .handleConnection conn .select)
  | .select, .run =>
    match server.balancer.selectFor server.heap server.pool (clientIP conn) with
    | (balancer, .error _) =>
      some ({ server with balancer := balancer }, .handleConnection conn (.deactivate true))
    | (balancer, .ok none) =>
      some ({ server with balancer := balancer }, .handleConnection conn (.deactivate false))
    | (balancer, .ok (some b)) =>
      some ({ server with balancer := balancer }, .handleConnection conn (.increment b))
  | .increment b, .run =>
    some ({ server with heap := server.heap.incrementConnections b },
      .handleConnection conn (.dial b))
  | .dial b, .reached =>
    -- The connection is dialled under the context of the server.
    if server.cancelled then none else some (server, .handleConnection conn (.proxyData b))
  | .dial b, .failed => some (server, .handleConnection conn (.markUnhealthy b))
  | .markUnhealthy b, .run =>
    some ({ server with heap := server.heap.markUnhealthy b },
      .handleConnection conn (.decrement b))
  | .proxyData b, .ended => some (server, .handleConnection conn (.decrement b))
  | .decrement b, .run =>
    some ({ server with heap := server.heap.decrementConnections b },
      .handleConnection conn (.deactivate false))
  | .deactivate panicking, .run =>
    some ({ server with activeConnections := server.activeConnections - 1 },
      .handleConnection conn (.closeClient panicking))
  | .closeClient panicking, .run =>
    some ({ server with closed := server.closed ++ [conn] },
      .handleConnection conn (.leave panicking))
  | .leave panicking, .run =>
    some ({ server with wg := server.wg - 1 }, if panicking then .panic else .ready none)
  | _, _ => none

/-- The next step of a call of `Shutdown`. -/
def advanceShutdown (server : TcpServer) (call : Nat) (place : ServerStopFrame)
    (choice : ServerChoice) : Option (TcpServer × ServerFrame) :=
  match place, choice with
  | .cancel, .run => some ({ server with cancelled := true }, .shutdown call .closeListener)
  | .closeListener, .run => some ({ server with listenerClosed := true }, .shutdown call .spawn)
  | .spawn, .run =>
    some ({ server with waiting := server.waiting ++ [call] }, .shutdown call .select)
  | .select, .allClosed =>
    if call ∈ server.done then some (server, .ready (some .allClosed)) else none
  | .select, .timeout => some (server, .ready (some .timeoutExceeded))
  | _, _ => none

/-- The next step of a goroutine that waits for the connections. -/
def advanceWaiter (server : TcpServer) (call : Nat) (place : WaiterFrame)
    (choice : ServerChoice) : Option (TcpServer × ServerFrame) :=
  match place, choice with
  | .wait, .run => if server.wg = 0 then some (server, .waiter call .close) else none
  | .close, .run => some ({ server with done := server.done ++ [call] }, .ready none)
  | _, _ => none

/-- What a goroutine begins with. -/
def advanceReady (server : TcpServer) (choice : ServerChoice) : Option (TcpServer × ServerFrame) :=
  match choice with
  | .beginHandler =>
    match server.starting with
    | conn :: rest => some ({ server with starting := rest }, .handleConnection conn .count)
    | [] => none
  | .beginWaiter =>
    match server.waiting with
    | call :: rest => some ({ server with waiting := rest }, .waiter call .wait)
    | [] => none
  | .callShutdown =>
    some ({ server with calls := server.calls + 1 }, .shutdown server.calls .cancel)
  | _ => none

/-- The next step of one goroutine, in a program that runs. -/
def advanceRunning (clientIP : Nat → List UInt8) (server : TcpServer) (frame : ServerFrame)
    (choice : ServerChoice) : Option (TcpServer × ServerFrame) :=
  match frame with
  | .ready _ => server.advanceReady choice
  | .acceptLoop place => server.advanceAccept place choice
  | .handleConnection conn place => server.advanceConn clientIP conn place choice
  | .panic => if choice = .run then some ({ server with crashed := true }, .panic) else none
  | .shutdown call place => server.advanceShutdown call place choice
  | .waiter call place => server.advanceWaiter call place choice

/-- The next step of one goroutine, unless the program has crashed. -/
def advance (clientIP : Nat → List UInt8) (server : TcpServer) (frame : ServerFrame)
    (choice : ServerChoice) : Option (TcpServer × ServerFrame) :=
  if server.crashed then none else server.advanceRunning clientIP frame choice

/-- A server that is to run with the given backends. -/
def listening (heap : BackendHeap) (pool : Pool) (balancer : LoadBalancer) : TcpServer where
  heap := heap
  pool := pool
  balancer := balancer
  totalConnections := 0
  activeConnections := 0
  -- `Start` has added the accept loop.
  wg := 1
  cancelled := false
  listenerClosed := false
  accepted := 0
  starting := []
  closed := []
  calls := 0
  waiting := []
  done := []
  crashed := false

/-- What `Start` leaves behind: an accept loop, and nothing else that runs. -/
def start (heap : BackendHeap) (pool : Pool) (balancer : LoadBalancer) :
    Threads TcpServer ServerFrame where
  shared := listening heap pool balancer
  frame
    | 0 => .acceptLoop .accept
    | _ + 1 => .ready none

/-- What each step of a goroutine does, and when it is taken. -/
inductive Step (clientIP : Nat → List UInt8) (server : TcpServer) :
    ServerFrame → ServerChoice → TcpServer → ServerFrame → Prop
  | connected (usable : server.listenerClosed = false) :
      Step clientIP server (.acceptLoop .accept) .connect
        { server with accepted := server.accepted + 1 } (.acceptLoop (.add server.accepted))
  | acceptFailed :
      Step clientIP server (.acceptLoop .accept) .acceptFailed server (.acceptLoop .check)
  | shutsDown (cancelled : server.cancelled = true) :
      Step clientIP server (.acceptLoop .check) .run server (.acceptLoop .leave)
  | acceptsAgain (running : server.cancelled = false) :
      Step clientIP server (.acceptLoop .check) .run server (.acceptLoop .accept)
  | added {conn : Nat} :
      Step clientIP server (.acceptLoop (.add conn)) .run { server with wg := server.wg + 1 }
        (.acceptLoop (.spawn conn))
  | spawned {conn : Nat} :
      Step clientIP server (.acceptLoop (.spawn conn)) .run
        { server with starting := server.starting ++ [conn] } (.acceptLoop .accept)
  | acceptEnded :
      Step clientIP server (.acceptLoop .leave) .run { server with wg := server.wg - 1 }
        (.ready none)
  | counted {conn : Nat} :
      Step clientIP server (.handleConnection conn .count) .run
        { server with totalConnections := server.totalConnections + 1 }
        (.handleConnection conn .activate)
  | activated {conn : Nat} :
      Step clientIP server (.handleConnection conn .activate) .run
        { server with activeConnections := server.activeConnections + 1 }
        (.handleConnection conn .select)
  | panicked {conn : Nat} {balancer : LoadBalancer} :
      Step clientIP server (.handleConnection conn .select) .run
        { server with balancer := balancer } (.handleConnection conn (.deactivate true))
  | unserved {conn : Nat} {balancer : LoadBalancer} :
      Step clientIP server (.handleConnection conn .select) .run
        { server with balancer := balancer } (.handleConnection conn (.deactivate false))
  | selected {conn b : Nat} {balancer : LoadBalancer}
      (selection : server.balancer.selectFor server.heap server.pool (clientIP conn) =
        (balancer, .ok (some b))) :
      Step clientIP server (.handleConnection conn .select) .run
        { server with balancer := balancer } (.handleConnection conn (.increment b))
  | incremented {conn b : Nat} :
      Step clientIP server (.handleConnection conn (.increment b)) .run
        { server with heap := server.heap.incrementConnections b }
        (.handleConnection conn (.dial b))
  | reached {conn b : Nat} (running : server.cancelled = false) :
      Step clientIP server (.handleConnection conn (.dial b)) .reached server
        (.handleConnection conn (.proxyData b))
  | failed {conn b : Nat} :
      Step clientIP server (.handleConnection conn (.dial b)) .failed server
        (.handleConnection conn (.markUnhealthy b))
  | marked {conn b : Nat} :
      Step clientIP server (.handleConnection conn (.markUnhealthy b)) .run
        { server with heap := server.heap.markUnhealthy b } (.handleConnection conn (.decrement b))
  | ended {conn b : Nat} :
      Step clientIP server (.handleConnection conn (.proxyData b)) .ended server
        (.handleConnection conn (.decrement b))
  | decremented {conn b : Nat} :
      Step clientIP server (.handleConnection conn (.decrement b)) .run
        { server with heap := server.heap.decrementConnections b }
        (.handleConnection conn (.deactivate false))
  | deactivated {conn : Nat} {panicking : Bool} :
      Step clientIP server (.handleConnection conn (.deactivate panicking)) .run
        { server with activeConnections := server.activeConnections - 1 }
        (.handleConnection conn (.closeClient panicking))
  | clientClosed {conn : Nat} {panicking : Bool} :
      Step clientIP server (.handleConnection conn (.closeClient panicking)) .run
        { server with closed := server.closed ++ [conn] }
        (.handleConnection conn (.leave panicking))
  | handlerPanicked {conn : Nat} :
      Step clientIP server (.handleConnection conn (.leave true)) .run
        { server with wg := server.wg - 1 } .panic
  | handlerEnded {conn : Nat} :
      Step clientIP server (.handleConnection conn (.leave false)) .run
        { server with wg := server.wg - 1 } (.ready none)
  | crashed : Step clientIP server .panic .run { server with crashed := true } .panic
  | shutdownCalled {outcome : Option ServerStopOutcome} :
      Step clientIP server (.ready outcome) .callShutdown { server with calls := server.calls + 1 }
        (.shutdown server.calls .cancel)
  | cancelled {call : Nat} :
      Step clientIP server (.shutdown call .cancel) .run { server with cancelled := true }
        (.shutdown call .closeListener)
  | listenerClosed {call : Nat} :
      Step clientIP server (.shutdown call .closeListener) .run
        { server with listenerClosed := true } (.shutdown call .spawn)
  | waiterSpawned {call : Nat} :
      Step clientIP server (.shutdown call .spawn) .run
        { server with waiting := server.waiting ++ [call] } (.shutdown call .select)
  | allClosed {call : Nat} (signalled : call ∈ server.done) :
      Step clientIP server (.shutdown call .select) .allClosed server (.ready (some .allClosed))
  | timedOut {call : Nat} :
      Step clientIP server (.shutdown call .select) .timeout server
        (.ready (some .timeoutExceeded))
  | waited {call : Nat} (zero : server.wg = 0) :
      Step clientIP server (.waiter call .wait) .run server (.waiter call .close)
  | signalled {call : Nat} :
      Step clientIP server (.waiter call .close) .run { server with done := server.done ++ [call] }
        (.ready none)
  | handlerBegun {outcome : Option ServerStopOutcome} {conn : Nat} {rest : List Nat}
      (front : server.starting = conn :: rest) :
      Step clientIP server (.ready outcome) .beginHandler { server with starting := rest }
        (.handleConnection conn .count)
  | waiterBegun {outcome : Option ServerStopOutcome} {call : Nat} {rest : List Nat}
      (front : server.waiting = call :: rest) :
      Step clientIP server (.ready outcome) .beginWaiter { server with waiting := rest }
        (.waiter call .wait)

variable {clientIP : Nat → List UInt8} {server next : TcpServer} {frame after : ServerFrame}
  {choice : ServerChoice}

/-- Every step of the accept loop is one of those listed. -/
theorem advanceAccept_step {place : AcceptFrame}
    (taken : server.advanceAccept place choice = some (next, after)) :
    Step clientIP server (.acceptLoop place) choice next after := by
  -- Only `Accept` and the look at the context have two ways to go on.
  unfold advanceAccept at taken
  split at taken
  · split at taken
    · cases taken
    · next usable =>
      cases taken
      exact .connected (by simpa using usable)
  · cases taken
    exact .acceptFailed
  · cases cancelled : server.cancelled with
    | true =>
      simp only [cancelled, if_true] at taken
      cases taken
      exact .shutsDown cancelled
    | false =>
      simp only [cancelled, Bool.false_eq_true, if_false] at taken
      cases taken
      exact .acceptsAgain cancelled
  · cases taken
    exact .added
  · cases taken
    exact .spawned
  · cases taken
    exact .acceptEnded
  · cases taken

/-- Every step of a handler is one of those listed. -/
theorem advanceConn_step {conn : Nat} {place : ConnFrame}
    (taken : server.advanceConn clientIP conn place choice = some (next, after)) :
    Step clientIP server (.handleConnection conn place) choice next after := by
  -- The cases follow the statements of the handler, and then its deferred calls.
  unfold advanceConn at taken
  split at taken
  · cases taken
    exact .counted
  · cases taken
    exact .activated
  · split at taken
    · cases taken
      exact .panicked
    · cases taken
      exact .unserved
    · next selection =>
      cases taken
      exact .selected selection
  · cases taken
    exact .incremented
  · split at taken
    · cases taken
    · next running =>
      cases taken
      exact .reached (by simpa using running)
  · cases taken
    exact .failed
  · cases taken
    exact .marked
  · cases taken
    exact .ended
  · cases taken
    exact .decremented
  · cases taken
    exact .deactivated
  · cases taken
    exact .clientClosed
  · next panicking =>
    cases panicking with
    | true =>
      cases taken
      exact .handlerPanicked
    | false =>
      cases taken
      exact .handlerEnded
  · cases taken

/-- Every step of a call of `Shutdown` is one of those listed. -/
theorem advanceShutdown_step {call : Nat} {place : ServerStopFrame}
    (taken : server.advanceShutdown call place choice = some (next, after)) :
    Step clientIP server (.shutdown call place) choice next after := by
  unfold advanceShutdown at taken
  split at taken
  · cases taken
    exact .cancelled
  · cases taken
    exact .listenerClosed
  · cases taken
    exact .waiterSpawned
  · split at taken
    · next signalled =>
      cases taken
      exact .allClosed signalled
    · cases taken
  · cases taken
    exact .timedOut
  · cases taken

/-- Every step of a goroutine that waits is one of those listed. -/
theorem advanceWaiter_step {call : Nat} {place : WaiterFrame}
    (taken : server.advanceWaiter call place choice = some (next, after)) :
    Step clientIP server (.waiter call place) choice next after := by
  unfold advanceWaiter at taken
  split at taken
  · split at taken
    · next zero =>
      cases taken
      exact .waited zero
    · cases taken
  · cases taken
    exact .signalled
  · cases taken

/-- Whatever a goroutine begins with is one of the steps listed. -/
theorem advanceReady_step {outcome : Option ServerStopOutcome}
    (taken : server.advanceReady choice = some (next, after)) :
    Step clientIP server (.ready outcome) choice next after := by
  unfold advanceReady at taken
  split at taken
  · split at taken
    · next front =>
      cases taken
      exact .handlerBegun front
    · cases taken
  · split at taken
    · next front =>
      cases taken
      exact .waiterBegun front
    · cases taken
  · cases taken
    exact .shutdownCalled
  · cases taken

/-- Every step is one of those listed. -/
theorem advance_step (taken : server.advance clientIP frame choice = some (next, after)) :
    Step clientIP server frame choice next after := by
  unfold advance at taken
  split at taken
  · cases taken
  · unfold advanceRunning at taken
    split at taken
    · exact advanceReady_step taken
    · exact advanceAccept_step taken
    · exact advanceConn_step taken
    · split at taken
      · next ran =>
        cases taken
        rw [ran]
        exact .crashed
      · cases taken
    · exact advanceShutdown_step taken
    · exact advanceWaiter_step taken

end TcpServer

end Balance
