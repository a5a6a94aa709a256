import Balance.Config.Config
import Balance.Lb.Balancers
import Balance.Machine.Threads
import Balance.Proxy.Request

/-! The assembled proxy server, and the handlers that serve its clients side by side. -/

namespace Balance

open Machine

/-- What a server counts. -/
structure ServerStats where
  total : Int
  active : Int
  errors : Int
  deriving DecidableEq

/-- A server with its backends and its balancer, and the HTTP settings in HTTP mode. -/
structure ProxyServer where
  http : Option HTTPConfig
  heap : BackendHeap
  pool : Pool
  balancer : LoadBalancer
  stats : ServerStats
  crashed : Bool

/-- The backends that a configuration lists, behind their positions as pointers. -/
def configuredBackends (backends : List BackendConfig) : BackendHeap := fun b =>
  match backends[b]? with
  | some config => newBackend config.name config.address config.weight
  | none => newBackend "" "" 0

/-- Build a server over the configured backends. -/
def newServer (http : Option HTTPConfig) (config : Config) : Except String ProxyServer :=
  let heap := configuredBackends config.backends
  let pool := List.range config.backends.length
  let loadBalancer := config.loadBalancer
  match newLoadBalancer heap pool loadBalancer.algorithm loadBalancer.hashKey with
  | .error message => .error message
  | .ok balancer => .ok ⟨http, heap, pool, balancer, ⟨0, 0, 0⟩, false⟩

/-- A TCP server. -/
def newTCPServer (config : Config) : Except String ProxyServer := newServer none config

/-- An HTTP server, whose settings are read without asking whether there are any. -/
def newHTTPServer (config : Config) : Except String ProxyServer :=
  match newServer config.http config with
  | .error message => .error message
  | .ok server =>
    if config.http.isNone then
      .error "runtime error: invalid memory address or nil pointer dereference"
    else .ok server

/-- What the main program does with a configuration: fill it in, check it, and build the server. -/
def startup (config : Config) : Except String ProxyServer :=
  match config.setDefaults.validate with
  | .error message => .error message
  | .ok config =>
    if config.mode = "tcp" then newTCPServer config
    else if config.mode = "http" then newHTTPServer config
    else .error ("Unsupported mode: " ++ config.mode ++ " (supported: tcp, http)")

/-- A client turns up, with a connection or with an HTTP request. -/
inductive Arrival where
  | connection (clientIP : List UInt8)
  | request (r : Request)

/-- What a handler does with its backend. -/
inductive Exchange where
  /-- A TCP connection is dialled and its bytes are copied both ways. -/
  | connection
  /-- The reverse proxy sends a request and passes the response on. -/
  | roundTrip (sent : Upstream)
  /-- A connection is dialled for a WebSocket, and the request is written to it. -/
  | upgrade (sent : Upstream)

/-- The request that an exchange sends to the backend. -/
def Exchange.sent : Exchange → Option Upstream
  | .connection => none
  | .roundTrip sent => some sent
  | .upgrade sent => some sent

/-- Where a handler stands. -/
inductive HandlerFrame where
  | idle
  /-- A backend was selected and counts the connection, and is now to be reached. -/
  | reaching (b : Nat) (exchange : Exchange)
  /-- The backend was not reached. -/
  | failing (b : Nat) (exchange : Exchange)
  /-- The backend was reached, and data flows. -/
  | serving (b : Nat) (exchange : Exchange)
  /-- All is done but to give the connection back. -/
  | closing (b : Nat)

/-- The backend that a handler is busy with. -/
def HandlerFrame.backend : HandlerFrame → Option Nat
  | .idle => none
  | .reaching b _ => some b
  | .failing b _ => some b
  | .serving b _ => some b
  | .closing b => some b

/-- Why a backend could not be reached. -/
inductive FailureCause where
  | backend
  | cancelled
  deriving DecidableEq

/-- What decides how a handler goes on. -/
inductive HandlerChoice where
  | arrive (arrival : Arrival)
  | reached
  | failed (cause : FailureCause)
  /-- The exchange ends, for an upgrade perhaps with an error between dialling and copying. -/
  | ended (error : Bool)
  | run

namespace ProxyServer

/-- The server has counted an error, which a TCP server does not do. -/
def countError (server : ProxyServer) : ProxyServer :=
  if server.http.isSome then
    { server with stats := { server.stats with errors := server.stats.errors + 1 } }
  else server

/-- The handler of a client returns. -/
def leave (server : ProxyServer) : ProxyServer :=
  { server with stats := { server.stats with active := server.stats.active - 1 } }

/-- Count the connection for the backend selected and set out to reach it, or give up. -/
def proceed (server : ProxyServer) (exchange : Nat → Exchange) :
    Except String (Option Nat) → ProxyServer × HandlerFrame
  -- A panic ends the program, unless the HTTP library recovers it for the one request.
  | .error _ => ({ server.leave with crashed := server.http.isNone }, .idle)
  | .ok none => (server.countError.leave, .idle)
  | .ok (some b) =>
    ({ server with heap := server.heap.incrementConnections b }, .reaching b (exchange b))

/-- Count a client and select a backend for it. -/
def enter (server : ProxyServer) (clientIP : List UInt8) (exchange : Nat → Exchange) :
    ProxyServer × HandlerFrame :=
  let stats :=
    { server.stats with total := server.stats.total + 1, active := server.stats.active + 1 }
  let selection := server.balancer.selectFor server.heap server.pool clientIP
  { server with stats := stats, balancer := selection.1 }.proceed exchange selection.2

/-- What an HTTP handler does with the backend it has selected for a request. -/
def exchangeFor (server : ProxyServer) (http : HTTPConfig) (r : Request) (b : Nat) : Exchange :=
  let address := (server.heap b).address
  if http.enableWebSocket && r.isWebSocketRequest then .upgrade (r.written address)
  else .roundTrip (r.reverseProxied address)

/-- The next step of one handler. -/
def advance (server : ProxyServer) (frame : HandlerFrame) (choice : HandlerChoice) :
    Option (ProxyServer × HandlerFrame) :=
  if server.crashed then none
  else
    match frame, choice with
    | .idle, .arrive (.connection clientIP) =>
      if server.http.isNone then some (server.enter clientIP fun _ => .connection) else none
    | .idle, .arrive (.request r) =>
      server.http.map fun http => server.enter r.getClientIP (server.exchangeFor http r)
    | .reaching b exchange, .reached => some (server, .serving b exchange)
    -- Why the backend was not reached makes no difference.
    | .reaching b exchange, .failed _ => some (server, .failing b exchange)
    | .failing b _, .run =>
      some ({ server.countError with heap := server.heap.markUnhealthy b }, .closing b)
    | .serving b (.upgrade _), .ended error =>
      some (if error then server.countError else server, .closing b)
    | .serving b _, .ended false => some (server, .closing b)
    | .closing b, .run =>
      some ({ server.leave with heap := server.heap.decrementConnections b }, .idle)
    | _, _ => none

variable {server next : ProxyServer} {frame after : HandlerFrame} {choice : HandlerChoice}

/-- Counting an error leaves everything but the count alone. -/
theorem countError_eq (server : ProxyServer) :
    ∃ stats, server.countError = { server with stats := stats } := by
  -- A TCP server counts no errors, which is a count of none.
  unfold countError
  split
  · exact ⟨_, rfl⟩
  · exact ⟨server.stats, rfl⟩

/-- Proceeding with a selection changes no flag, and goes on only with the backend selected. -/
theorem proceed_cases {exchange : Nat → Exchange} {selected : Except String (Option Nat)}
    (proceeded : server.proceed exchange selected = (next, after)) :
    next.pool = server.pool ∧ next.balancer = server.balancer ∧
      (∀ b, next.heap.isHealthy b = server.heap.isHealthy b) ∧
      (after = .idle ∨ ∃ b, selected = .ok (some b) ∧ after = .reaching b (exchange b)) := by
  -- A panic, a missing backend and a selected one are the three outcomes.
  cases selected with
  | error message =>
    cases proceeded
    exact ⟨rfl, rfl, fun _ => rfl, .inl rfl⟩
  | ok found =>
    cases found with
    | none =>
      obtain ⟨stats, counted⟩ := countError_eq server
      cases proceeded
      rw [leave, counted]
      exact ⟨rfl, rfl, fun _ => rfl, .inl rfl⟩
    | some b =>
      cases proceeded
      refine ⟨rfl, rfl, ?_, .inr ⟨b, rfl, rfl⟩⟩
      intro other
      simp [BackendHeap.incrementConnections]

/-- A new handler changes the balancer and the counts, and the flag of no backend. -/
theorem enter_cases {clientIP : List UInt8} {exchange : Nat → Exchange}
    (entered : server.enter clientIP exchange = (next, after)) :
    next.pool = server.pool ∧
      next.balancer = (server.balancer.selectFor server.heap server.pool clientIP).1 ∧
      (∀ b, next.heap.isHealthy b = server.heap.isHealthy b) ∧
      (after = .idle ∨
        ∃ b, (server.balancer.selectFor server.heap server.pool clientIP).2 = .ok (some b) ∧
          after = .reaching b (exchange b)) :=
  proceed_cases entered

/-- What one step of a handler can do. -/
theorem advance_cases (advanced : server.advance frame choice = some (next, after)) :
    (∃ clientIP exchange, frame = .idle ∧ server.enter clientIP exchange = (next, after)) ∨
      (∃ b exchange, frame = .failing b exchange ∧ choice = .run ∧
        next = { server.countError with heap := server.heap.markUnhealthy b } ∧
        after = .closing b) ∨
      (∃ b, frame = .closing b ∧ after = .idle ∧
        next = { server.leave with heap := server.heap.decrementConnections b }) ∨
      (∃ b exchange, (frame = .reaching b exchange ∨ frame = .serving b exchange) ∧
        after.backend = some b ∧ (next = server ∨ next = server.countError)) := by
  -- The cases follow the definition, after the test that the server still runs.
  unfold advance at advanced
  split at advanced
  · cases advanced
  · split at advanced
    · -- A TCP client arrives.
      split at advanced
      · exact .inl ⟨_, _, rfl, Option.some.inj advanced⟩
      · cases advanced
    · -- An HTTP request arrives.
      obtain ⟨http, _, entered⟩ := Option.map_eq_some_iff.mp advanced
      exact .inl ⟨_, _, rfl, entered⟩
    · cases advanced
      exact .inr (.inr (.inr ⟨_, _, .inl rfl, rfl, .inl rfl⟩))
    · cases advanced
      exact .inr (.inr (.inr ⟨_, _, .inl rfl, rfl, .inl rfl⟩))
    · cases advanced
      exact .inr (.inl ⟨_, _, rfl, rfl, rfl, rfl⟩)
    · rename_i b sent error
      cases error with
      | false =>
        cases advanced
        exact .inr (.inr (.inr ⟨_, _, .inr rfl, rfl, .inl rfl⟩))
      | true =>
        cases advanced
        exact .inr (.inr (.inr ⟨_, _, .inr rfl, rfl, .inr rfl⟩))
    · cases advanced
      exact .inr (.inr (.inr ⟨_, _, .inr rfl, rfl, .inl rfl⟩))
    · cases advanced
      exact .inr (.inr (.inl ⟨_, rfl, rfl, rfl⟩))
    · cases advanced

end ProxyServer

/-- A server with its handlers. -/
abbrev ProxyWorld := Threads ProxyServer HandlerFrame

namespace ProxyWorld

/-- A server that has no client yet. -/
def start (server : ProxyServer) : ProxyWorld := ⟨server, fun _ => .idle⟩

/-- One handler takes its next step. -/
def step : ProxyWorld → Nat × HandlerChoice → Option ProxyWorld := Threads.step ProxyServer.advance

end ProxyWorld

end Balance
