import Balance.Go.Collections
import Balance.Machine.Tally
import Balance.Security.RateBound

/-! The guard in front of the server, which counts the connections of each address. -/

namespace Balance

open Machine

/-- The settings of the guard, as far as connections are counted. -/
structure ProtectionConfig where
  maxConnectionsPerIP : Int
  -- New connections per second and address.
  maxConnectionRate : ℚ
  deriving DecidableEq

/-- The settings used where none are given. -/
def defaultProtectionConfig : ProtectionConfig where
  maxConnectionsPerIP := 100
  maxConnectionRate := 10

/-- The connections of one address. -/
structure IPConnections where
  count : Int
  lastActivity : Int
  deriving DecidableEq

/-- What is known of the connections of every address. -/
structure ConnectionGuard where
  config : ProtectionConfig
  connectionsPerIP : String → Option IPConnections
  connectionRateLimiter : TokenBucket
  totalConnections : Int
  rejectedConnections : Int
  activeConnections : Int

/-- A new guard has seen no connection, and lets in ten seconds' worth of them at once. -/
def newConnectionGuard (config : Option ProtectionConfig) : ConnectionGuard :=
  let config := config.getD defaultProtectionConfig
  { config := config
    connectionsPerIP := fun _ => none
    connectionRateLimiter :=
      newTokenBucket config.maxConnectionRate (Go.toInt64 (config.maxConnectionRate * 10))
    totalConnections := 0
    rejectedConnections := 0
    activeConnections := 0 }

namespace ConnectionGuard

variable (cg : ConnectionGuard)

/-- Whether a new connection is allowed, with the readings of the clock that the call takes. -/
def allowConnection (ip : String) (created now noted : Int) : ConnectionGuard × Bool :=
  let limited := cg.connectionRateLimiter.allow ip created now
  let asked := { cg with
    totalConnections := cg.totalConnections + 1
    connectionRateLimiter := limited.1 }
  if ¬ limited.2 then
    ({ asked with rejectedConnections := asked.rejectedConnections + 1 }, false)
  else
    match asked.connectionsPerIP ip with
    | some ipConns =>
      if ipConns.count ≥ asked.config.maxConnectionsPerIP then
        ({ asked with rejectedConnections := asked.rejectedConnections + 1 }, false)
      else
        ({ asked with
          connectionsPerIP :=
            Function.update asked.connectionsPerIP ip (some ⟨ipConns.count + 1, noted⟩)
          activeConnections := asked.activeConnections + 1 }, true)
    | none =>
      ({ asked with
        connectionsPerIP := Function.update asked.connectionsPerIP ip (some ⟨1, noted⟩)
        activeConnections := asked.activeConnections + 1 }, true)

/-- A connection has ended. -/
def releaseConnection (ip : String) (now : Int) : ConnectionGuard :=
  let entry := (cg.connectionsPerIP ip).bind fun ipConns =>
    if ipConns.count - 1 ≤ 0 then none else some ⟨ipConns.count - 1, now⟩
  { cg with
    connectionsPerIP := Function.update cg.connectionsPerIP ip entry
    activeConnections := cg.activeConnections - 1 }

/-- Forgets the addresses without connections that have not been active for a while. -/
def cleanup (now : Int) : ConnectionGuard :=
  { cg with
    connectionsPerIP := fun ip => (cg.connectionsPerIP ip).filter fun ipConns =>
      decide (¬ (ipConns.count = 0 ∧ Go.since now ipConns.lastActivity > 5 * Go.minute)) }

/-- What a call for a new connection may do. -/
inductive AllowStep (ip : String) (created now noted : Int) : ConnectionGuard → Bool → Prop
  | limited (denied : (cg.connectionRateLimiter.allow ip created now).2 = false) :
      AllowStep ip created now noted
        { cg with
          totalConnections := cg.totalConnections + 1
          connectionRateLimiter := (cg.connectionRateLimiter.allow ip created now).1
          rejectedConnections := cg.rejectedConnections + 1 } false
  | crowded {ipConns : IPConnections}
      (granted : (cg.connectionRateLimiter.allow ip created now).2 = true)
      (tracked : cg.connectionsPerIP ip = some ipConns)
      (full : cg.config.maxConnectionsPerIP ≤ ipConns.count) :
      AllowStep ip created now noted
        { cg with
          totalConnections := cg.totalConnections + 1
          connectionRateLimiter := (cg.connectionRateLimiter.allow ip created now).1
          rejectedConnections := cg.rejectedConnections + 1 } false
  | joined {ipConns : IPConnections}
      (granted : (cg.connectionRateLimiter.allow ip created now).2 = true)
      (tracked : cg.connectionsPerIP ip = some ipConns)
      (room : ipConns.count < cg.config.maxConnectionsPerIP) :
      AllowStep ip created now noted
        { cg with
          totalConnections := cg.totalConnections + 1
          connectionRateLimiter := (cg.connectionRateLimiter.allow ip created now).1
          connectionsPerIP :=
            Function.update cg.connectionsPerIP ip (some ⟨ipConns.count + 1, noted⟩)
          activeConnections := cg.activeConnections + 1 } true
  | opened (granted : (cg.connectionRateLimiter.allow ip created now).2 = true)
      (untracked : cg.connectionsPerIP ip = none) :
      AllowStep ip created now noted
        { cg with
          totalConnections := cg.totalConnections + 1
          connectionRateLimiter := (cg.connectionRateLimiter.allow ip created now).1
          connectionsPerIP := Function.update cg.connectionsPerIP ip (some ⟨1, noted⟩)
          activeConnections := cg.activeConnections + 1 } true

/-- Every call for a new connection does one of these things. -/
theorem allowConnection_step (ip : String) (created now noted : Int) :
    cg.AllowStep ip created now noted (cg.allowConnection ip created now noted).1
      (cg.allowConnection ip created now noted).2 := by
  -- The limiter is asked first, then the entry of the address.
  cases granted : (cg.connectionRateLimiter.allow ip created now).2 with
  | false =>
    simp only [allowConnection, granted]
    exact .limited granted
  | true =>
    cases tracked : cg.connectionsPerIP ip with
    | none =>
      simp only [allowConnection, granted, tracked]
      exact .opened granted tracked
    | some ipConns =>
      by_cases full : cg.config.maxConnectionsPerIP ≤ ipConns.count
      · simp only [allowConnection, granted, tracked, ge_iff_le, full, if_true]
        exact .crowded granted tracked full
      · simp only [allowConnection, granted, tracked, ge_iff_le, full, if_false]
        exact .joined granted tracked (not_le.mp full)

end ConnectionGuard

/-- What happens to a guard. -/
inductive GuardEvent where
  -- A new connection, with the readings of the clock that the call for it takes.
  | allow (ip : String) (created now noted : Int)
  | release (ip : String) (now : Int)
  | cleanup (now : Int)
  -- The limiter of the guard forgets buckets on its own.
  | limiterCleanup (now : Int)

/--
A guard with the latest reading of the clock and its history.

Beside it stand the connections that were allowed, with their instants, and for each address how
many of those have not been released.
-/
structure Guarding where
  guard : ConnectionGuard
  clock : Int
  allowed : List (String × Int)
  held : String → Nat

namespace Guarding

/-- A new guard. -/
def start (config : ProtectionConfig) (now : Int) : Guarding :=
  ⟨newConnectionGuard (some config), now, [], fun _ => 0⟩

/-- Events happen one after the other, and the clock never runs backwards. -/
def step (state : Guarding) : GuardEvent → Option Guarding
  | .allow ip created now noted =>
    if state.clock ≤ created ∧ created ≤ now ∧ now ≤ noted then
      let called := state.guard.allowConnection ip created now noted
      some {
        guard := called.1
        clock := noted
        allowed := if called.2 then (ip, now) :: state.allowed else state.allowed
        held := if called.2 then Function.update state.held ip (state.held ip + 1)
          else state.held }
    else none
  | .release ip now =>
    if state.clock ≤ now then
      some { state with
        guard := state.guard.releaseConnection ip now
        clock := now
        held := Function.update state.held ip (state.held ip - 1) }
    else none
  | .cleanup now =>
    if state.clock ≤ now then some { state with guard := state.guard.cleanup now, clock := now }
    else none
  | .limiterCleanup now =>
    if state.clock ≤ now then
      some { state with
        guard := { state.guard with
          connectionRateLimiter := state.guard.connectionRateLimiter.cleanup now }
        clock := now }
    else none

/-- How many connections of an address were allowed between two instants, both included. -/
def admissions (state : Guarding) (ip : String) (first last : Int) : Nat :=
  state.allowed.countP fun entry => decide (entry.1 = ip ∧ first ≤ entry.2 ∧ entry.2 ≤ last)

variable {state next : Guarding} {event : GuardEvent} {rate : ℚ} {capacity : Int}

/-- What the events do, and when they are possible. -/
inductive Moves (state : Guarding) : GuardEvent → Guarding → Prop
  | refused {ip : String} {created now noted : Int} {guard : ConnectionGuard}
      (times : state.clock ≤ created ∧ created ≤ now ∧ now ≤ noted)
      (call : state.guard.AllowStep ip created now noted guard false) :
      Moves state (.allow ip created now noted) { state with guard := guard, clock := noted }
  | allowed {ip : String} {created now noted : Int} {guard : ConnectionGuard}
      (times : state.clock ≤ created ∧ created ≤ now ∧ now ≤ noted)
      (call : state.guard.AllowStep ip created now noted guard true) :
      Moves state (.allow ip created now noted)
        ⟨guard, noted, (ip, now) :: state.allowed,
          Function.update state.held ip (state.held ip + 1)⟩
  | released {ip : String} {now : Int} (later : state.clock ≤ now) :
      Moves state (.release ip now)
        { state with
          guard := state.guard.releaseConnection ip now
          clock := now
          held := Function.update state.held ip (state.held ip - 1) }
  | cleaned {now : Int} (later : state.clock ≤ now) :
      Moves state (.cleanup now) { state with guard := state.guard.cleanup now, clock := now }
  | forgot {now : Int} (later : state.clock ≤ now) :
      Moves state (.limiterCleanup now)
        { state with
          guard := { state.guard with
            connectionRateLimiter := state.guard.connectionRateLimiter.cleanup now }
          clock := now }

/-- Every event does what is stated for it. -/
theorem moves_of_step (taken : state.step event = some next) : state.Moves event next := by
  -- An event whose readings of the clock are out of order is impossible.
  cases event with
  | allow ip created now noted =>
    simp only [step] at taken
    split at taken
    case isFalse => cases taken
    case isTrue times =>
      cases taken
      have call := state.guard.allowConnection_step ip created now noted
      cases answer : (state.guard.allowConnection ip created now noted).2 with
      | false =>
        rw [answer] at call
        exact .refused times call
      | true =>
        rw [answer] at call
        exact .allowed times call
  | release ip now =>
    simp only [step] at taken
    split at taken
    case isFalse => cases taken
    case isTrue later =>
      cases taken
      exact .released later
  | cleanup now =>
    simp only [step] at taken
    split at taken
    case isFalse => cases taken
    case isTrue later =>
      cases taken
      exact .cleaned later
  | limiterCleanup now =>
    simp only [step] at taken
    split at taken
    case isFalse => cases taken
    case isTrue later =>
      cases taken
      exact .forgot later

end Guarding

end Balance
