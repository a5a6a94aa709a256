import Balance.Machine.Tally
import Balance.Tls.Termination
import Mathlib.Data.Finset.Card

/-! Accepting with a context: who gets a connection, and which connections count as active. -/

namespace Balance

open Machine

/-- Where the goroutine stands that accepts for a call, up to the result in the channel. -/
inductive AcceptPlace where
  | accept
  | total (conn : Nat)
  | active (conn : Nat)
  | send (result : Option Nat)
  | sent (result : Option Nat)
  deriving DecidableEq

/-- Where the caller stands, who waits for the result or for the end of the context. -/
inductive CallerPlace where
  | waiting
  | cancelled
  | returned (result : Option Nat)
  deriving DecidableEq

/-- The places at which closing a connection may be interrupted. -/
inductive ClosePlace where
  | check
  | decrement
  | mark
  | shut
  deriving DecidableEq

/-- Where one call stands: each call has a place of its own, which it keeps when it returns. -/
inductive TLSFrame where
  | idle
  | call (caller : CallerPlace) (goroutine : AcceptPlace)
  | closing (conn : Nat) (place : ClosePlace)
  deriving DecidableEq

/-- What the callers, the network, the contexts and the scheduler decide at a step. -/
inductive TLSChoice where
  | call
  | close (conn : Nat)
  -- The listener has a connection for the goroutine, or an error.
  | take
  | fail
  -- Which case the select of the caller takes.
  | receive
  | cancel
  | run
  deriving DecidableEq

/--
A terminator with the connections taken from its listener, which are numbered in their order.

Beside the flag of each connection stand those that were returned to a caller, those that were
counted off, and those whose network connection was closed.
-/
structure Accepting where
  terminator : Terminator
  nextConn : Nat
  closed : Nat → Bool
  returned : Finset Nat
  released : Finset Nat
  shut : Finset Nat

namespace Accepting

/-- One more connection is counted. -/
def addTotal (s : Accepting) : Accepting :=
  { s with terminator :=
      { s.terminator with totalConnections := s.terminator.totalConnections + 1 } }

/-- The number of active connections is changed. -/
def addActive (s : Accepting) (delta : Int) : Accepting :=
  { s with terminator :=
      { s.terminator with activeConnections := s.terminator.activeConnections + delta } }

/-- One step of a call. -/
def advance (s : Accepting) : TLSFrame → TLSChoice → Option (Accepting × TLSFrame)
  | .idle, .call => some (s, .call .waiting .accept)
  -- Only a connection that was returned to somebody can be closed.
  | .idle, .close conn => if conn ∈ s.returned then some (s, .closing conn .check) else none
  | .call caller .accept, .take =>
    if s.terminator.listener.isSome then
      some ({ s with nextConn := s.nextConn + 1 }, .call caller (.total s.nextConn))
    else none
  | .call caller .accept, .fail => some (s, .call caller (.send none))
  | .call caller (.total conn), .run => some (s.addTotal, .call caller (.active conn))
  | .call caller (.active conn), .run => some (s.addActive 1, .call caller (.send (some conn)))
  | .call caller (.send result), .run => some (s, .call caller (.sent result))
  | .call .waiting (.sent (some conn)), .receive =>
    some ({ s with returned := insert conn s.returned },
      .call (.returned (some conn)) (.sent (some conn)))
  | .call .waiting (.sent none), .receive => some (s, .call (.returned none) (.sent none))
  | .call .waiting place, .cancel => some (s, .call .cancelled place)
  | .closing conn .check, .run =>
    some (s, .closing conn (if s.closed conn then .shut else .decrement))
  | .closing conn .decrement, .run =>
    some ({ s.addActive (-1) with released := insert conn s.released }, .closing conn .mark)
  | .closing conn .mark, .run =>
    some ({ s with closed := Function.update s.closed conn true }, .closing conn .shut)
  | .closing conn .shut, .run => some ({ s with shut := insert conn s.shut }, .idle)
  | _, _ => none

/-- What each step does, and when it is taken. -/
inductive TLSStep (s : Accepting) : TLSFrame → TLSChoice → Accepting → TLSFrame → Prop
  | called : TLSStep s .idle .call s (.call .waiting .accept)
  | calledClose {conn : Nat} (known : conn ∈ s.returned) :
      TLSStep s .idle (.close conn) s (.closing conn .check)
  | took {caller : CallerPlace} :
      TLSStep s (.call caller .accept) .take { s with nextConn := s.nextConn + 1 }
        (.call caller (.total s.nextConn))
  | failed {caller : CallerPlace} :
      TLSStep s (.call caller .accept) .fail s (.call caller (.send none))
  | totalled {caller : CallerPlace} {conn : Nat} :
      TLSStep s (.call caller (.total conn)) .run s.addTotal (.call caller (.active conn))
  | activated {caller : CallerPlace} {conn : Nat} :
      TLSStep s (.call caller (.active conn)) .run (s.addActive 1)
        (.call caller (.send (some conn)))
  | sent {caller : CallerPlace} {result : Option Nat} :
      TLSStep s (.call caller (.send result)) .run s (.call caller (.sent result))
  | received {conn : Nat} :
      TLSStep s (.call .waiting (.sent (some conn))) .receive
        { s with returned := insert conn s.returned }
        (.call (.returned (some conn)) (.sent (some conn)))
  | receivedError :
      TLSStep s (.call .waiting (.sent none)) .receive s (.call (.returned none) (.sent none))
  | cancelled {place : AcceptPlace} :
      TLSStep s (.call .waiting place) .cancel s (.call .cancelled place)
  | skipped {conn : Nat} (flag : s.closed conn = true) :
      TLSStep s (.closing conn .check) .run s (.closing conn .shut)
  | checked {conn : Nat} (flag : s.closed conn = false) :
      TLSStep s (.closing conn .check) .run s (.closing conn .decrement)
  | decremented {conn : Nat} :
      TLSStep s (.closing conn .decrement) .run
        { s.addActive (-1) with released := insert conn s.released } (.closing conn .mark)
  | marked {conn : Nat} :
      TLSStep s (.closing conn .mark) .run
        { s with closed := Function.update s.closed conn true } (.closing conn .shut)
  | shut {conn : Nat} :
      TLSStep s (.closing conn .shut) .run { s with shut := insert conn s.shut } .idle

variable {s next : Accepting} {frame after : TLSFrame} {choice : TLSChoice}

/-- Every step is one of those listed. -/
theorem advance_step (taken : s.advance frame choice = some (next, after)) :
    TLSStep s frame choice next after := by
  -- The cases come in the order of the statements.
  unfold advance at taken
  split at taken
  · cases taken
    exact .called
  · split at taken
    · next known =>
      cases taken
      exact .calledClose known
    · cases taken
  · split at taken
    · cases taken
      exact .took
    · cases taken
  · cases taken
    exact .failed
  · cases taken
    exact .totalled
  · cases taken
    exact .activated
  · cases taken
    exact .sent
  · cases taken
    exact .received
  · cases taken
    exact .receivedError
  · cases taken
    exact .cancelled
  · next conn =>
    cases flag : s.closed conn with
    | true =>
      rw [flag] at taken
      cases taken
      exact .skipped flag
    | false =>
      rw [flag] at taken
      cases taken
      exact .checked flag
  · cases taken
    exact .decremented
  · cases taken
    exact .marked
  · cases taken
    exact .shut
  · cases taken

end Accepting

/-- The connection that a goroutine has taken. -/
def AcceptPlace.conn : AcceptPlace → Option Nat
  | .accept => none
  | .total conn | .active conn => some conn
  | .send result | .sent result => result

/-- The connection that a caller has got. -/
def CallerPlace.conn : CallerPlace → Option Nat
  | .returned result => result
  | _ => none

namespace TLSFrame

/-- The connection that the goroutine of a call has taken. -/
def holds : TLSFrame → Option Nat
  | .call _ place => place.conn
  | _ => none

/-- The connection that a call has returned to its caller. -/
def delivers : TLSFrame → Option Nat
  | .call caller _ => caller.conn
  | _ => none

/-- The connection that a call closes and may count off. -/
def closes : TLSFrame → Option Nat
  | .closing conn _ => some conn
  | _ => none

/-- The connection of which a call has found the flag unset, and has not set it yet. -/
def busy : TLSFrame → Option Nat
  | .closing conn .decrement | .closing conn .mark => some conn
  | _ => none

/-- A caller is waiting for a connection. -/
def waits : TLSFrame → Bool
  | .call .waiting _ => true
  | _ => false

/-- A call has counted its connection as active. -/
def counted : TLSFrame → Bool
  | .call _ (.send (some _)) | .call _ (.sent (some _)) => true
  | _ => false

/-- A connection is on its way to a caller who waits for it, or has been returned. -/
def Has (frame : TLSFrame) (conn : Nat) : Prop :=
  frame.waits = true ∧ frame.holds = some conn ∨ frame.delivers = some conn

/-- A caller who has left has left no connection behind, and one who has returned has the result. -/
def Settled : TLSFrame → Prop
  | .call .cancelled place => place.conn = none
  | .call (.returned result) place => place = .sent result
  | _ => True

/-- What a call adds to the connections that were counted as active. -/
def share (frame : TLSFrame) : Int := if frame.counted then 1 else 0

/-- What a call adds to the connections that were returned. -/
def handed (frame : TLSFrame) : Int := if frame.delivers.isSome then 1 else 0

end TLSFrame

/--
The steps that leave no connection with a goroutine whose caller has left.

A goroutine takes a connection only for a caller who still waits, and a caller leaves only while
the goroutine has none.
-/
def Accepting.Orderly : TLSChoice → TLSFrame → Prop
  | .take, .call caller .accept => caller = .waiting
  | .cancel, .call .waiting place => place.conn = none
  | _, _ => True

/-- A terminator with all calls that accept from it or close what they were given. -/
abbrev TLSWorld := Threads Accepting TLSFrame

namespace TLSWorld

/-- A terminator with a listener, and nobody using it yet. -/
def start (config : Tls.Config) (listener : Option StdConfig) : TLSWorld :=
  ⟨⟨⟨config, config.buildTLSConfig, listener, 0, 0⟩, 0, fun _ => false, ∅, ∅, ∅⟩, fun _ => .idle⟩

/-- One call takes a step. -/
abbrev step : TLSWorld → Nat × TLSChoice → Option TLSWorld := Threads.step Accepting.advance

/--
No connection is lost.

Each connection taken from the listener is closed, or belongs to exactly one call that has
returned it or is about to. When no caller waits, the active connections are those that were
returned and not closed.
-/
structure NothingLost (world : TLSWorld) : Prop where
  delivered : ∀ conn < world.shared.nextConn,
    conn ∈ world.shared.shut ∨ ∃! thread, (world.frame thread).Has conn
  balanced : (∀ thread, (world.frame thread).waits = false) →
    world.shared.terminator.activeConnections =
      ((world.shared.returned \ world.shared.released).card : Int)

/--
The steps that lose nothing.

Beside leaving no connection behind, nobody finds the flag of a connection unset that another is
about to set.
-/
structure Careful (world : TLSWorld) (label : Nat × TLSChoice) : Prop where
  orderly : Accepting.Orderly label.2 (world.frame label.1)
  alone : ∀ conn, world.frame label.1 = .closing conn .check →
    world.shared.closed conn = false → ∀ thread, (world.frame thread).busy ≠ some conn

end TLSWorld

end Balance
