import Balance.Machine.Run
import Mathlib.Logic.Function.Basic

/-! Two connections whose streams are copied to each other, and when they are closed. -/

namespace Balance

open Machine

/-- The two connections of a relay, `conn1` and `conn2`, or client and backend. -/
inductive Peer where
  | one
  | two
  deriving DecidableEq

namespace Peer

/-- The connection that the stream of a peer is copied to. -/
def other : Peer → Peer
  | .one => .two
  | .two => .one

/-- A peer is not copied to itself. -/
@[simp] theorem other_ne (p : Peer) : p.other ≠ p := by
  cases p <;> decide

/-- The peer of a peer's peer. -/
@[simp] theorem other_other (p : Peer) : p.other.other = p := by
  cases p <;> rfl

/-- There are two peers. -/
theorem eq_or_eq_other (p q : Peer) : q = p ∨ q = p.other := by
  cases p <;> cases q <;> decide

end Peer

/-- The functions of the proxy that copy between two connections. -/
inductive RelayKind where
  | bidirectionalCopy
  | optimizedBidirectionalCopy
  | proxyData
  deriving DecidableEq

/-- Whether both connections are closed as soon as one direction is through. -/
def RelayKind.closesFirst : RelayKind → Bool
  | .bidirectionalCopy => true
  | .optimizedBidirectionalCopy => true
  | .proxyData => false

/-- What a copy returns when a connection is closed under it. -/
inductive RelayError where
  | closed
  deriving DecidableEq

/-- One end of a relay. -/
structure Conn where
  /-- What the peer writes before its end of stream and has not been read yet. -/
  incoming : List UInt8
  /-- What has been sent to the peer. -/
  sent : List UInt8
  closed : Bool
  writeClosed : Bool
  deriving DecidableEq

/-- Where the goroutine stands that copies the stream of a peer. -/
inductive CopierFrame where
  | reading
  | writing (chunk : List UInt8)
  | finishing (err : Option RelayError)
  | finished
  deriving DecidableEq

/-- The chunk that has been read and not been written yet. -/
def CopierFrame.chunk : CopierFrame → List UInt8
  | .writing chunk => chunk
  | _ => []

/-- Where the function stands that has started both goroutines. -/
inductive RelayFrame where
  | waiting
  | closing (err : Option RelayError)
  | closingOther (err : Option RelayError)
  | joining (err : Option RelayError)
  | returned (err : Option RelayError)
  deriving DecidableEq

/-- Two connections, the goroutines that copy, and the results in the channel. -/
structure Relay where
  conn : Peer → Conn
  copier : Peer → CopierFrame
  errChan : List (Option RelayError)
  main : RelayFrame

/-- Who takes the next step; a read takes so many bytes. -/
inductive RelayChoice where
  | copier (p : Peer) (count : Nat)
  | main
  deriving DecidableEq

namespace Relay

/-- Both connections are up, and both peers have their streams to write. -/
def start (streams : Peer → List UInt8) : Relay where
  conn := fun p => ⟨streams p, [], false, false⟩
  copier := fun _ => .reading
  errChan := []
  main := .waiting

variable (kind : RelayKind) (detached : Peer → Bool)

/--
One step of the goroutine that copies the stream of a peer.

A copier that splices works on duplicates of the descriptors, which stay open when the
connections are closed: it is detached from them.
-/
def copy (state : Relay) (p : Peer) (count : Nat) : Option Relay :=
  match state.copier p with
  | .reading =>
    if (state.conn p).closed = true ∧ detached p = false then
      some { state with copier := Function.update state.copier p (.finishing (some .closed)) }
    else if (state.conn p).incoming = [] then
      some { state with copier := Function.update state.copier p (.finishing none) }
    else if 0 < count ∧ count ≤ (state.conn p).incoming.length then
      some { state with
        conn := Function.update state.conn p
          { state.conn p with incoming := (state.conn p).incoming.drop count }
        copier := Function.update state.copier p
          (.writing ((state.conn p).incoming.take count)) }
    else none
  | .writing chunk =>
    if ((state.conn p.other).closed = true ∧ detached p = false) ∨
        (state.conn p.other).writeClosed = true then
      some { state with copier := Function.update state.copier p (.finishing (some .closed)) }
    else
      some { state with
        conn := Function.update state.conn p.other
          { state.conn p.other with sent := (state.conn p.other).sent ++ chunk }
        copier := Function.update state.copier p .reading }
  | .finishing err =>
    if kind.closesFirst then
      some { state with
        errChan := state.errChan ++ [err]
        copier := Function.update state.copier p .finished }
    else
      -- The goroutines of `proxyData` close the write side of their destination.
      some { state with
        conn := Function.update state.conn p.other
          { state.conn p.other with writeClosed := true }
        copier := Function.update state.copier p .finished }
  | .finished => none

/-- Close a connection. -/
def close (state : Relay) (p : Peer) : Relay :=
  { state with conn := Function.update state.conn p { state.conn p with closed := true } }

/-- Closing a connection is nothing that its copiers do. -/
@[simp] theorem close_copier (state : Relay) (p : Peer) :
    (state.close p).copier = state.copier := rfl

/-- Closing a connection changes nothing else about it, and nothing about the other. -/
theorem close_conn (state : Relay) (p q : Peer) :
    (state.close p).conn q =
      { state.conn q with closed := decide (q = p) || (state.conn q).closed } := by
  -- Either it is the connection that is closed, or it is left alone.
  by_cases same : q = p
  · simp [close, same]
  · simp [close, same]

/-- One step of the function that has started both goroutines. -/
def runMain (state : Relay) : Option Relay :=
  match state.main with
  | .waiting =>
    if kind.closesFirst then
      match state.errChan with
      | err :: rest => some { state with errChan := rest, main := .closing err }
      | [] => none
    else if state.copier .one = .finished ∧ state.copier .two = .finished then
      some { state with main := .returned none }
    else none
  | .closing err => some { state.close .one with main := .closingOther err }
  | .closingOther err => some { state.close .two with main := .joining err }
  | .joining err =>
    match state.errChan with
    | _ :: rest => some { state with errChan := rest, main := .returned err }
    | [] => none
  | .returned _ => none

/-- One step of one goroutine. -/
def step (state : Relay) : RelayChoice → Option Relay
  | .copier p count => state.copy kind detached p count
  | .main => state.runMain kind

/-- What one step can do. -/
inductive Moves (state : Relay) : RelayChoice → Relay → Prop where
  | readClosed (p : Peer) (count : Nat) (place : state.copier p = .reading)
    (cut : (state.conn p).closed = true) (plain : detached p = false) :
    Moves state (.copier p count)
      { state with copier := Function.update state.copier p (.finishing (some .closed)) }
  | readEnd (p : Peer) (count : Nat) (place : state.copier p = .reading)
    (empty : (state.conn p).incoming = []) :
    Moves state (.copier p count)
      { state with copier := Function.update state.copier p (.finishing none) }
  | read (p : Peer) (count : Nat) (place : state.copier p = .reading) (positive : 0 < count)
    (within : count ≤ (state.conn p).incoming.length) :
    Moves state (.copier p count) { state with
      conn := Function.update state.conn p
        { state.conn p with incoming := (state.conn p).incoming.drop count }
      copier := Function.update state.copier p
        (.writing ((state.conn p).incoming.take count)) }
  | writeClosed (p : Peer) (count : Nat) (chunk : List UInt8)
    (place : state.copier p = .writing chunk)
    (cut : ((state.conn p.other).closed = true ∧ detached p = false) ∨
      (state.conn p.other).writeClosed = true) :
    Moves state (.copier p count)
      { state with copier := Function.update state.copier p (.finishing (some .closed)) }
  | wrote (p : Peer) (count : Nat) (chunk : List UInt8) (place : state.copier p = .writing chunk) :
    Moves state (.copier p count) { state with
      conn := Function.update state.conn p.other
        { state.conn p.other with sent := (state.conn p.other).sent ++ chunk }
      copier := Function.update state.copier p .reading }
  | reported (p : Peer) (count : Nat) (err : Option RelayError)
    (place : state.copier p = .finishing err) (first : kind.closesFirst = true) :
    Moves state (.copier p count) { state with
      errChan := state.errChan ++ [err]
      copier := Function.update state.copier p .finished }
  | halfClosed (p : Peer) (count : Nat) (err : Option RelayError)
    (place : state.copier p = .finishing err) (last : kind.closesFirst = false) :
    Moves state (.copier p count) { state with
      conn := Function.update state.conn p.other { state.conn p.other with writeClosed := true }
      copier := Function.update state.copier p .finished }
  | took (err : Option RelayError) (rest : List (Option RelayError))
    (place : state.main = .waiting) (first : kind.closesFirst = true)
    (results : state.errChan = err :: rest) :
    Moves state .main { state with errChan := rest, main := .closing err }
  | waited (place : state.main = .waiting) (last : kind.closesFirst = false)
    (all : ∀ p, state.copier p = .finished) :
    Moves state .main { state with main := .returned none }
  | closed (p : Peer) (err : Option RelayError) (frame : RelayFrame)
    (place : (state.main, p, frame) ∈
      [(.closing err, .one, .closingOther err), (.closingOther err, .two, .joining err)]) :
    Moves state .main { state.close p with main := frame }
  | joined (err last : Option RelayError) (rest : List (Option RelayError))
    (place : state.main = .joining err) (results : state.errChan = last :: rest) :
    Moves state .main { state with errChan := rest, main := .returned err }

variable {kind detached} {state next : Relay} {choice : RelayChoice}

/-- Every step of a goroutine that copies is one of these moves. -/
theorem copy_moves {p : Peer} {count : Nat} (taken : state.copy kind detached p count = some next) :
    Moves kind detached state (.copier p count) next := by
  -- The frame of the goroutine says whether it reads, writes or is about to end.
  rw [copy] at taken
  split at taken
  · rename_i place
    split at taken
    · rename_i cut
      cases taken
      exact .readClosed p count place cut.1 cut.2
    · split at taken
      · rename_i empty
        cases taken
        exact .readEnd p count place empty
      · split at taken
        · rename_i within
          cases taken
          exact .read p count place within.1 within.2
        · cases taken
  · rename_i chunk place
    split at taken
    · rename_i cut
      cases taken
      exact .writeClosed p count chunk place cut
    · cases taken
      exact .wrote p count chunk place
  · rename_i err place
    split at taken
    · rename_i first
      cases taken
      exact .reported p count err place first
    · rename_i last
      cases taken
      exact .halfClosed p count err place (by simpa using last)
  · cases taken

/-- Every step of the function that waits for them is one of these moves. -/
theorem runMain_moves (taken : state.runMain kind = some next) :
    Moves kind detached state .main next := by
  -- It waits for results only if it is to close first, and for the goroutines themselves if not.
  rw [runMain] at taken
  split at taken
  · rename_i place
    split at taken
    · rename_i first
      split at taken
      · rename_i err rest results
        cases taken
        exact .took err rest place first results
      · cases taken
    · rename_i last
      split at taken
      · rename_i all
        cases taken
        refine .waited place (by simpa using last) ?_
        intro p
        cases p with
        | one => exact all.1
        | two => exact all.2
      · cases taken
  · rename_i err place
    cases taken
    exact .closed .one err _ (by simp [place])
  · rename_i err place
    cases taken
    exact .closed .two err _ (by simp [place])
  · rename_i err place
    split at taken
    · rename_i last rest results
      cases taken
      exact .joined err last rest place results
    · cases taken
  · cases taken

/-- Every step is one of these moves. -/
theorem step_moves (taken : state.step kind detached choice = some next) :
    Moves kind detached state choice next := by
  cases choice with
  | copier p count => exact copy_moves taken
  | main => exact runMain_moves taken

end Relay

/-- The bytes of a stream are sent, in the hands of its copier, or still to be read. -/
structure Lane (stream : List UInt8) (frame : CopierFrame) (incoming sent : List UInt8)
    (writeClosed : Bool) : Prop where
  whole : sent ++ (frame.chunk ++ incoming) = stream
  chunk : ∀ chunk, frame = .writing chunk → chunk ≠ []
  ended : ∀ err, frame = .finishing err → incoming = []
  finished : frame = .finished → incoming = []
  half : writeClosed = true → frame = .finished

namespace Lane

variable {stream incoming sent chunk : List UInt8} {writeClosed : Bool} {err : Option RelayError}

/-- A chunk is read. -/
theorem read (lane : Lane stream .reading incoming sent writeClosed) {count : Nat}
    (positive : 0 < count) (within : count ≤ incoming.length) :
    Lane stream (.writing (incoming.take count)) (incoming.drop count) sent writeClosed := by
  -- The chunk is the front of what was to be read.
  refine ⟨?_, ?_, nofun, nofun, ?_⟩
  · simpa [CopierFrame.chunk] using lane.whole
  · intro chunk writing empty
    cases writing
    have short := congrArg List.length empty
    simp only [List.length_take, List.length_nil] at short
    omega
  · intro half
    cases lane.half half

/-- The chunk is written. -/
theorem wrote (lane : Lane stream (.writing chunk) incoming sent writeClosed) :
    Lane stream .reading incoming (sent ++ chunk) writeClosed := by
  refine ⟨?_, nofun, nofun, nofun, ?_⟩
  · simpa [CopierFrame.chunk] using lane.whole
  · intro half
    cases lane.half half

/-- The copy ends with nothing left to read. -/
theorem finish (lane : Lane stream .reading incoming sent writeClosed) (empty : incoming = [])
    (err : Option RelayError) : Lane stream (.finishing err) incoming sent writeClosed := by
  refine ⟨lane.whole, nofun, fun _ _ => empty, nofun, ?_⟩
  intro half
  cases lane.half half

/-- The goroutine is through, and may close the write side of its destination. -/
theorem done (lane : Lane stream (.finishing err) incoming sent writeClosed) (closes : Bool) :
    Lane stream .finished incoming sent closes :=
  ⟨lane.whole, nofun, nofun, fun _ => lane.ended err rfl, fun _ => rfl⟩

/-- A goroutine that is through has sent the whole stream. -/
theorem sent_of_finished (lane : Lane stream .finished incoming sent writeClosed) :
    sent = stream := by
  have whole := lane.whole
  rw [lane.finished rfl] at whole
  simpa [CopierFrame.chunk] using whole

end Lane

namespace Relay

variable {kind : RelayKind} {detached : Peer → Bool} {streams : Peer → List UInt8}
  {state next : Relay} {choice : RelayChoice}

/-- The copier of a peer has nothing in its hands, and nothing left to read. -/
def Quiet (state : Relay) (p : Peer) : Prop :=
  (state.copier p).chunk = [] ∧ (state.conn p).incoming = []

/-- Each peer has been sent what the other has written. -/
def Delivered (streams : Peer → List UInt8) (state : Relay) : Prop :=
  ∀ err, state.main = .returned err → ∀ p, (state.conn p.other).sent = streams p

/-- The first result is taken when no copier that a close would stop has anything left to do. -/
def TakesQuiet (detached : Peer → Bool) (state : Relay) (choice : RelayChoice) : Prop :=
  choice = .main → state.main = .waiting → ∀ p, detached p = false → state.Quiet p

/-- The stream of a peer, wherever its bytes are. -/
def LaneOf (streams : Peer → List UInt8) (state : Relay) (p : Peer) : Prop :=
  Lane (streams p) (state.copier p) (state.conn p).incoming (state.conn p.other).sent
    (state.conn p.other).writeClosed

/-- How many results the function has taken from the channel. -/
def taken (state : Relay) : Nat :=
  match state.main with
  | .waiting => 0
  | .returned _ => 2
  | _ => 1

/-- How many goroutines are through. -/
def through (state : Relay) : Nat :=
  (if state.copier .one = .finished then 1 else 0) +
    if state.copier .two = .finished then 1 else 0

/-- No byte is lost, and only quiet copiers are left when the connections are closed. -/
structure Sound (kind : RelayKind) (detached : Peer → Bool) (streams : Peer → List UInt8)
    (state : Relay) : Prop where
  lanes : ∀ p, state.LaneOf streams p
  openly : state.main = .waiting → ∀ p, (state.conn p).closed = false
  quiet : state.main ≠ .waiting → ∀ p, detached p = false → state.Quiet p
  joined : ∀ err, state.main = .returned err → ∀ p, state.copier p = .finished
  tally : kind.closesFirst = true → state.errChan.length + state.taken = state.through
  closes : kind.closesFirst = false → state.main = .waiting ∨ ∃ err, state.main = .returned err

/-- A step of one copier is seen in the lane of its own stream only. -/
theorem lanes_update (lanes : ∀ p, state.LaneOf streams p) (p : Peer) {conn : Peer → Conn}
    {frame : CopierFrame} (errChan : List (Option RelayError))
    (own : Lane (streams p) frame (conn p).incoming (conn p.other).sent (conn p.other).writeClosed)
    (mine : (conn p).sent = (state.conn p).sent ∧ (conn p).writeClosed = (state.conn p).writeClosed)
    (other : (conn p.other).incoming = (state.conn p.other).incoming) (q : Peer) :
    LaneOf streams ⟨conn, Function.update state.copier p frame, errChan, state.main⟩ q := by
  -- The two lanes use different parts of each connection.
  rcases Peer.eq_or_eq_other p q with rfl | rfl
  · simpa only [LaneOf, Function.update_self] using own
  · have lane := lanes p.other
    simp only [LaneOf, Peer.other_other] at lane ⊢
    rw [Function.update_of_ne p.other_ne, mine.1, mine.2, other]
    exact lane

/-- A goroutine that comes through adds one to the number of those that are. -/
theorem through_update {conn : Peer → Conn} {errChan : List (Option RelayError)} {main : RelayFrame}
    (p : Peer) (frame : CopierFrame) (works : state.copier p ≠ .finished) :
    through ⟨conn, Function.update state.copier p frame, errChan, main⟩ =
      state.through + if frame = .finished then 1 else 0 := by
  -- The other goroutine counts as before.
  cases p with
  | one =>
    simp only [through, Function.update_self, if_neg works,
      Function.update_of_ne (show Peer.two ≠ .one by decide)]
    omega
  | two =>
    simp only [through, Function.update_self, if_neg works,
      Function.update_of_ne (show Peer.one ≠ .two by decide)]
    omega

/-- If both goroutines count as through, each of them is. -/
theorem finished_of_through (all : 2 ≤ state.through) (p : Peer) : state.copier p = .finished := by
  -- Each of them counts for one at most.
  unfold through at all
  by_contra works
  cases p with
  | one =>
    rw [if_neg works] at all
    split at all <;> omega
  | two =>
    rw [if_neg works] at all
    split at all <;> omega

namespace Sound

variable (sound : Sound kind detached streams state)

include sound

/-- The lane of a stream, with its copier where it stands. -/
theorem lane {p : Peer} {frame : CopierFrame} (place : state.copier p = frame) :
    Lane (streams p) frame (state.conn p).incoming (state.conn p.other).sent
      (state.conn p.other).writeClosed :=
  place ▸ sound.lanes p

/-- A goroutine that is through has nothing left to do. -/
theorem quiet_of_finished {p : Peer} (through : state.copier p = .finished) : state.Quiet p := by
  refine ⟨?_, (sound.lane through).finished rfl⟩
  rw [through]
  rfl

/-- A plain copier finds a connection closed only when it has nothing left to do. -/
theorem quiet_of_closed {p q : Peer} (cut : (state.conn p).closed = true)
    (plain : detached q = false) : state.Quiet q := by
  -- As long as the function waits, the connections are open.
  apply sound.quiet
  · intro waiting
    rw [sound.openly waiting p] at cut
    cases cut
  · exact plain

/-- A chunk in the hands of a copier is written. -/
theorem not_writeClosed {p : Peer} {chunk : List UInt8} (place : state.copier p = .writing chunk)
    (cut : ((state.conn p.other).closed = true ∧ detached p = false) ∨
      (state.conn p.other).writeClosed = true) : False := by
  -- A close would have found the copier quiet, and only the copier itself half-closes.
  have lane := sound.lane place
  rcases cut with ⟨closed, plain⟩ | half
  · have quiet := (sound.quiet_of_closed closed plain).1
    rw [place] at quiet
    exact lane.chunk chunk rfl quiet
  · cases lane.half half

/-- No step loses a byte of either stream. -/
theorem step_lanes (moves : Moves kind detached state choice next) :
    ∀ p, next.LaneOf streams p := by
  -- What leaves one place of a lane comes to the next.
  cases moves with
  | readClosed p count place cut plain =>
    have lane := sound.lane place
    exact lanes_update sound.lanes p _
      (lane.finish (sound.quiet_of_closed cut plain).2 _) ⟨rfl, rfl⟩ rfl
  | readEnd p count place empty =>
    have lane := sound.lane place
    exact lanes_update sound.lanes p _ (lane.finish empty _) ⟨rfl, rfl⟩ rfl
  | read p count place positive within =>
    have lane := sound.lane place
    apply lanes_update sound.lanes p
    · simpa using lane.read positive within
    · simp
    · simp
  | writeClosed p count chunk place cut => exact absurd cut (sound.not_writeClosed place)
  | wrote p count chunk place =>
    have lane := sound.lane place
    apply lanes_update sound.lanes p
    · simpa [Function.update_of_ne p.other_ne.symm] using lane.wrote
    · simp [Function.update_of_ne p.other_ne.symm]
    · simp
  | reported p count err place first =>
    have lane := sound.lane place
    exact lanes_update sound.lanes p _ (lane.done _) ⟨rfl, rfl⟩ rfl
  | halfClosed p count err place last =>
    have lane := sound.lane place
    apply lanes_update sound.lanes p
    · simpa [Function.update_of_ne p.other_ne.symm] using lane.done true
    · simp [Function.update_of_ne p.other_ne.symm]
    · simp
  | took err rest place first results => exact sound.lanes
  | waited place last all => exact sound.lanes
  | closed p err frame place =>
    intro q
    simpa only [LaneOf, close_conn, close_copier] using sound.lanes q
  | joined err last rest place results => exact sound.lanes

/-- Once the first result has been taken, plain copiers stay quiet. -/
theorem step_quiet (quietly : TakesQuiet detached state choice)
    (moves : Moves kind detached state choice next) (later : next.main ≠ .waiting) :
    ∀ q, detached q = false → next.Quiet q := by
  intro q plain
  -- What a step of a copier leaves in its hands and to be read, for its own stream.
  have update (p : Peer) (frame : CopierFrame) (conn : Peer → Conn)
      (errChan : List (Option RelayError)) (elsewhere : state.main ≠ .waiting)
      (own : detached p = false → state.Quiet p → frame.chunk = [] ∧ (conn p).incoming = [])
      (other : (conn p.other).incoming = (state.conn p.other).incoming) :
      Quiet ⟨conn, Function.update state.copier p frame, errChan, state.main⟩ q := by
    have before := sound.quiet elsewhere q plain
    rcases Peer.eq_or_eq_other p q with rfl | rfl
    · simpa only [Quiet, Function.update_self] using own plain before
    · simpa only [Quiet, Function.update_of_ne p.other_ne, other] using before
  cases moves with
  | readClosed p count place cut _ =>
    exact update p _ _ _ later (fun _ quiet => ⟨rfl, quiet.2⟩) rfl
  | readEnd p count place empty => exact update p _ _ _ later (fun _ _ => ⟨rfl, empty⟩) rfl
  | read p count place positive within =>
    refine update p _ _ _ later ?_ (by simp)
    intro _ quiet
    rw [quiet.2, List.length_nil] at within
    omega
  | writeClosed p count chunk place cut => exact absurd cut (sound.not_writeClosed place)
  | wrote p count chunk place =>
    refine update p _ _ _ later ?_ (by simp)
    intro _ quiet
    simpa [Function.update_of_ne p.other_ne.symm] using ⟨rfl, quiet.2⟩
  | reported p count err place first =>
    exact update p _ _ _ later (fun _ quiet => ⟨rfl, quiet.2⟩) rfl
  | halfClosed p count err place last =>
    refine update p _ _ _ later ?_ (by simp)
    intro _ quiet
    simpa [Function.update_of_ne p.other_ne.symm] using ⟨rfl, quiet.2⟩
  | took err rest place first results => exact quietly rfl place q plain
  | waited place last all => exact sound.quiet_of_finished (all q)
  | closed p err frame place =>
    have elsewhere : state.main ≠ .waiting := by
      intro waiting
      simp [waiting] at place
    simpa only [Quiet, close_conn, close_copier] using sound.quiet elsewhere q plain
  | joined err last rest place results =>
    have elsewhere : state.main ≠ .waiting := by
      intro waiting
      rw [waiting] at place
      cases place
    exact sound.quiet elsewhere q plain

/-- Every result in the channel, or taken from it, is that of a goroutine that is through. -/
theorem step_tally (moves : Moves kind detached state choice next)
    (first : kind.closesFirst = true) : next.errChan.length + next.taken = next.through := by
  have before := sound.tally first
  -- A copier that is not through leaves the count as it is.
  have works (p : Peer) (frame : CopierFrame) (conn : Peer → Conn)
      (was : state.copier p ≠ .finished) (unfinished : frame ≠ .finished) :
      state.errChan.length + state.taken =
        through ⟨conn, Function.update state.copier p frame, state.errChan, state.main⟩ := by
    rw [through_update p frame was, if_neg unfinished]
    exact before
  cases moves with
  | readClosed p count place cut plain => exact works p _ _ (by rw [place]; nofun) nofun
  | readEnd p count place empty => exact works p _ _ (by rw [place]; nofun) nofun
  | read p count place positive within => exact works p _ _ (by rw [place]; nofun) nofun
  | writeClosed p count chunk place cut => exact works p _ _ (by rw [place]; nofun) nofun
  | wrote p count chunk place => exact works p _ _ (by rw [place]; nofun) nofun
  | reported p count err place first =>
    rw [through_update p _ (by rw [place]; nofun)]
    simp only [taken, List.length_append, List.length_singleton, if_true] at before ⊢
    omega
  | halfClosed p count err place last =>
    rw [first] at last
    cases last
  | took err rest place first results =>
    simp only [taken, place, results, List.length_cons] at before ⊢
    exact before
  | waited place last all =>
    rw [first] at last
    cases last
  | closed p err frame place =>
    simp only [List.mem_cons, Prod.mk.injEq, List.not_mem_nil, or_false] at place
    rcases place with ⟨here, _, rfl⟩ | ⟨here, _, rfl⟩
    · simpa [taken, here, close, through] using before
    · simpa [taken, here, close, through] using before
  | joined err last rest place results =>
    simp only [taken, place, results, List.length_cons] at before ⊢
    exact before

/-- Without a close the function only waits and returns. -/
theorem step_closes (moves : Moves kind detached state choice next)
    (last : kind.closesFirst = false) :
    next.main = .waiting ∨ ∃ err, next.main = .returned err := by
  -- The steps between are those of a function that closes.
  have before := sound.closes last
  cases moves with
  | took err rest place first results =>
    rw [first] at last
    cases last
  | waited place last all => exact .inr ⟨none, rfl⟩
  | closed p err frame place =>
    simp only [List.mem_cons, Prod.mk.injEq, List.not_mem_nil, or_false] at place
    rcases place with ⟨here, _⟩ | ⟨here, _⟩ <;> simp [here] at before
  | joined err last rest place results => exact .inr ⟨err, rfl⟩
  | _ => exact before

/-- The function returns after both goroutines. -/
theorem step_joined (moves : Moves kind detached state choice next) (err : Option RelayError)
    (returned : next.main = .returned err) : ∀ p, next.copier p = .finished := by
  -- A goroutine that is not through shows that the function has not returned.
  have works (p : Peer) (unfinished : state.copier p ≠ .finished)
      (already : state.main = .returned err) : ∀ q, next.copier q = .finished :=
    absurd (sound.joined err already p) unfinished
  cases moves with
  | readClosed p count place cut plain => exact works p (by rw [place]; nofun) returned
  | readEnd p count place empty => exact works p (by rw [place]; nofun) returned
  | read p count place positive within => exact works p (by rw [place]; nofun) returned
  | writeClosed p count chunk place cut => exact works p (by rw [place]; nofun) returned
  | wrote p count chunk place => exact works p (by rw [place]; nofun) returned
  | reported p count result place first => exact works p (by rw [place]; nofun) returned
  | halfClosed p count result place last => exact works p (by rw [place]; nofun) returned
  | took result rest place first results => cases returned
  | waited place last all => exact all
  | closed p result frame place =>
    simp only [List.mem_cons, Prod.mk.injEq, List.not_mem_nil, or_false] at place
    rcases place with ⟨_, _, rfl⟩ | ⟨_, _, rfl⟩ <;> cases returned
  | joined result last rest place results =>
    have first : kind.closesFirst = true := by
      by_contra never
      have closes := sound.closes (by simpa using never)
      simp [place] at closes
    have before := sound.tally first
    simp only [taken, place, results, List.length_cons] at before
    have all : ∀ p, state.copier p = .finished := finished_of_through (by omega)
    exact all

/-- Only a close makes a connection closed, and that is after the wait. -/
theorem step_openly (moves : Moves kind detached state choice next)
    (waiting : next.main = .waiting) : ∀ p, (next.conn p).closed = false := by
  -- A write to one connection leaves both as open as they were.
  have update (before : state.main = .waiting) (p : Peer) (conn : Conn)
      (same : conn.closed = (state.conn p).closed) (q : Peer) :
      (Function.update state.conn p conn q).closed = false := by
    rcases Peer.eq_or_eq_other p q with rfl | rfl
    · rw [Function.update_self, same]
      exact sound.openly before q
    · rw [Function.update_of_ne p.other_ne]
      exact sound.openly before p.other
  cases moves with
  | read p count place positive within => exact update waiting p _ rfl
  | wrote p count chunk place => exact update waiting p.other _ rfl
  | halfClosed p count err place last => exact update waiting p.other _ rfl
  | took err rest place first results => cases waiting
  | waited place last all => cases waiting
  | closed p err frame place =>
    simp only [List.mem_cons, Prod.mk.injEq, List.not_mem_nil, or_false] at place
    rcases place with ⟨_, _, rfl⟩ | ⟨_, _, rfl⟩ <;> cases waiting
  | joined err last rest place results => cases waiting
  | _ => exact sound.openly waiting

/-- A relay stays sound as long as the first result is taken from quiet copiers. -/
theorem step (quietly : TakesQuiet detached state choice)
    (taken : state.step kind detached choice = some next) : Sound kind detached streams next := by
  have moves := step_moves taken
  exact ⟨sound.step_lanes moves, sound.step_openly moves, sound.step_quiet quietly moves,
    sound.step_joined moves, sound.step_tally moves, sound.step_closes moves⟩

/-- When the function returns, both streams have been sent. -/
theorem delivered : Delivered streams state := by
  intro err returned p
  exact (sound.lane (sound.joined err returned p)).sent_of_finished

/-- A function that waits for both goroutines finds them quiet. -/
theorem takesQuiet_of_waits (last : kind.closesFirst = false)
    (taken : state.step kind detached choice = some next) : TakesQuiet detached state choice := by
  -- Its only step out of the wait is the one that both have made possible.
  intro main waiting p _
  subst main
  cases step_moves taken with
  | took err rest place first results =>
    rw [first] at last
    cases last
  | waited place last all => exact sound.quiet_of_finished (all p)
  | closed q err frame place => simp [waiting] at place
  | joined err last rest place results =>
    rw [waiting] at place
    cases place

end Sound

/-- A new relay has all bytes still to be read. -/
theorem start_sound (kind : RelayKind) (detached : Peer → Bool) (streams : Peer → List UInt8) :
    Sound kind detached streams (start streams) := by
  refine ⟨?_, fun _ _ => rfl, fun later => absurd rfl later, nofun, fun _ => rfl,
    fun _ => .inl rfl⟩
  intro p
  exact ⟨rfl, nofun, nofun, nofun, nofun⟩

/--
Once both connections are closed, a plain copier that is not through gives up, and the function
returns with no more sent than before.
-/
theorem leads_cut (state : Relay) (first : kind.closesFirst = true) {err : Option RelayError}
    (place : state.main = .joining err)
    (closed : ∀ p, (state.conn p).closed = true) {p : Peer} (plain : detached p = false)
    (works : state.copier p = .reading ∨ ∃ chunk, state.copier p = .writing chunk) :
    ∃ final, Leads (step kind detached) (TakesQuiet detached) state final ∧
      final.conn = state.conn ∧ final.main = .returned err := by
  -- The copier fails, reports it, and the function takes the report.
  have free (state : Relay) (choice : RelayChoice) (here : state.main = .joining err) :
      TakesQuiet detached state choice := by
    intro _ waiting
    rw [waiting] at here
    cases here
  let failing : Relay :=
    { state with copier := Function.update state.copier p (.finishing (some .closed)) }
  let reported : Relay := { state with
    errChan := state.errChan ++ [some .closed]
    copier := Function.update state.copier p .finished }
  have fails : state.step kind detached (.copier p 0) = some failing := by
    rcases works with reading | ⟨chunk, writing⟩
    · simp only [step, copy, reading]
      rw [if_pos ⟨closed p, plain⟩]
    · simp only [step, copy, writing]
      rw [if_pos (.inl ⟨closed p.other, plain⟩)]
  have reports : failing.step kind detached (.copier p 0) = some reported := by
    simp [step, copy, failing, reported, first]
  obtain ⟨last, rest, results⟩ : ∃ last rest, reported.errChan = last :: rest := by
    cases known : state.errChan with
    | nil => exact ⟨some .closed, [], by simp [reported, known]⟩
    | cons last rest => exact ⟨last, rest ++ [some .closed], by simp [reported, known]⟩
  have returns : reported.step kind detached .main =
      some { reported with errChan := rest, main := .returned err } := by
    have here : reported.main = .joining err := place
    simp only [step, runMain, here, results]
  refine ⟨{ reported with errChan := rest, main := .returned err }, ?_, rfl, rfl⟩
  exact Leads.head _ (free _ _ place) fails
    (Leads.head _ (free _ _ place) reports (Leads.head _ (free _ _ place) returns (Leads.refl _)))

/-- A first result that is taken while a plain copier is at work leads to a loss. -/
theorem Sound.strays (sound : Sound kind detached streams state)
    (taken : state.step kind detached choice = some next)
    (unmet : ¬ TakesQuiet detached state choice) :
    ∃ final, Leads (Relay.step kind detached) (TakesQuiet detached) next final ∧
      ¬ Delivered streams final := by
  simp only [TakesQuiet, not_forall] at unmet
  obtain ⟨rfl, waiting, p, plain, busy⟩ := unmet
  have first : kind.closesFirst = true := by
    by_contra last
    exact busy (sound.takesQuiet_of_waits (by simpa using last) taken rfl waiting p plain)
  cases step_moves taken with
  | took err rest place first results =>
    -- The function closes both connections at once.
    let taking : Relay := { state with errChan := rest, main := .closing err }
    let half : Relay := { taking.close .one with main := .closingOther err }
    let shut : Relay := { half.close .two with main := .joining err }
    have closes : Leads (Relay.step kind detached) (TakesQuiet detached) taking shut :=
      Leads.head .main nofun (show taking.step kind detached .main = some half from rfl)
        (Leads.head .main nofun (show half.step kind detached .main = some shut from rfl)
          (Leads.refl _))
    have conns (q : Peer) : shut.conn q = { state.conn q with closed := true } := by
      cases q <;> simp [shut, half, taking, close]
    have lane := sound.lanes p
    have works : shut.copier p = .reading ∨ ∃ chunk, shut.copier p = .writing chunk := by
      show state.copier p = .reading ∨ ∃ chunk, state.copier p = .writing chunk
      cases frame : state.copier p with
      | reading => exact .inl rfl
      | writing chunk => exact .inr ⟨chunk, rfl⟩
      | finishing err => exact absurd ⟨by rw [frame]; rfl, lane.ended err frame⟩ busy
      | finished => exact absurd ⟨by rw [frame]; rfl, lane.finished frame⟩ busy
    obtain ⟨final, leads, conn, returned⟩ :=
      leads_cut shut first rfl (fun q => by rw [conns]) plain works
    refine ⟨final, closes.trans leads, ?_⟩
    intro delivered
    -- What the copier had left never reaches the other side.
    have sent := delivered err returned p
    rw [conn, conns] at sent
    have whole := lane.whole
    rw [← sent] at whole
    have nothing : (state.copier p).chunk = [] ∧ (state.conn p).incoming = [] := by
      simpa using whole
    exact busy nothing
  | waited place last all =>
    rw [first] at last
    cases last
  | closed q err frame place => simp [waiting] at place
  | joined err last rest place results =>
    rw [waiting] at place
    cases place

/-- A copier that is left alone carries its whole stream over and reports its end. -/
theorem leads_through (detached : Peer → Bool) (first : kind.closesFirst = true) (state : Relay)
    (p : Peer) (place : state.copier p = .reading)
    (openly : (state.conn p).closed = false)
    (there : (state.conn p.other).closed = false ∧ (state.conn p.other).writeClosed = false) :
    ∃ final, Leads (step kind detached) (TakesQuiet detached) state final ∧
      final.errChan = state.errChan ++ [none] ∧ final.main = state.main ∧
      final.copier p.other = state.copier p.other ∧
      (final.conn p.other).incoming = (state.conn p.other).incoming := by
  -- Byte by byte, until nothing is left to be read.
  induction left : (state.conn p).incoming generalizing state with
  | nil =>
    let ended : Relay :=
      { state with copier := Function.update state.copier p (.finishing none) }
    let reported : Relay := { state with
      errChan := state.errChan ++ [none]
      copier := Function.update state.copier p .finished }
    have ends : state.step kind detached (.copier p 0) = some ended := by
      simp [step, copy, place, openly, left, ended]
    have reports : ended.step kind detached (.copier p 0) = some reported := by
      simp [step, copy, ended, reported, first]
    refine ⟨reported, Leads.head (.copier p 0) nofun ends
      (Leads.head (.copier p 0) nofun reports (Leads.refl _)), rfl, rfl, ?_, rfl⟩
    simp [reported]
  | cons byte rest ih =>
    let held : Relay := { state with
      conn := Function.update state.conn p { state.conn p with incoming := rest }
      copier := Function.update state.copier p (.writing [byte]) }
    let sent : Relay := { state with
      conn := Function.update held.conn p.other
        { held.conn p.other with sent := (held.conn p.other).sent ++ [byte] }
      copier := Function.update held.copier p .reading }
    have reads : state.step kind detached (.copier p 1) = some held := by
      simp [step, copy, place, openly, left, held]
    have writes : held.step kind detached (.copier p 0) = some sent := by
      simp [step, copy, held, sent, there]
    obtain ⟨final, leads, results, main, frame, incoming⟩ := ih sent (by simp [sent])
      (by simpa [sent, held, Function.update_of_ne p.other_ne.symm] using openly)
      (by simpa [sent, held] using there)
      (by simp [sent, held, Function.update_of_ne p.other_ne.symm])
    have cut := Leads.head (.copier p 1) nofun reads (Leads.head (.copier p 0) nofun writes leads)
    refine ⟨final, cut, results, main, ?_, ?_⟩
    · simpa [sent, held] using frame
    · simpa [sent, held] using incoming

/--
A function that closes both connections when the first direction is through delivers both streams
in the runs in which no plain copier has anything left at that moment, and one that has can lose
it; it delivers them in all runs exactly if every stream that is copied plainly is empty.  A
function that waits for both directions delivers both streams in all runs.
-/
theorem relay_delivers_iff (detached : Peer → Bool) (streams : Peer → List UInt8)
    (kind : RelayKind) :
    (kind.closesFirst = true →
      Guards (step kind detached) (TakesQuiet detached) (Delivered streams) (start streams) ∧
      ((∀ trace final, exec (step kind detached) (start streams) trace = some final →
          Delivered streams final) ↔ ∀ p, detached p = false → streams p = [])) ∧
    (kind.closesFirst = false →
      ∀ trace final, exec (step kind detached) (start streams) trace = some final →
        Delivered streams final) := by
  have guards : Guards (step kind detached) (TakesQuiet detached) (Delivered streams)
      (start streams) :=
    guards_of_invariant (Sound kind detached streams)
      (fun _ _ _ sound quietly taken => sound.step quietly taken)
      (fun _ sound => sound.delivered)
      (fun _ _ _ sound taken unmet => sound.strays taken unmet) (start_sound kind detached streams)
  refine ⟨?_, ?_⟩
  · intro first
    refine ⟨guards, ?_, ?_⟩
    · intro delivers p plain
      -- The other direction gets through before a byte of this one is read.
      obtain ⟨state, leads, results, main, frame, incoming⟩ :=
        leads_through detached first (start streams) p.other rfl rfl ⟨rfl, rfl⟩
      rw [Peer.other_other] at frame incoming
      have taken : state.step kind detached .main =
          some { state with errChan := [], main := .closing none } := by
        simp only [step, runMain, main, results, first]
        rfl
      -- If nothing can be lost from there on, this direction has nothing to lose.
      have quiet := (guards.sharp state .main _ leads taken).mp fun final later => by
        obtain ⟨before, _, ran⟩ := leads
        obtain ⟨after, _, ended⟩ := later
        exact delivers _ final (exec_trans ran (exec_cons_eq_some.mpr ⟨_, taken, ended⟩))
      exact incoming.symm.trans (quiet rfl main p plain).2
    · intro empty trace final ran
      refine (exec_invariant (Sound kind detached streams) ?_
        (start_sound kind detached streams) ran).delivered
      intro state choice next sound taken
      refine sound.step ?_ taken
      intro _ _ p plain
      have whole := (sound.lanes p).whole
      rw [empty p plain, List.append_eq_nil_iff, List.append_eq_nil_iff] at whole
      exact whole.2
  · intro last trace final ran
    have sound := exec_invariant (Sound kind detached streams)
      (fun _ _ _ sound taken => sound.step (sound.takesQuiet_of_waits last taken) taken)
      (start_sound kind detached streams) ran
    exact sound.delivered

/-- A peer that ends its stream at once cuts off what the other one has written. -/
theorem early_end_cuts_stream :
    let streams : Peer → List UInt8
      | .one => [1, 2]
      | .two => []
    let trace : List RelayChoice := [.copier .two 0, .copier .two 0, .main, .main, .main,
      .copier .one 2, .copier .one 0, .main]
    ∃ final, exec (step .bidirectionalCopy fun _ => false) (start streams) trace = some final ∧
      final.main = .returned none ∧ (final.conn .two).sent = [] := by
  -- The empty direction is through, and both connections are closed under the other.
  exact ⟨_, rfl, rfl, rfl⟩

end Relay

end Balance
