import Balance.Machine.Run
import Mathlib.Data.List.Infix

/-! Copying a stream through a pipe with splice, and the plain copy that takes over on errors. -/

namespace Balance

open Machine

/-- The error of a system call or of a connection. -/
inductive Errno where
  | eagain
  | eintr
  | other (code : Nat)
  deriving DecidableEq

/-- An error after which the loops of `spliceCopy` try again. -/
def Errno.retried : Errno → Bool
  | .eagain => true
  | .eintr => true
  | .other _ => false

/-- A copier that moves so many bytes in a round, and never none. -/
structure DefaultZeroCopier where
  bufferSize : Int
  positive : 0 < bufferSize

/-- A new copier, with a default for a size that is not positive. -/
def newDefaultZeroCopier (bufferSize : Int) : DefaultZeroCopier :=
  if given : bufferSize ≤ 0 then ⟨32 * 1024, by decide⟩ else ⟨bufferSize, Int.not_le.mp given⟩

/-- The call that `DefaultZeroCopier.Copy` makes next, or what it has returned. -/
inductive CopyFrame where
  /-- The file descriptor of the source. -/
  | srcFile
  /-- The file descriptor of the destination. -/
  | dstFile
  /-- The pipe of `spliceCopy`. -/
  | pipe
  /-- The outer loop: splice from the source to the pipe. -/
  | filling
  /-- The inner loop: splice the rest of a round from the pipe to the destination. -/
  | draining (n written : Nat)
  /-- The plain copy that stands in for splice. -/
  | copying
  | returned (written : Nat) (err : Option Errno)
  deriving DecidableEq

/-- How the next call ends. -/
inductive CopyChoice where
  | ok
  | moved (count : Nat)
  | failed (errno : Errno)
  | copied (count : Nat) (err : Option Errno)
  deriving DecidableEq

/-- Where the bytes of a stream are while it is copied. -/
structure Transfer where
  /-- Bytes that have not been read from the source. -/
  source : List UInt8
  /-- Bytes that are in the pipe. -/
  pipe : List UInt8
  /-- Bytes that the destination has received. -/
  received : List UInt8
  totalWritten : Nat
  /-- Whether the source has reported the end of the stream. -/
  ended : Bool
  frame : CopyFrame
  deriving DecidableEq

namespace Transfer

/-- The start of `Copy`, which splices between TCP connections only. -/
def start (tcp : Bool) (data : List UInt8) : Transfer where
  source := data
  pipe := []
  received := []
  totalWritten := 0
  ended := false
  frame := if tcp then .srcFile else .copying

/-- One call of the copier, with the outcome that the environment picks. -/
def step (z : DefaultZeroCopier) (state : Transfer) (choice : CopyChoice) : Option Transfer :=
  match state.frame, choice with
  | .srcFile, .ok => some { state with frame := .dstFile }
  | .srcFile, .failed _ => some { state with frame := .copying }
  | .dstFile, .ok => some { state with frame := .pipe }
  | .dstFile, .failed _ => some { state with frame := .copying }
  | .pipe, .ok => some { state with frame := .filling }
  | .pipe, .failed _ => some { state with frame := .copying }
  | .filling, .moved count =>
    if count = 0 then
      -- Nothing is moved only at the end of the stream.
      if state.source = [] then
        some { state with ended := true, frame := .returned state.totalWritten none }
      else none
    else if (count : Int) ≤ z.bufferSize ∧ count ≤ state.source.length then
      some { state with
        source := state.source.drop count
        pipe := state.pipe ++ state.source.take count
        frame := .draining count 0 }
    else none
  | .filling, .failed errno =>
    if errno.retried then some state
    else if 0 < state.totalWritten then
      some { state with frame := .returned state.totalWritten none }
    else some { state with frame := .copying }
  | .draining n written, .moved count =>
    if 0 < count ∧ count ≤ n - written then
      let drained := { state with
        pipe := state.pipe.drop count
        received := state.received ++ state.pipe.take count }
      if written + count < n then some { drained with frame := .draining n (written + count) }
      else
        some { drained with
          totalWritten := state.totalWritten + (written + count)
          frame := .filling }
    else none
  | .draining _ _, .failed errno =>
    -- What is left in the pipe goes away with it.
    if errno.retried then some state else some { state with pipe := [], frame := .copying }
  | .copying, .copied count err =>
    if count ≤ state.source.length then
      some { state with
        source := state.source.drop count
        received := state.received ++ state.source.take count
        ended := err.isNone
        frame := .returned count err }
    else none
  | _, _ => none

/-- What one call can do, told apart by how it ends. -/
inductive Moves (z : DefaultZeroCopier) (state : Transfer) : CopyChoice → Transfer → Prop where
  | opened (frame : CopyFrame)
    (place : (state.frame, frame) ∈ [(.srcFile, .dstFile), (.dstFile, .pipe), (.pipe, .filling)]) :
    Moves z state .ok { state with frame := frame }
  | refused (errno : Errno) (place : state.frame ∈ [.srcFile, .dstFile, .pipe]) :
    Moves z state (.failed errno) { state with frame := .copying }
  | retried (errno : Errno) (again : errno.retried = true)
    (place : state.frame = .filling ∨ ∃ n written, state.frame = .draining n written) :
    Moves z state (.failed errno) state
  | ended (place : state.frame = .filling) (empty : state.source = []) :
    Moves z state (.moved 0) { state with
      ended := true, frame := .returned state.totalWritten none }
  | filled (count : Nat) (place : state.frame = .filling) (positive : 0 < count)
    (within : count ≤ state.source.length) :
    Moves z state (.moved count) { state with
      source := state.source.drop count
      pipe := state.pipe ++ state.source.take count
      frame := .draining count 0 }
  | readFailed (errno : Errno) (fatal : errno.retried = false) (place : state.frame = .filling)
    (progress : 0 < state.totalWritten) :
    Moves z state (.failed errno) { state with frame := .returned state.totalWritten none }
  | neverRead (errno : Errno) (fatal : errno.retried = false) (place : state.frame = .filling)
    (nothing : state.totalWritten = 0) :
    Moves z state (.failed errno) { state with frame := .copying }
  | drained (n written count : Nat) (place : state.frame = .draining n written)
    (positive : 0 < count) (more : written + count < n) :
    Moves z state (.moved count) { state with
      pipe := state.pipe.drop count
      received := state.received ++ state.pipe.take count
      frame := .draining n (written + count) }
  | emptied (n written count : Nat) (place : state.frame = .draining n written)
    (positive : 0 < count) (all : written + count = n) :
    Moves z state (.moved count) { state with
      pipe := state.pipe.drop count
      received := state.received ++ state.pipe.take count
      totalWritten := state.totalWritten + n
      frame := .filling }
  | writeFailed (errno : Errno) (fatal : errno.retried = false) (n written : Nat)
    (place : state.frame = .draining n written) :
    Moves z state (.failed errno) { state with pipe := [], frame := .copying }
  | copied (count : Nat) (err : Option Errno) (place : state.frame = .copying)
    (within : count ≤ state.source.length) :
    Moves z state (.copied count err) { state with
      source := state.source.drop count
      received := state.received ++ state.source.take count
      ended := err.isNone
      frame := .returned count err }

variable {z : DefaultZeroCopier} {data : List UInt8} {state next : Transfer} {choice : CopyChoice}

/-- Every call is one of these moves. -/
theorem step_moves (taken : step z state choice = some next) : Moves z state choice next := by
  -- The frame says which call is made, and the choice how it ends.
  unfold step at taken
  split at taken
  case h_1 place =>
    cases taken
    exact .opened .dstFile (by simp [place])
  case h_2 errno place =>
    cases taken
    exact .refused errno (by simp [place])
  case h_3 place =>
    cases taken
    exact .opened .pipe (by simp [place])
  case h_4 errno place =>
    cases taken
    exact .refused errno (by simp [place])
  case h_5 place =>
    cases taken
    exact .opened .filling (by simp [place])
  case h_6 errno place =>
    cases taken
    exact .refused errno (by simp [place])
  case h_7 count place =>
    split at taken
    · rename_i zero
      subst zero
      split at taken
      · rename_i empty
        cases taken
        exact .ended place empty
      · cases taken
    · rename_i positive
      split at taken
      · rename_i within
        cases taken
        exact .filled count place (Nat.pos_of_ne_zero positive) within.2
      · cases taken
  case h_8 errno place =>
    split at taken
    · rename_i again
      cases taken
      exact .retried errno again (.inl place)
    · rename_i fatal
      split at taken
      · rename_i progress
        cases taken
        exact .readFailed errno (by simpa using fatal) place progress
      · rename_i nothing
        cases taken
        exact .neverRead errno (by simpa using fatal) place (by omega)
  case h_9 n written count place =>
    split at taken
    · rename_i within
      split at taken
      · rename_i more
        cases taken
        exact .drained n written count place within.1 more
      · rename_i all
        have exactly : written + count = n := by omega
        cases taken
        rw [exactly]
        exact .emptied n written count place within.1 exactly
    · cases taken
  case h_10 n written errno place =>
    split at taken
    · rename_i again
      cases taken
      exact .retried errno again (.inr ⟨n, written, place⟩)
    · rename_i fatal
      cases taken
      exact .writeFailed errno (by simpa using fatal) n written place
  case h_11 count err place =>
    split at taken
    · rename_i within
      cases taken
      exact .copied count err place within
    · cases taken
  case h_12 => cases taken

/-- Whether the copier is still at work with splice. -/
def splicing (state : Transfer) : Bool :=
  match state.frame with
  | .copying => false
  | .returned _ _ => false
  | _ => true

/-- In its two loops, the copier is at work with splice. -/
theorem splicing_of_loop
    (loop : state.frame = .filling ∨ ∃ n written, state.frame = .draining n written) :
    state.splicing = true := by
  rcases loop with filling | ⟨n, written, draining⟩
  · simp only [splicing, filling]
  · simp only [splicing, draining]

/-- How many bytes of the present round the destination has received, and how many the pipe has. -/
def round (state : Transfer) : Nat × Nat :=
  match state.frame with
  | .draining n written => (written, n - written)
  | _ => (0, 0)

/-- Every byte of the stream is where the loops take it to be. -/
structure Flowing (data : List UInt8) (state : Transfer) : Prop where
  whole : state.received ++ (state.pipe ++ state.source) = data
  counted : state.totalWritten + state.round.1 = state.received.length
  piped : state.pipe.length = state.round.2
  pending : ∀ n written, state.frame = .draining n written → written < n
  opening : state.frame ∈ [CopyFrame.srcFile, .dstFile, .pipe] → state.totalWritten = 0
  unread : state.ended = false

/-- Between rounds the pipe is empty, and the count is that of the bytes received. -/
theorem Flowing.between (flowing : Flowing data state) (place : state.round = (0, 0)) :
    state.pipe = [] ∧ state.received ++ state.source = data ∧
      state.totalWritten = state.received.length := by
  -- No bytes of a round are under way.
  have piped := flowing.piped
  have counted := flowing.counted
  rw [place] at piped counted
  have empty : state.pipe = [] := List.length_eq_zero_iff.mp piped
  have whole := flowing.whole
  rw [empty, List.nil_append] at whole
  exact ⟨empty, whole, counted⟩

/-- If nothing has been received between rounds, the whole stream is still to be read. -/
theorem Flowing.untouched (flowing : Flowing data state) (place : state.round = (0, 0))
    (nothing : state.totalWritten = 0) : state.received = [] ∧ state.source = data := by
  obtain ⟨_, whole, counted⟩ := flowing.between place
  have empty : state.received = [] := List.length_eq_zero_iff.mp (by omega)
  rw [empty, List.nil_append] at whole
  exact ⟨empty, whole⟩

/-- In the middle of a round the pipe has as many bytes as the round has left. -/
theorem Flowing.within (flowing : Flowing data state) {n written : Nat}
    (place : state.frame = .draining n written) :
    written < n ∧ state.pipe.length = n - written ∧
      state.totalWritten + written = state.received.length := by
  have counted := flowing.counted
  have piped := flowing.piped
  simp only [round, place] at counted piped
  exact ⟨flowing.pending n written place, piped, counted⟩

/-- Bytes that go from the pipe to the destination are neither lost nor miscounted. -/
theorem Flowing.drains (flowing : Flowing data state) {n written count : Nat}
    (place : state.frame = .draining n written) (most : written + count ≤ n) :
    (state.received ++ state.pipe.take count) ++ (state.pipe.drop count ++ state.source) = data ∧
      state.totalWritten + (written + count) =
        (state.received ++ state.pipe.take count).length ∧
      (state.pipe.drop count).length = n - (written + count) := by
  -- They leave the front of the one and come to the back of the other.
  obtain ⟨_, piped, counted⟩ := flowing.within place
  refine ⟨?_, ?_, ?_⟩
  · rw [← flowing.whole]
    simp only [List.append_assoc, List.append_cancel_left_eq]
    rw [← List.append_assoc, List.take_append_drop]
  · simp only [List.length_append, List.length_take]
    omega
  · simp only [List.length_drop]
    omega

/-- While splice is at work, the bytes stay where the loops take them to be. -/
theorem Flowing.moves (flowing : Flowing data state) (moves : Moves z state choice next)
    (works : next.splicing = true) : Flowing data next := by
  -- Each move takes bytes from the front of one place to the back of the next.
  cases moves with
  | opened frame place =>
    simp only [List.mem_cons, Prod.mk.injEq, List.not_mem_nil, or_false] at place
    have early : state.frame ∈ [CopyFrame.srcFile, .dstFile, .pipe] := by
      rcases place with ⟨here, _⟩ | ⟨here, _⟩ | ⟨here, _⟩ <;> simp [here]
    have here : state.round = (0, 0) := by
      rcases place with ⟨here, _⟩ | ⟨here, _⟩ | ⟨here, _⟩ <;> simp only [round, here]
    have there : round { state with frame := frame } = (0, 0) := by
      rcases place with ⟨_, rfl⟩ | ⟨_, rfl⟩ | ⟨_, rfl⟩ <;> rfl
    refine ⟨flowing.whole, ?_, ?_, ?_, fun _ => flowing.opening early, flowing.unread⟩
    · rw [there, ← here]
      exact flowing.counted
    · rw [there, ← here]
      exact flowing.piped
    · intro n written draining
      rcases place with ⟨_, rfl⟩ | ⟨_, rfl⟩ | ⟨_, rfl⟩ <;> cases draining
  | refused errno place => cases works
  | retried errno again place => exact flowing
  | ended place empty => cases works
  | filled count place positive within =>
    obtain ⟨empty, whole, counted⟩ := flowing.between (by simp only [round, place])
    refine ⟨?_, ?_, ?_, ?_, ?_, flowing.unread⟩
    · simpa [empty] using whole
    · simpa [round] using counted
    · simp [round, empty, within]
    · intro n written frame
      cases frame
      exact positive
    · intro frame
      simp at frame
  | readFailed errno fatal place progress => cases works
  | neverRead errno fatal place nothing => cases works
  | drained n written count place positive more =>
    obtain ⟨whole, counted, piped⟩ := flowing.drains place (Nat.le_of_lt more)
    refine ⟨whole, counted, piped, ?_, ?_, flowing.unread⟩
    · intro m sent frame
      cases frame
      exact more
    · intro frame
      simp at frame
  | emptied n written count place positive all =>
    obtain ⟨whole, counted, piped⟩ := flowing.drains place (le_of_eq all)
    rw [all] at counted piped
    rw [Nat.sub_self] at piped
    refine ⟨whole, counted, piped, ?_, ?_, flowing.unread⟩
    · intro m sent frame
      cases frame
    · intro frame
      simp at frame
  | writeFailed errno fatal n written place => cases works
  | copied count err place within => cases works

/-- As long as splice is at work, the bytes are where the loops take them to be. -/
def Orderly (data : List UInt8) (state : Transfer) : Prop :=
  state.splicing = true → Flowing data state

/-- A copy starts with the whole stream at its source. -/
theorem start_orderly (tcp : Bool) (data : List UInt8) : Orderly data (start tcp data) := by
  -- Nothing has been moved or counted.
  cases tcp with
  | false =>
    intro works
    cases works
  | true =>
    intro _
    exact ⟨rfl, rfl, rfl, nofun, fun _ => rfl, rfl⟩

/-- Splice is only ever left, never taken up again. -/
theorem Moves.splicing_of_next (moves : Moves z state choice next)
    (works : next.splicing = true) : state.splicing = true := by
  -- The frame that a move starts from is one of splice, unless the plain copy returns.
  cases moves with
  | opened frame place =>
    simp only [List.mem_cons, Prod.mk.injEq, List.not_mem_nil, or_false] at place
    rcases place with ⟨here, _⟩ | ⟨here, _⟩ | ⟨here, _⟩ <;> simp only [splicing, here]
  | refused errno place => cases works
  | retried errno again place => exact works
  | ended place empty => cases works
  | filled count place positive within => simp only [splicing, place]
  | readFailed errno fatal place progress => cases works
  | neverRead errno fatal place nothing => cases works
  | drained n written count place positive more => simp only [splicing, place]
  | emptied n written count place positive all => simp only [splicing, place]
  | writeFailed errno fatal n written place => cases works
  | copied count err place within => cases works

/-- Whatever the outcomes of the calls, splice stays orderly. -/
theorem Orderly.step (orderly : Orderly data state) (taken : step z state choice = some next) :
    Orderly data next := by
  intro works
  have moves := step_moves taken
  exact (orderly (moves.splicing_of_next works)).moves moves works

/--
The plain copy takes over with the whole stream at its source, unless a write to the destination
has failed for good.
-/
theorem Orderly.copying_cases (orderly : Orderly data state) (moves : Moves z state choice next)
    (place : next.frame = .copying) :
    (next.received = [] ∧ next.source = data) ∨
      ∃ n written errno, state.frame = .draining n written ∧ choice = .failed errno ∧
        errno.retried = false ∧ next = { state with pipe := [], frame := .copying } := by
  -- Before the first round is through, nothing has left the source for good.
  cases moves with
  | opened frame within =>
    simp only at place
    subst place
    simp at within
  | refused errno within =>
    left
    have here : state.splicing = true ∧ state.round = (0, 0) := by
      simp only [List.mem_cons, List.not_mem_nil, or_false] at within
      rcases within with here | here | here <;> simp only [splicing, round, here, and_self]
    have flowing := orderly here.1
    exact flowing.untouched here.2 (flowing.opening within)
  | retried errno again here =>
    have working := splicing_of_loop here
    rw [splicing, place] at working
    cases working
  | neverRead errno fatal here nothing =>
    left
    have flowing := orderly (by simp only [splicing, here])
    exact flowing.untouched (by simp only [round, here]) nothing
  | writeFailed errno fatal n written here =>
    right
    exact ⟨n, written, errno, here, rfl, fatal, rfl⟩
  | _ => cases place

/-- The copier returns at the end of the stream, after a failed read, or with the plain copy. -/
theorem Orderly.returned_cases (orderly : Orderly data state) (moves : Moves z state choice next)
    {written : Nat} {err : Option Errno} (place : next.frame = .returned written err) :
    (next.received ++ next.source = data ∧ written = next.received.length ∧ err = none ∧
      state.frame = .filling ∧
      (next.source = [] ∧ next.ended = true ∧ choice = .moved 0 ∨
        ∃ errno, choice = .failed errno ∧ errno.retried = false ∧ 0 < state.totalWritten ∧
          next.ended = false)) ∨
      written ≤ state.source.length ∧ state.frame = .copying ∧ choice = .copied written err ∧
        next.received = state.received ++ state.source.take written ∧
        next.source = state.source.drop written ∧ next.ended = err.isNone := by
  -- The outer loop returns between rounds.
  cases moves with
  | opened frame within =>
    simp only at place
    subst place
    simp at within
  | retried errno again here =>
    have working := splicing_of_loop here
    rw [splicing, place] at working
    cases working
  | ended here empty =>
    cases place
    left
    have flowing := orderly (by simp only [splicing, here])
    obtain ⟨_, whole, counted⟩ := flowing.between (by simp only [round, here])
    exact ⟨whole, counted, rfl, here, .inl ⟨empty, rfl, rfl⟩⟩
  | readFailed errno fatal here progress =>
    cases place
    left
    have flowing := orderly (by simp only [splicing, here])
    obtain ⟨_, whole, counted⟩ := flowing.between (by simp only [round, here])
    exact ⟨whole, counted, rfl, here, .inr ⟨errno, rfl, fatal, progress, flowing.unread⟩⟩
  | copied count err here within =>
    cases place
    right
    exact ⟨within, here, rfl, rfl, rfl, rfl⟩
  | _ => cases place

/-- What the destination has received is a prefix of the stream, as long as the count says. -/
def Truthful (data : List UInt8) (state : Transfer) : Prop :=
  ∀ written err, state.frame = .returned written err →
    state.received <+: data ∧ written = state.received.length

/--
If a write to the destination fails for good, nothing has been received yet, and what is left to
read is itself a prefix of the stream, as it is when nothing is left.
-/
def LosesNothing (data : List UInt8) (state : Transfer) (choice : CopyChoice) : Prop :=
  ∀ n written errno, state.frame = .draining n written → choice = .failed errno →
    errno.retried = false → state.received = [] ∧ state.source <+: data

/-- Splice is orderly, and the plain copy takes over with a clean slate. -/
structure Straight (data : List UInt8) (state : Transfer) : Prop where
  orderly : Orderly data state
  copying : state.frame = .copying → state.received = [] ∧ state.source <+: data
  truthful : Truthful data state

/-- A run that loses nothing stays straight. -/
theorem Straight.step (straight : Straight data state) (loses : LosesNothing data state choice)
    (taken : Transfer.step z state choice = some next) : Straight data next := by
  -- The plain copy and the return are reached in a few ways only.
  have moves := step_moves taken
  refine ⟨straight.orderly.step taken, ?_, ?_⟩
  · intro place
    rcases straight.orderly.copying_cases moves place with
      ⟨empty, rfl⟩ | ⟨n, written, errno, here, ended, fatal, rfl⟩
    · exact ⟨empty, List.prefix_refl _⟩
    · exact loses n written errno here ended fatal
  · intro written err place
    rcases straight.orderly.returned_cases moves place with
      ⟨whole, counted, _⟩ | ⟨within, here, _, received, _⟩
    · exact ⟨⟨next.source, whole⟩, counted⟩
    · obtain ⟨empty, left⟩ := straight.copying here
      rw [empty, List.nil_append] at received
      rw [received]
      exact ⟨(List.take_prefix _ _).trans left, by simp [within]⟩

/-- A write that fails for good with bytes delivered before, or to be delivered after, shows. -/
theorem strays_of_lost (taken : step z state choice = some next)
    (unmet : ¬ LosesNothing data state choice) :
    ∃ final, Leads (Transfer.step z) (LosesNothing data) next final ∧ ¬ Truthful data final := by
  -- The plain copy delivers nothing in the one case, and everything in the other.
  simp only [LosesNothing, not_forall] at unmet
  obtain ⟨n, written, errno, draining, rfl, fatal, unmet⟩ := unmet
  simp only [step, draining, fatal, Bool.false_eq_true, if_false, Option.some.injEq] at taken
  subst taken
  have copies (count : Nat) (within : count ≤ state.source.length) :
      Leads (Transfer.step z) (LosesNothing data) { state with pipe := [], frame := .copying }
        { state with
          source := state.source.drop count
          pipe := []
          received := state.received ++ state.source.take count
          ended := true
          frame := .returned count none } := by
    refine Leads.head (.copied count none) nofun ?_ (Leads.refl _)
    simp only [step, if_pos within, Option.isNone_none]
  by_cases empty : state.received = []
  · refine ⟨_, copies state.source.length (Nat.le_refl _), ?_⟩
    intro truthful
    obtain ⟨left, _⟩ := truthful state.source.length none rfl
    apply unmet
    refine ⟨empty, ?_⟩
    simpa [empty] using left
  · refine ⟨_, copies 0 (Nat.zero_le _), ?_⟩
    intro truthful
    obtain ⟨_, counted⟩ := truthful 0 none rfl
    simp only [List.take_zero, List.append_nil] at counted
    exact empty (List.length_eq_zero_iff.mp counted.symm)

/--
The destination receives a prefix of the stream and the count is its length, for every stream and
every outcome of the calls, if no write to the destination fails for good after bytes were
delivered or with different bytes left to read; and each such failure can show.
-/
theorem copy_truthful_iff (z : DefaultZeroCopier) (tcp : Bool) (data : List UInt8) :
    Guards (step z) (LosesNothing data) (Truthful data) (start tcp data) := by
  -- Straight runs are truthful, and a run that strays can be completed to one that is not.
  apply guards_of_invariant (Straight data)
  · intro state choice next straight loses taken
    exact straight.step loses taken
  · intro state straight
    exact straight.truthful
  · intro state choice next _ taken unmet
    exact strays_of_lost taken unmet
  · refine ⟨start_orderly tcp data, ?_, ?_⟩
    · intro _
      exact ⟨rfl, List.prefix_refl data⟩
    · intro written err place
      cases tcp <;> cases place

/-- A failed write in the middle of a round leaves a gap in the stream and a count that is short. -/
theorem failed_write_leaves_gap :
    exec (step (newDefaultZeroCopier 2)) (start true [1, 2, 3, 4])
        [.ok, .ok, .ok, .moved 2, .moved 1, .failed (.other 32), .copied 2 none] =
      some ⟨[], [], [1, 3, 4], 0, true, .returned 2 none⟩ ∧
    ¬ [1, 3, 4] <+: [1, 2, 3, 4] := by
  -- The second byte goes away with the pipe.
  decide

/-- The plain copy reports no error only after all that was left to read has been written. -/
def CopiesAll (state : Transfer) (choice : CopyChoice) : Prop :=
  ∀ count, choice = .copied count none → count = state.source.length

/--
If a call fails for good, it is no write to the destination, and it is a read from the source only
before the first round is through.
-/
def FailsEarly (state : Transfer) (choice : CopyChoice) : Prop :=
  ∀ errno, choice = .failed errno → errno.retried = false →
    (∀ n written, state.frame ≠ .draining n written) ∧
      (state.frame = .filling → state.totalWritten = 0)

/-- If a read from the source with splice fails, it is tried again. -/
def ReadsWell (state : Transfer) (choice : CopyChoice) : Prop :=
  ∀ errno, choice = .failed errno → state.frame = .filling → errno.retried = true

/-- If a splice on either side fails, it is tried again. -/
def SplicesWell (state : Transfer) (choice : CopyChoice) : Prop :=
  ∀ errno, choice = .failed errno →
    (state.frame = .filling ∨ ∃ n written, state.frame = .draining n written) →
      errno.retried = true

/-- Past the failures that come early, it is the reads that are left to go well. -/
theorem splicesWell_iff (state : Transfer) (choice : CopyChoice) :
    SplicesWell state choice ↔ FailsEarly state choice ∧ ReadsWell state choice := by
  -- A failure that is not tried again is one of a read or of a write.
  constructor
  · intro well
    refine ⟨?_, fun errno failed place => well errno failed (.inl place)⟩
    intro errno failed fatal
    have elsewhere := mt (well errno failed) (by simp [fatal])
    rw [not_or, not_exists] at elsewhere
    refine ⟨fun n written place => elsewhere.2 n ⟨written, place⟩, ?_⟩
    intro place
    exact absurd place elsewhere.1
  · rintro ⟨early, reads⟩ errno failed (place | ⟨n, written, place⟩)
    · exact reads errno failed place
    · by_contra fatal
      exact (early errno failed (by simpa using fatal)).1 n written place

/-- The bytes of the stream that are still somewhere. -/
def stock (state : Transfer) : Nat :=
  state.received.length + (state.pipe.length + state.source.length)

/-- A call moves bytes and loses none, unless a write to the destination fails for good. -/
theorem Moves.stock_eq (moves : Moves z state choice next) :
    next.stock = state.stock ∨
      ∃ n written errno, state.frame = .draining n written ∧ choice = .failed errno ∧
        errno.retried = false ∧ next.stock + state.pipe.length = state.stock := by
  -- What is taken from one place is added to the next.
  cases moves with
  | filled count place positive within =>
    left
    simp only [stock, List.length_append, List.length_take, List.length_drop]
    omega
  | drained n written count place positive more =>
    left
    simp only [stock, List.length_append, List.length_take, List.length_drop]
    omega
  | emptied n written count place positive all =>
    left
    simp only [stock, List.length_append, List.length_take, List.length_drop]
    omega
  | copied count err place within =>
    left
    simp only [stock, List.length_append, List.length_take, List.length_drop]
    omega
  | writeFailed errno fatal n written place =>
    right
    refine ⟨n, written, errno, place, rfl, fatal, ?_⟩
    simp only [stock, List.length_nil]
    omega
  | _ => exact .inl rfl

/-- No byte has been lost, and no clean end has been reported that the source has not. -/
structure Lossless (data : List UInt8) (state : Transfer) : Prop where
  stock : state.stock = data.length
  honest : ∀ written, state.frame = .returned written none → state.ended = true

/-- A call after which nothing is lost has not failed for good after the first round. -/
theorem Lossless.failsEarly (lossless : Lossless data next) (orderly : Orderly data state)
    (bounded : state.stock ≤ data.length) (taken : Transfer.step z state choice = some next) :
    FailsEarly state choice := by
  -- A failed write loses what is in the pipe, and a failed read is reported as the end.
  rintro errno rfl fatal
  refine ⟨?_, ?_⟩
  · intro n written place
    have stock := lossless.stock
    obtain ⟨pending, piped, _⟩ := (orderly (by simp only [splicing, place])).within place
    simp only [Transfer.step, place, fatal, Bool.false_eq_true, if_false,
      Option.some.injEq] at taken
    subst taken
    simp only [Transfer.stock, List.length_nil] at stock bounded
    omega
  · intro place
    by_contra progress
    have unread := (orderly (by simp only [splicing, place])).unread
    simp only [Transfer.step, place, fatal, Bool.false_eq_true, if_false,
      if_pos (Nat.pos_of_ne_zero progress), Option.some.injEq] at taken
    subst taken
    have ended := lossless.honest _ rfl
    rw [unread] at ended
    cases ended

/-- A copy stays lossless exactly while nothing fails for good after the first round. -/
theorem Orderly.lossless_iff (orderly : Orderly data state) (bounded : state.stock ≤ data.length)
    (taken : Transfer.step z state choice = some next) :
    Lossless data next ↔ Lossless data state ∧ FailsEarly state choice := by
  -- The bytes are counted before and after the call.
  have moves := step_moves taken
  have moved := moves.stock_eq
  constructor
  · intro lossless
    refine ⟨⟨?_, ?_⟩, lossless.failsEarly orderly bounded taken⟩
    · have stock := lossless.stock
      rcases moved with same | ⟨_, _, _, _, _, _, less⟩
      · rw [← same, stock]
      · omega
    · intro written place
      simp [Transfer.step, place] at taken
  · rintro ⟨lossless, early⟩
    refine ⟨?_, ?_⟩
    · rcases moved with same | ⟨n, written, errno, place, ended, fatal, _⟩
      · rw [same, lossless.stock]
      · exact absurd place ((early errno ended fatal).1 n written)
    · intro written place
      rcases orderly.returned_cases moves place with
        ⟨_, _, _, here, ended | ⟨errno, ended, fatal, progress, _⟩⟩ | ⟨_, _, _, _, _, ended⟩
      · exact ended.2.1
      · have nothing := (early errno ended fatal).2 here
        omega
      · exact ended

/-- No call brings bytes back. -/
theorem Moves.stock_le (moves : Moves z state choice next) : next.stock ≤ state.stock := by
  rcases moves.stock_eq with same | ⟨_, _, _, _, _, _, less⟩
  · exact le_of_eq same
  · omega

/-- The plain copy finds the whole stream, and no error means that all of it was received. -/
structure Undamaged (data : List UInt8) (state : Transfer) : Prop where
  orderly : Orderly data state
  copying : state.frame = .copying → state.received = [] ∧ state.source = data
  complete : ∀ written, state.frame = .returned written none →
    state.ended = true ∧ state.received = data

/-- A copy in which nothing fails for good after the first round stays undamaged. -/
theorem Undamaged.step (undamaged : Undamaged data state) (early : FailsEarly state choice)
    (contract : CopiesAll state choice) (taken : Transfer.step z state choice = some next) :
    Undamaged data next := by
  -- The ways to the plain copy and to the return that damage would take are ruled out.
  have moves := step_moves taken
  refine ⟨undamaged.orderly.step taken, ?_, ?_⟩
  · intro place
    rcases undamaged.orderly.copying_cases moves place with
      clean | ⟨n, written, errno, here, ended, fatal, _⟩
    · exact clean
    · exact absurd here ((early errno ended fatal).1 n written)
  · intro written place
    rcases undamaged.orderly.returned_cases moves place with
      ⟨whole, _, _, here, ended | ⟨errno, failed, fatal, progress, _⟩⟩ |
        ⟨_, here, given, received, _, ended⟩
    · rw [ended.1, List.append_nil] at whole
      exact ⟨ended.2.1, whole⟩
    · have nothing := (early errno failed fatal).2 here
      omega
    · obtain ⟨empty, whole⟩ := undamaged.copying here
      rw [contract written given, empty, whole, List.take_length, List.nil_append] at received
      exact ⟨ended, received⟩

/-- The loops can bring what is left of a stream to the destination, a byte in each round. -/
theorem leads_rounds (z : DefaultZeroCopier) (rest received : List UInt8) (total : Nat) :
    Leads (step z) SplicesWell ⟨rest, [], received, total, false, .filling⟩
      ⟨[], [], received ++ rest, total + rest.length, true,
        .returned (total + rest.length) none⟩ := by
  -- Every buffer has room for the byte.
  have room := z.positive
  induction rest generalizing received total with
  | nil =>
    rw [List.append_nil]
    exact Leads.head (.moved 0) nofun rfl (Leads.refl _)
  | cons byte rest ih =>
    have filled : step z ⟨byte :: rest, [], received, total, false, .filling⟩ (.moved 1) =
        some ⟨rest, [byte], received, total, false, .draining 1 0⟩ := by
      have within : ((1 : Nat) : Int) ≤ z.bufferSize ∧ 1 ≤ (byte :: rest).length :=
        ⟨by omega, by simp⟩
      simp only [step, if_neg (show 1 ≠ 0 by decide), if_pos within]
      rfl
    have emptied : step z ⟨rest, [byte], received, total, false, .draining 1 0⟩ (.moved 1) =
        some ⟨rest, [], received ++ [byte], total + 1, false, .filling⟩ := rfl
    have last := ih (received ++ [byte]) (total + 1)
    rw [List.append_assoc, List.singleton_append, Nat.add_assoc, Nat.add_comm 1] at last
    exact Leads.head (.moved 1) nofun filled (Leads.head (.moved 1) nofun emptied last)

/-- Every stream can be copied from end to end. -/
theorem copy_delivers (z : DefaultZeroCopier) (data : List UInt8) :
    Leads (step z) SplicesWell (start true data)
      ⟨[], [], data, data.length, true, .returned data.length none⟩ := by
  -- The descriptors and the pipe come first.
  have rounds := leads_rounds z data [] 0
  rw [List.nil_append, Nat.zero_add] at rounds
  exact Leads.head .ok nofun rfl (Leads.head .ok nofun rfl (Leads.head .ok nofun rfl rounds))

/--
If the copier returns no error, the source has reached its end and the destination has received
the whole stream, exactly if no write to the destination has failed for good, and no read from
the source after the first round.
-/
theorem delivered_iff_failsEarly {z : DefaultZeroCopier} {tcp : Bool} {data : List UInt8}
    {trace : List CopyChoice} {final : Transfer} {written : Nat}
    (ran : exec (step z) (start tcp data) trace = some final)
    (contract : Along (step z) CopiesAll (start tcp data) trace)
    (returned : final.frame = .returned written none) :
    (final.ended = true ∧ final.received = data) ↔
      Along (step z) FailsEarly (start tcp data) trace := by
  -- Bytes once lost do not come back, and what was reported is not taken back.
  let bounded (state : Transfer) : Prop := Orderly data state ∧ state.stock ≤ data.length
  have kept : ∀ state choice next, bounded state → step z state choice = some next →
      bounded next := by
    intro state choice next given taken
    exact ⟨given.1.step taken, (step_moves taken).stock_le.trans given.2⟩
  have initial : bounded (start tcp data) := ⟨start_orderly tcp data, by simp [stock, start]⟩
  have decided := exec_iff_along_of_invariant bounded kept
    (fun state choice next given taken => given.1.lossless_iff given.2 taken) initial ran
  constructor
  · intro complete
    refine (decided.mp ⟨?_, fun _ _ => complete.1⟩).2
    have most := (exec_invariant bounded kept initial ran).2
    have least : final.received.length ≤ final.stock := Nat.le_add_right _ _
    rw [complete.2] at least
    omega
  · intro early
    have undamaged := exec_invariant_along (Undamaged data)
      (fun state choice next undamaged both taken => undamaged.step both.1 both.2 taken)
      ⟨start_orderly tcp data, fun _ => ⟨rfl, rfl⟩, by
        intro count place
        cases tcp <;> cases place⟩
      ((along_and (start tcp data) trace).mpr ⟨early, contract⟩) ran
    exact undamaged.complete written returned

/--
If the copier returns no error, the source has reached its end, the destination has received the
whole stream and no error of the source has been dropped, exactly if no splice has failed for good
on either side.
-/
theorem copy_complete_iff {z : DefaultZeroCopier} {tcp : Bool} {data : List UInt8}
    {trace : List CopyChoice} {final : Transfer} {written : Nat}
    (ran : exec (step z) (start tcp data) trace = some final)
    (contract : Along (step z) CopiesAll (start tcp data) trace)
    (returned : final.frame = .returned written none) :
    (final.ended = true ∧ final.received = data ∧
        Along (step z) ReadsWell (start tcp data) trace) ↔
      Along (step z) SplicesWell (start tcp data) trace := by
  -- The plain copy makes up for an error before the first round, but does not report it.
  have split : Along (step z) SplicesWell (start tcp data) trace ↔
      Along (step z) (fun state choice => FailsEarly state choice ∧ ReadsWell state choice)
        (start tcp data) trace :=
    along_congr (fun _ => True) (fun _ _ _ _ _ => trivial)
      (fun state choice _ _ _ => splicesWell_iff state choice) trivial ran
  rw [← and_assoc, delivered_iff_failsEarly ran contract returned, split, along_and]

/-- A stream of three bytes that is copied in two rounds, with interruptions. -/
theorem copy_complete_three :
    let trace : List CopyChoice := [.ok, .ok, .ok, .failed .eintr, .moved 2, .moved 1,
      .failed .eagain, .moved 1, .moved 1, .moved 1, .moved 0]
    let final : Transfer := ⟨[], [], [1, 2, 3], 3, true, .returned 3 none⟩
    exec (step (newDefaultZeroCopier 2)) (start true [1, 2, 3]) trace = some final ∧
      ((final.ended = true ∧ final.received = [1, 2, 3] ∧
          Along (step (newDefaultZeroCopier 2)) ReadsWell (start true [1, 2, 3]) trace) ↔
        Along (step (newDefaultZeroCopier 2)) SplicesWell (start true [1, 2, 3]) trace) := by
  -- No plain copy takes place.
  intro trace final
  have ran : exec (step (newDefaultZeroCopier 2)) (start true [1, 2, 3]) trace = some final := by
    decide
  refine ⟨ran, copy_complete_iff ran (along_of_forall_mem _ ?_) rfl⟩
  intro choice member state count copied
  subst copied
  simp [trace] at member

/-- A source that fails after the first round is reported as a clean end. -/
theorem failed_read_reported_as_end :
    exec (step (newDefaultZeroCopier 1)) (start true [1, 2])
        [.ok, .ok, .ok, .moved 1, .moved 1, .failed (.other 104)] =
      some ⟨[2], [], [1], 1, false, .returned 1 none⟩ := by
  -- One byte has been written, and that is enough to drop the error.
  decide

end Transfer

end Balance
