import Balance.Machine.Custody
import Balance.Tls.Accepting

/-! Which steps of accepting and closing keep every connection accounted for. -/

namespace Balance

open Machine

namespace TLSFrame

/-- The connection that a call has counted off and whose flag it is about to set. -/
def marks : TLSFrame → Option Nat
  | .closing conn .mark => some conn
  | _ => none

/-- A call that delivers a connection holds it. -/
theorem holds_of_delivers {frame : TLSFrame} {conn : Nat} (settled : frame.Settled)
    (delivers : frame.delivers = some conn) : frame.holds = some conn := by
  match frame, settled with
  | .call (.returned result) place, settled =>
    rw [show place = .sent result from settled]
    exact delivers

/-- A call that has a connection holds it. -/
theorem Has.holds {frame : TLSFrame} {conn : Nat} (settled : frame.Settled)
    (has : frame.Has conn) : frame.holds = some conn := by
  rcases has with ⟨_, holds⟩ | delivers
  · exact holds
  · exact holds_of_delivers settled delivers

/-- A call that holds a connection has it, unless its caller has left. -/
theorem Has.of_holds {frame : TLSFrame} {conn : Nat} (settled : frame.Settled)
    (holds : frame.holds = some conn) : frame.Has conn := by
  match frame, settled with
  | .call .waiting _, _ => exact .inl ⟨rfl, holds⟩
  | .call .cancelled place, gone =>
    -- A caller who has left would have left the connection behind.
    cases gone.symm.trans holds
  | .call (.returned result) place, settled =>
    rw [show place = .sent result from settled] at holds
    exact .inr holds

/-- When its caller does not wait, a call has delivered what it has counted. -/
theorem share_eq_handed {frame : TLSFrame} (settled : frame.Settled)
    (idle : frame.waits = false) : frame.share = frame.handed := by
  match frame, settled with
  | .idle, _ => rfl
  | .closing _ _, _ => rfl
  | .call .waiting _, _ => cases idle
  | .call (.returned result) place, settled =>
    rw [show place = .sent result from settled]
    cases result with
    | none => rfl
    | some conn => rfl
  | .call .cancelled place, gone =>
    -- Only the places without a connection are left.
    match place, gone with
    | .accept, _ => rfl
    | .send none, _ => rfl
    | .sent none, _ => rfl

end TLSFrame

namespace Accepting

variable {s next : Accepting} {frame after : TLSFrame} {choice : TLSChoice}

/-- The active connections together with those counted off, and a number of those counted twice. -/
def tallied (s : Accepting) (lag : Int) : Int :=
  s.terminator.activeConnections + s.released.card + lag

/-- The active connections follow the calls that have counted theirs. -/
theorem TLSStep.share (step : TLSStep s frame choice next after) (orderly : Orderly choice frame)
    (fresh : ∀ conn, frame = .closing conn .decrement → conn ∉ s.released) (lag : Int) :
    after.share - frame.share = next.tallied lag - s.tallied lag := by
  -- Counting a connection off makes one active connection less and one released more.
  cases step with
  | activated =>
    simp only [TLSFrame.share, TLSFrame.counted, tallied, addActive]
    simp
  | @decremented conn =>
    simp only [TLSFrame.share, TLSFrame.counted, tallied, addActive,
      Finset.card_insert_of_notMem (fresh conn rfl)]
    push_cast
    omega
  | @sent caller result => cases result <;> simp [TLSFrame.share, TLSFrame.counted]
  | @cancelled place =>
    -- The caller leaves no connection behind, so that the goroutine has counted none.
    match place, orderly with
    | .accept, _ => simp [TLSFrame.share, TLSFrame.counted]
    | .send none, _ => simp [TLSFrame.share, TLSFrame.counted]
    | .sent none, _ => simp [TLSFrame.share, TLSFrame.counted]
  | _ => simp [TLSFrame.share, TLSFrame.counted, tallied, addTotal]

/-- A connection that is counted off a second time adds to the lag. -/
theorem TLSStep.share_again {conn : Nat}
    (step : TLSStep s (.closing conn .decrement) choice next after) (again : conn ∈ s.released)
    (lag : Int) :
    after.share - TLSFrame.share (.closing conn .decrement) =
      next.tallied (lag + 1) - s.tallied lag := by
  -- The connection is among those released already, and only the active ones become less.
  cases step with
  | decremented =>
    simp only [TLSFrame.share, TLSFrame.counted, tallied, addActive, Finset.insert_eq_of_mem again]
    simp only [Bool.false_eq_true, if_false]
    omega

/-- A connection is taken by a goroutine that had none, and then stays with it. -/
theorem TLSStep.holds (step : TLSStep s frame choice next after) :
    next.nextConn = s.nextConn ∧ after.holds = frame.holds ∨
      next.nextConn = s.nextConn + 1 ∧ frame.holds = none ∧ after.holds = some s.nextConn := by
  cases step with
  | took => exact .inr ⟨rfl, rfl, rfl⟩
  | _ => exact .inl ⟨rfl, rfl⟩

/-- A connection is returned by a call that has it and has returned nothing before. -/
theorem TLSStep.delivers (step : TLSStep s frame choice next after) :
    next.returned = s.returned ∧ (after.delivers = frame.delivers) ∨
      ∃ conn, next.returned = insert conn s.returned ∧ frame.holds = some conn ∧
        frame.delivers = none ∧ after.delivers = some conn := by
  cases step with
  | @received conn => exact .inr ⟨conn, rfl, rfl, rfl, rfl⟩
  | _ => exact .inl ⟨rfl, rfl⟩

/-- Callers leave nothing behind and return what they were sent. -/
theorem TLSStep.settled (step : TLSStep s frame choice next after) (orderly : Orderly choice frame)
    (settled : frame.Settled) : after.Settled := by
  -- The goroutine of a call that has returned is done, so that it takes none of these steps.
  cases step with
  | @took caller =>
    cases caller with
    | waiting => trivial
    | cancelled => cases orderly
    | returned result => cases settled
  | @failed caller =>
    cases caller with
    | waiting => trivial
    | cancelled => rfl
    | returned result => cases settled
  | @totalled caller conn =>
    cases caller with
    | waiting => trivial
    | cancelled => cases settled
    | returned result => cases settled
  | @activated caller conn =>
    cases caller with
    | waiting => trivial
    | cancelled => cases settled
    | returned result => cases settled
  | @sent caller result =>
    cases caller with
    | waiting => trivial
    | cancelled => exact settled
    | returned result => cases settled
  | received => rfl
  | receivedError => rfl
  | cancelled => exact orderly
  | _ => trivial

/-- Only returned connections are closed. -/
theorem TLSStep.closes (step : TLSStep s frame choice next after)
    (known : ∀ conn, frame.closes = some conn → conn ∈ s.returned) {conn : Nat}
    (closes : after.closes = some conn) : conn ∈ next.returned := by
  -- Closing begins with a connection that was returned, and stays with it.
  cases step with
  | calledClose returned =>
    cases closes
    exact returned
  | skipped | checked | decremented | marked =>
    cases closes
    exact known _ rfl
  | _ => cases closes

/-- What is shut or counted off was closed by a call. -/
theorem TLSStep.ended (step : TLSStep s frame choice next after) {conn : Nat}
    (ended : conn ∈ next.shut ∪ next.released) :
    conn ∈ s.shut ∪ s.released ∨ frame.closes = some conn := by
  -- Two steps of closing add a connection, each to one of the two.
  cases step with
  | decremented =>
    rcases Finset.mem_union.mp ended with shut | released
    · exact .inl (Finset.mem_union_left _ shut)
    · rcases Finset.mem_insert.mp released with rfl | before
      · exact .inr rfl
      · exact .inl (Finset.mem_union_right _ before)
  | shut =>
    rcases Finset.mem_union.mp ended with shut | released
    · rcases Finset.mem_insert.mp shut with rfl | before
      · exact .inr rfl
      · exact .inl (Finset.mem_union_left _ before)
    · exact .inl (Finset.mem_union_right _ released)
  | _ => exact .inl ended

end Accepting

namespace TLSWorld

variable {world next : TLSWorld} {label : Nat × TLSChoice} {lag : Int}

/-- A step of the world is one of the steps listed, taken by one call. -/
theorem step_inv (taken : world.step label = some next) :
    ∃ shared after,
      Accepting.TLSStep world.shared (world.frame label.1) label.2 shared after ∧
        next = ⟨shared, Function.update world.frame label.1 after⟩ :=
  Threads.exists_advance Accepting.advance_step taken

/--
Every connection is with the call that took it, and is counted once.

The lag says how many connections were counted off a second time.
-/
structure Delivering (lag : Int) (world : TLSWorld) : Prop where
  tallied : Threads.Counts (fun s => s.tallied lag) TLSFrame.share world
  handed : Threads.Counts (fun s => (s.returned.card : Int)) TLSFrame.handed world
  owned : Owned world.shared.nextConn fun thread => (world.frame thread).holds
  settled : ∀ thread, (world.frame thread).Settled
  returned : ∀ conn, conn ∈ world.shared.returned ↔
    ∃ thread, (world.frame thread).delivers = some conn
  closing : ∀ thread conn, (world.frame thread).closes = some conn →
    conn ∈ world.shared.returned
  ended : world.shared.shut ∪ world.shared.released ⊆ world.shared.returned
  finite : ∃ threads : Finset Nat, ∀ thread, thread ∉ threads → world.frame thread = .idle

/-- A connection returned is with the call that returned it, and with no other. -/
theorem Delivering.holder (delivering : world.Delivering lag) {conn thread : Nat}
    (returned : conn ∈ world.shared.returned) (holds : (world.frame thread).holds = some conn) :
    (world.frame thread).delivers = some conn := by
  -- The call that returned it holds it too, and no two calls hold the same.
  obtain ⟨other, delivers⟩ := (delivering.returned conn).mp returned
  have also := TLSFrame.holds_of_delivers (delivering.settled other) delivers
  obtain rfl := delivering.owned.custody.alone thread other conn holds also
  exact delivers

/-- A step keeps track of the connections returned, and of the calls that returned them. -/
theorem step_returned (delivering : world.Delivering lag) (taken : world.step label = some next) :
    Threads.Counts (fun s => (s.returned.card : Int)) TLSFrame.handed next ∧
      (∀ conn, conn ∈ next.shared.returned ↔
        ∃ thread, (next.frame thread).delivers = some conn) ∧
      world.shared.returned ⊆ next.shared.returned := by
  obtain ⟨s, after, step, rfl⟩ := step_inv taken
  rcases step.delivers with ⟨same, unchanged⟩ | ⟨own, grown, holds, nothing, delivers⟩
  · have frames := congrFun (Threads.read_update_of_eq unchanged)
    refine ⟨delivering.handed.advance ?_, ?_, ?_⟩
    · simp only [TLSFrame.handed, unchanged, same, sub_self]
    · intro conn
      simp only [frames, same]
      exact delivering.returned conn
    · rw [same]
  · -- A connection that is returned was not returned before.
    have new : own ∉ world.shared.returned := by
      intro before
      cases nothing.symm.trans (delivering.holder before holds)
    refine ⟨delivering.handed.advance ?_, ?_, ?_⟩
    · simp only [TLSFrame.handed, nothing, delivers, grown, Finset.card_insert_of_notMem new]
      simp
    · intro conn
      have frames := congrFun (Threads.read_update TLSFrame.delivers world label.1 after)
      simp only [frames, delivers, grown, Finset.mem_insert, delivering.returned conn]
      exact (exists_update_some_iff nothing).symm
    · rw [grown]
      exact Finset.subset_insert own _

/-- Every orderly step keeps the connections accounted for, if the active ones are. -/
theorem step_delivering {later : Int} (delivering : world.Delivering lag)
    (orderly : Accepting.Orderly label.2 (world.frame label.1))
    (taken : world.step label = some next)
    (tallied : Threads.Counts (fun s => s.tallied later) TLSFrame.share next) :
    next.Delivering later := by
  obtain ⟨handed, returned, grows⟩ := step_returned delivering taken
  obtain ⟨s, after, step, rfl⟩ := step_inv taken
  refine ⟨tallied, handed, ?_, Threads.forall_frame_update TLSFrame.Settled delivering.settled
      (step.settled orderly (delivering.settled label.1)), returned, ?_, ?_, ?_⟩
  · -- The number of a connection taken is new, and goes to a goroutine without one.
    change Owned s.nextConn fun thread => (Function.update world.frame label.1 after thread).holds
    rcases step.holds with ⟨same, unchanged⟩ | ⟨issued, empty, filled⟩
    · rw [same, Threads.read_update_of_eq unchanged]
      exact delivering.owned
    · rw [issued, Threads.read_update TLSFrame.holds, filled]
      exact delivering.owned.issue empty
  · refine Threads.forall_frame_update (fun frame : TLSFrame => ∀ conn,
      frame.closes = some conn → conn ∈ s.returned) ?_ ?_
    · intro thread conn closes
      exact grows (delivering.closing thread conn closes)
    · intro conn closes
      exact step.closes (delivering.closing label.1) closes
  · intro conn ended
    rcases step.ended ended with before | closes
    · exact grows (delivering.ended before)
    · exact grows (delivering.closing label.1 conn closes)
  · -- Only the call that takes the step may cease to be idle.
    obtain ⟨threads, others⟩ := delivering.finite
    refine ⟨insert label.1 threads, ?_⟩
    intro thread outside
    rw [Finset.mem_insert, not_or] at outside
    exact (Function.update_of_ne outside.1 _ _).trans (others thread outside.2)

/-- A step that counts no connection off a second time keeps the lag. -/
theorem step_fresh (delivering : world.Delivering lag)
    (orderly : Accepting.Orderly label.2 (world.frame label.1))
    (fresh : ∀ conn, world.frame label.1 = .closing conn .decrement →
      conn ∉ world.shared.released)
    (taken : world.step label = some next) : next.Delivering lag := by
  apply step_delivering delivering orderly taken
  obtain ⟨s, after, step, rfl⟩ := step_inv taken
  exact delivering.tallied.advance (step.share orderly fresh lag)

/-- A step that counts a connection off a second time adds to the lag. -/
theorem step_again (delivering : world.Delivering lag) {conn : Nat}
    (stands : world.frame label.1 = .closing conn .decrement)
    (again : conn ∈ world.shared.released) (runs : label.2 = .run)
    (taken : world.step label = some next) : next.Delivering (lag + 1) := by
  -- All but the count of the active connections is kept as by any other step.
  apply step_delivering delivering (by rw [runs, stands]; trivial) taken
  obtain ⟨s, after, step, rfl⟩ := step_inv taken
  refine delivering.tallied.advance ?_
  rw [stands] at step ⊢
  exact step.share_again again lag

end TLSWorld

end Balance
