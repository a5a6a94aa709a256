import Balance.Pool.Connection

/-! One call of `cleanup` that nothing else interferes with. -/

namespace Balance

namespace ConnectionPool

variable {pool after : ConnectionPool} {now : Int}

/-- The steps of a call of `cleanup`, up to its return. -/
def cleanupStep (state : ConnectionPool × PoolFrame) (choice : PoolChoice) :
    Option (ConnectionPool × PoolFrame) :=
  match state.2 with
  | .cleanup now frame => state.1.advanceCleanup now frame choice
  | _ => none

/-- A connection has not been idle for long. -/
def fresh (pool : ConnectionPool) (now : Int) (pc : Nat) : Bool :=
  Go.since now (pool.pooled pc).lastUsed < pool.maxIdleTime

/-- What a call of `cleanup` is meant to leave. -/
structure CleanedUp (before : ConnectionPool) (now : Int) (after : ConnectionPool) : Prop where
  kept : after.connections.Perm (before.connections.filter (before.fresh now))
  closed : ∀ conn, conn ∈ after.live ↔ conn ∈ before.live ∧
    ∀ pc ∈ before.connections, before.fresh now pc = false → (before.pooled pc).conn ≠ some conn
  counted : after.activeCount =
    before.activeCount - before.connections.countP fun pc => !before.fresh now pc

/-- A call returns after it has left what it is meant to. -/
def ReturnsCleanedUp (before : ConnectionPool) (now : Int)
    (state : ConnectionPool × PoolFrame) : Prop :=
  ∃ after, state = (after, .ready none) ∧ CleanedUp before now after

/-- The pool after the first connection of the channel has been closed. -/
def dropFirst (pool : ConnectionPool) (pc : Nat) (rest : List Nat) : ConnectionPool :=
  (closeConn { pool with connections := rest } pc).releaseSlot

/-- What is left once the first connection has been closed and the others have been cleaned up. -/
theorem CleanedUp.cons {pc : Nat} {rest : List Nat} (front : pool.connections = pc :: rest)
    (stale : pool.fresh now pc = false) (others : CleanedUp (pool.dropFirst pc rest) now after) :
    CleanedUp pool now after := by
  -- The first connection is stale, so that it is missing from what is kept on both sides.
  obtain ⟨kept, closed, counted⟩ := others
  rw [dropFirst, closeConn_eq] at kept closed counted
  refine ⟨?_, ?_, ?_⟩
  · rw [front, List.filter_cons_of_neg (by simp [stale])]
    exact kept
  · intro conn
    rw [closed conn]
    change conn ∈ (closeConn { pool with connections := rest } pc).live ∧ _ ↔ _
    rw [mem_live_closeConn, and_assoc, front, List.forall_mem_cons]
    refine and_congr_right fun _ => and_congr_left fun _ => ?_
    exact (forall_prop_of_true (q := fun _ => (pool.pooled pc).conn ≠ some conn) stale).symm
  · rw [counted, front, List.countP_cons_of_pos (by simp [stale])]
    change pool.activeCount - 1 - (rest.countP fun pc => !pool.fresh now pc) = _
    push_cast
    omega

/-- A pool without idle connections is clean. -/
theorem CleanedUp.nil (empty : pool.connections = []) : CleanedUp pool now pool := by
  refine ⟨?_, ?_, ?_⟩ <;> simp [empty]

/-- A call ends if every step that is possible leads to where it ends. -/
theorem ends_of_cleanupStep {result : ConnectionPool × PoolFrame → Prop} {place : CleanupFrame}
    (choice : PoolChoice) (possible : (pool.advanceCleanup now place choice).isSome)
    (all : ∀ {choice : PoolChoice} {next : ConnectionPool} {frame : PoolFrame},
      CleanupStep pool now place choice next frame →
        Machine.Ends cleanupStep result (next, frame)) :
    Machine.Ends cleanupStep result (pool, .cleanup now place) := by
  -- The steps of a call are inverted here once, for all its places.
  obtain ⟨next, taken⟩ := Option.isSome_iff_exists.mp possible
  have first : cleanupStep (pool, .cleanup now place) choice = some next := taken
  refine .next first ?_
  intro choice next taken
  exact all (advanceCleanup_step taken)

/-- A connection that has been idle for long is closed and gives its slot back. -/
theorem ends_inspect {result : ConnectionPool × PoolFrame → Prop} {pc : Nat}
    (unused : (pool.pooled pc).inUse = false) (stale : pool.fresh now pc = false)
    (later : Machine.Ends cleanupStep result
      ((pool.closeConn pc).releaseSlot, .cleanup now .receive)) :
    Machine.Ends cleanupStep result (pool, .cleanup now (.inspect pc)) := by
  -- Three steps in a row, each the only one that is possible.
  simp only [fresh, decide_eq_false_iff_not, not_lt] at stale
  refine ends_of_cleanupStep (.run now) ?_ ?_
  · rw [advanceCleanup]
    split <;> rfl
  · rintro _ _ _ step
    cases step with
    | kept valid =>
      rw [unused] at valid
      rcases valid with used | short
      · cases used
      · omega
    | expired _ =>
      refine ends_of_cleanupStep (.run now) rfl ?_
      rintro _ _ _ ⟨⟩
      refine ends_of_cleanupStep (.run now) rfl ?_
      rintro _ _ _ ⟨⟩
      exact later

/-- If every idle connection is stale, the call closes them one after the other and returns. -/
theorem ends_receive (usable : pool.connectionsClosed = false)
    (stale : ∀ pc ∈ pool.connections, (pool.pooled pc).inUse = false ∧ pool.fresh now pc = false) :
    Machine.Ends cleanupStep (ReturnsCleanedUp pool now) (pool, .cleanup now .receive) := by
  -- The induction is on the channel, and the pool changes with each connection closed.
  generalize queued : pool.connections = queue
  induction queue generalizing pool with
  | nil =>
    have ready : pool.nothingReady = true := by simp [nothingReady, queued, usable]
    refine ends_of_cleanupStep .default (by rw [advanceCleanup, if_pos ready]; rfl) ?_
    rintro _ _ _ step
    cases step with
    | received front => cases queued.symm.trans front
    | receivedNil _ closed => cases usable.symm.trans closed
    | finished _ => exact .here (fun _ => rfl) ⟨pool, rfl, .nil queued⟩
  | cons pc rest ih =>
    obtain ⟨unused, old⟩ := stale pc (by simp [queued])
    have later : Machine.Ends cleanupStep (ReturnsCleanedUp (pool.dropFirst pc rest) now)
        (pool.dropFirst pc rest, .cleanup now .receive) := by
      have same := closeConn_eq { pool with connections := rest } pc
      refine ih ?_ ?_ ?_
      · rw [dropFirst, same]
        exact usable
      · rw [dropFirst, same]
        intro other member
        exact stale other (by rw [queued]; exact List.mem_cons_of_mem pc member)
      · rw [dropFirst, same]
        rfl
    -- The first connection is received, found stale and closed.
    refine ends_of_cleanupStep .receive (by rw [advanceCleanup, receive, queued]; rfl) ?_
    rintro _ _ _ step
    cases step with
    | receivedNil empty _ => cases queued.symm.trans empty
    | finished ready => simp [nothingReady, queued] at ready
    | received front =>
      obtain ⟨rfl, rfl⟩ := List.cons_eq_cons.mp (queued.symm.trans front)
      refine ends_inspect unused old (later.mono ?_)
      rintro state ⟨after, rfl, others⟩
      exact ⟨after, rfl, others.cons queued old⟩

/-- A call that has returned found the channel empty and usable. -/
theorem exec_cleanup_returned {trace : List PoolChoice}
    (ran : Machine.exec cleanupStep (pool, .cleanup now .receive) trace =
      some (after, .ready none)) : after.connections = [] ∧ pool.connectionsClosed = false := by
  -- The channel is never closed by the call, and only an empty one lets it return.
  have kept := Machine.exec_invariant
    (fun state : ConnectionPool × PoolFrame =>
      state.1.connectionsClosed = pool.connectionsClosed ∧
        (state.2 = .ready none → state.1.nothingReady = true))
    ?_ ⟨rfl, by simp⟩ ran
  · obtain ⟨same, returned⟩ := kept
    have ready := returned rfl
    simp only [nothingReady, Bool.and_eq_true, List.isEmpty_iff, Bool.not_eq_eq_eq_not,
      Bool.not_true] at ready
    exact ⟨ready.1, same.symm.trans ready.2⟩
  · rintro ⟨state, frame⟩ choice ⟨next, reached⟩ ⟨same, _⟩ taken
    unfold cleanupStep at taken
    split at taken
    case h_2 => cases taken
    case h_1 later place _ =>
      cases advanceCleanup_step taken with
      | finished ready => exact ⟨same, fun _ => ready⟩
      | closed =>
        rw [closeConn_eq]
        exact ⟨same, by simp⟩
      | _ => exact ⟨same, by simp⟩

/--
A call of `cleanup` on idle connections returns, and leaves what it is meant to, exactly if the
channel is usable and every one of them has been idle for long.
-/
theorem cleanup_cleans_iff (pool : ConnectionPool) (now : Int)
    (idle : ∀ pc ∈ pool.connections, (pool.pooled pc).inUse = false) :
    Machine.Ends cleanupStep (ReturnsCleanedUp pool now) (pool, .cleanup now .receive) ↔
      pool.connectionsClosed = false ∧ ∀ pc ∈ pool.connections, pool.fresh now pc = false := by
  constructor
  · -- The call returns with an empty channel, so it cannot have been meant to keep anything.
    intro ends
    obtain ⟨trace, final, ran, after, rfl, cleaned⟩ := ends.exists_run
    obtain ⟨empty, usable⟩ := exec_cleanup_returned ran
    have none : pool.connections.filter (pool.fresh now) = [] := by
      have kept := cleaned.kept
      rw [empty] at kept
      exact List.nil_perm.mp kept
    refine ⟨usable, ?_⟩
    intro pc member
    simpa using List.filter_eq_nil_iff.mp none pc member
  · rintro ⟨usable, stale⟩
    exact ends_receive usable fun pc member => ⟨idle pc member, stale pc member⟩

/-- A connection that the loop puts back. -/
def Lasting (pool : ConnectionPool) (now : Int) (pc : Nat) : Prop :=
  (pool.pooled pc).inUse = true ∨ pool.fresh now pc = true

/-- A call in a loop that has a connection to put back, in the channel or in its hands. -/
inductive Spinning (now : Int) : ConnectionPool × PoolFrame → Prop
  | receive {pool : ConnectionPool} (usable : pool.connectionsClosed = false)
      (room : (pool.connections.length : Int) ≤ pool.maxSize)
      (waiting : ∃ pc ∈ pool.connections, pool.Lasting now pc) :
      Spinning now (pool, .cleanup now .receive)
  | inspect {pool : ConnectionPool} {first : Nat} (usable : pool.connectionsClosed = false)
      (room : (pool.connections.length : Int) < pool.maxSize)
      (waiting : ∃ pc ∈ first :: pool.connections, pool.Lasting now pc) :
      Spinning now (pool, .cleanup now (.inspect first))
  | putBack {pool : ConnectionPool} {first : Nat} (usable : pool.connectionsClosed = false)
      (room : (pool.connections.length : Int) < pool.maxSize)
      (lasting : pool.Lasting now first) :
      Spinning now (pool, .cleanup now (.putBack first))
  | close {pool : ConnectionPool} {first : Nat} (usable : pool.connectionsClosed = false)
      (room : (pool.connections.length : Int) ≤ pool.maxSize)
      (waiting : ∃ pc ∈ pool.connections, pool.Lasting now pc) :
      Spinning now (pool, .cleanup now (.close first))
  | release {pool : ConnectionPool} (usable : pool.connectionsClosed = false)
      (room : (pool.connections.length : Int) ≤ pool.maxSize)
      (waiting : ∃ pc ∈ pool.connections, pool.Lasting now pc) :
      Spinning now (pool, .cleanup now .release)

/-- The loop always has a next step, and goes on spinning. -/
theorem Spinning.progress (state : ConnectionPool × PoolFrame) (spins : Spinning now state) :
    ∃ choice next, cleanupStep state choice = some next ∧ Spinning now next := by
  cases spins with
  | @receive pool usable room waiting =>
    -- The channel is not empty, so that its first connection is received.
    match queued : pool.connections with
    | [] => simp [queued] at waiting
    | first :: rest =>
      rw [queued, List.length_cons] at room
      rw [queued] at waiting
      refine ⟨.receive, ({ pool with connections := rest }, .cleanup now (.inspect first)), ?_, ?_⟩
      · change pool.receive _ = _
        rw [ConnectionPool.receive, queued]
      · exact .inspect usable (by push_cast at room; exact Int.add_one_le_iff.mp room) waiting
  | @inspect pool first usable room waiting =>
    have test : ((pool.pooled first).inUse ||
        decide (Go.since now (pool.pooled first).lastUsed < pool.maxIdleTime)) = true ↔
          pool.Lasting now first := by
      rw [Bool.or_eq_true, Lasting, fresh]
    by_cases lasting : pool.Lasting now first
    · exact ⟨.run now, (pool, .cleanup now (.putBack first)), if_pos (test.mpr lasting),
        .putBack usable room lasting⟩
    · -- A stale connection is closed, and the one to put back is still in the channel.
      refine ⟨.run now, (pool, .cleanup now (.close first)), ?_, .close usable room.le ?_⟩
      · exact if_neg (mt test.mp lasting)
      · obtain ⟨pc, member, lasts⟩ := waiting
        rcases List.mem_cons.mp member with rfl | later
        · exact absurd lasts lasting
        · exact ⟨pc, later, lasts⟩
  | @putBack pool first usable room lasting =>
    -- There is room, since the connection has just been taken from the channel.
    refine ⟨.run now, (pool.enqueue first, .cleanup now .receive), ?_, ?_⟩
    · simp [cleanupStep, advanceCleanup, send, usable, room]
    · refine .receive usable ?_ ⟨first, by simp [enqueue], lasting⟩
      simp only [enqueue, List.length_append, List.length_singleton]
      omega
  | @close pool first usable room waiting =>
    refine ⟨.run now, (pool.closeConn first, .cleanup now .release), rfl, ?_⟩
    rw [closeConn_eq]
    exact .release usable room waiting
  | @release pool usable room waiting =>
    exact ⟨.run now, (pool.releaseSlot, .cleanup now .receive), rfl, .receive usable room waiting⟩

/-- While the channel holds a connection that is put back, a call of `cleanup` never returns. -/
theorem cleanup_endless (usable : pool.connectionsClosed = false)
    (room : (pool.connections.length : Int) ≤ pool.maxSize) {pc : Nat}
    (member : pc ∈ pool.connections) (lasting : pool.Lasting now pc) :
    ¬ Machine.Ends cleanupStep (fun _ => True) (pool, .cleanup now .receive) :=
  Machine.not_ends_of_invariant (Spinning now) Spinning.progress
    (.receive usable room ⟨pc, member, lasting⟩)

/-- A pool with one idle connection, last used when time began. -/
def oneIdle : ConnectionPool :=
  { newConnectionPool ⟨"127.0.0.1:9000", 10, 60, 5⟩ with
    connections := [0]
    activeCount := 1
    totalCreated := 1
    pooled := fun _ => ⟨some 0, 0, false, .done⟩
    nextPooled := 1
    live := {0}
    nextConn := 1 }

/-- After its idle time the connection is closed and the call returns. -/
theorem stale_connection_cleaned :
    Machine.Ends cleanupStep (ReturnsCleanedUp oneIdle 60) (oneIdle, .cleanup 60 .receive) := by
  refine (cleanup_cleans_iff oneIdle 60 ?_).mpr ⟨rfl, ?_⟩
  · intro pc _
    rfl
  · intro pc _
    change decide (Go.since 60 0 < 60) = false
    decide

/-- Before it, the call puts the connection back and receives it again without end. -/
theorem fresh_connection_endless :
    (∀ pc ∈ oneIdle.connections, (oneIdle.pooled pc).inUse = false) ∧
      ¬ Machine.Ends cleanupStep (fun _ => True) (oneIdle, .cleanup 59 .receive) := by
  refine ⟨fun _ _ => rfl, ?_⟩
  exact cleanup_endless rfl (by decide) List.mem_cons_self (.inr (by decide))

end ConnectionPool

end Balance
