import Balance.Machine.Covers
import Balance.Pool.SlotCount

/-! The number of connections stays within the slots counted, and those within the pool's size. -/

namespace Balance

open Machine

/-- The slots a goroutine in `Get` has counted with no live connection behind them. -/
def GetFrame.reserved : GetFrame → Int
  | .dial | .undial | .release => 1
  | _ => 0

/-- The slots `cleanup` is about to give back for the connection it has closed. -/
def CleanupFrame.reserved : CleanupFrame → Int
  | .release => 1
  | _ => 0

/-- The slots that stay counted, with no live connection, until the goroutine goes on. -/
def PoolFrame.reserved : PoolFrame → Int
  | .get frame => frame.reserved
  | .cleanup _ frame => frame.reserved
  | _ => 0

/-- Nobody has less than no slot reserved. -/
theorem PoolFrame.reserved_nonneg (frame : PoolFrame) : 0 ≤ frame.reserved := by
  cases frame with
  | get place => cases place <;> simp [reserved, GetFrame.reserved]
  | cleanup now place => cases place <;> simp [reserved, CleanupFrame.reserved]
  | _ => exact le_refl 0

/-- The goroutine is about to return a connection to the channel. -/
def PoolFrame.returning : PoolFrame → Bool
  | .close _ .putSend => true
  | .cleanup _ (.putBack _) => true
  | _ => false

/-- The goroutine has found the channel full, and gives up the slot of its connection. -/
def PoolFrame.dropping : PoolFrame → Bool
  | .close _ .putDrop => true
  | _ => false

/-- While a connection is in somebody's hands, the queue is shorter than the number of live ones. -/
theorem Stock.Sound.queue_length_lt {stock : Stock} {hands : Nat → Option Nat} {thread pc : Nat}
    (sound : stock.Sound hands) (mine : hands thread = some pc) :
    stock.queue.length < stock.live.card := by
  -- The connection in hand and those in the queue stand for as many live connections.
  have once : (pc :: stock.queue).Nodup :=
    List.nodup_cons.mpr ⟨sound.custody.apart thread pc mine, sound.custody.queued⟩
  have backed {item : Nat} (member : item ∈ pc :: stock.queue) :
      ∃ conn ∈ stock.live, stock.conn item = some conn := by
    rcases List.mem_cons.mp member with rfl | queued
    · exact sound.backed_hand mine
    · exact sound.backed item (.inl queued)
  have fits : (pc :: stock.queue).toFinset.card ≤ stock.live.card := by
    apply Finset.card_le_card_of_injOn fun item => (stock.conn item).getD 0
    · intro item member
      obtain ⟨conn, within, wraps⟩ := backed (List.mem_toFinset.mp member)
      simpa [wraps] using within
    · intro item first other second same
      obtain ⟨conn, _, wraps⟩ := backed (List.mem_toFinset.mp first)
      obtain ⟨conn', _, wraps'⟩ := backed (List.mem_toFinset.mp second)
      simp only [wraps, wraps', Option.getD_some] at same
      subst same
      exact sound.distinct item other conn wraps wraps'
  rw [List.toFinset_card_of_nodup once, List.length_cons] at fits
  omega

namespace ConnectionPool

/-- A step keeps the accounts: slots are counted before they are needed, and no more than fit. -/
structure Booked (pool : ConnectionPool) (frame : PoolFrame) (next : ConnectionPool)
    (after : PoolFrame) : Prop where
  shares : after.reserved - frame.reserved ≤ next.surplus - pool.surplus
  room : next.activeCount ≤ max pool.activeCount pool.maxSize
  maxSize : next.maxSize = pool.maxSize

variable {pool next : ConnectionPool} {frame after : PoolFrame} {hands : Nat → Option Nat}
  {thread : Nat}

/-- A step that touches neither slots nor live connections keeps the accounts. -/
theorem booked_of_same (active : next.activeCount = pool.activeCount)
    (live : next.live = pool.live) (maxSize : next.maxSize = pool.maxSize)
    (reserved : after.reserved ≤ frame.reserved) : Booked pool frame next after := by
  -- The surplus is what slots and live connections leave.
  refine ⟨?_, ?_, maxSize⟩
  · simp only [surplus, liveCount, active, live]
    omega
  · omega

/-- Closing the connection in a goroutine's hands frees a slot to be given back. -/
theorem booked_closeConn (sound : pool.stock.Sound hands) {pc : Nat}
    (mine : hands thread = some pc) (reserved : after.reserved ≤ frame.reserved + 1) :
    Booked pool frame (pool.closeConn pc) after := by
  -- One live connection less leaves one slot more to spare.
  have closed := surplus_closeConn sound mine
  have same : (pool.closeConn pc).activeCount = pool.activeCount ∧
      (pool.closeConn pc).maxSize = pool.maxSize := by
    rw [closeConn_eq]
    exact ⟨rfl, rfl⟩
  refine ⟨?_, ?_, same.2⟩
  · omega
  · omega

/-- Giving back a slot that was reserved keeps the accounts. -/
theorem booked_releaseSlot (reserved : after.reserved + 1 ≤ frame.reserved) :
    Booked pool frame pool.releaseSlot after := by
  -- The slot comes off the count and off the reservation.
  refine ⟨?_, ?_, rfl⟩
  · rw [surplus_releaseSlot]
    omega
  · simp only [releaseSlot]
    omega

/-- Every step of `Get` keeps the accounts. -/
theorem GetStep.booked {place : GetFrame} {choice : PoolChoice}
    (step : GetStep pool place choice next after) (sound : pool.stock.Sound hands)
    (mine : hands thread = place.hand) : Booked pool (.get place) next after := by
  -- A slot is taken only where there is room, and before the dial.
  cases step with
  | @received waited => cases waited <;> exact booked_of_same rfl rfl rfl (le_refl 0)
  | @receivedNil waited => cases waited <;> exact booked_of_same rfl rfl rfl (le_refl 0)
  | @cancelled waited => cases waited <;> exact booked_of_same rfl rfl rfl (le_refl 0)
  | @discarded waited =>
    cases waited
    · exact booked_closeConn sound mine zero_le_one
    · exact booked_closeConn sound mine (le_refl 1)
  | counted free =>
    refine ⟨?_, ?_, rfl⟩
    · rw [surplus_takeSlot, add_sub_cancel_left]
      exact le_refl 1
    · simp only [takeSlot]
      omega
  | released => exact booked_releaseSlot (le_refl 1)
  | @dialed now =>
    refine ⟨?_, ?_, rfl⟩
    · rw [surplus_wrap sound]
      simp [PoolFrame.reserved, GetFrame.reserved]
    · exact le_max_left _ _
  | dialFailed => exact booked_of_same rfl rfl rfl (le_refl 1)
  | uncounted => exact booked_releaseSlot (le_refl 1)
  | _ => exact booked_of_same rfl rfl rfl (le_refl 0)

/-- Every step of `cleanup` keeps the accounts. -/
theorem CleanupStep.booked {now : Int} {place : CleanupFrame} {choice : PoolChoice}
    (step : CleanupStep pool now place choice next after) (sound : pool.stock.Sound hands)
    (mine : hands thread = place.hand) : Booked pool (.cleanup now place) next after := by
  -- A slot is given back after its connection has been closed.
  cases step with
  | closed => exact booked_closeConn sound mine (le_refl 1)
  | released => exact booked_releaseSlot (le_refl 1)
  | _ => exact booked_of_same rfl rfl rfl (le_refl 0)

/-- The data kept about a connection plays no part in the accounts. -/
theorem Booked.modify (booked : Booked pool frame next after) (pc : Nat)
    (change : PooledConnection → PooledConnection) :
    Booked pool frame (next.modify pc change) after :=
  ⟨booked.shares, booked.room, booked.maxSize⟩

/-- Every step of the body of `Close` keeps the accounts, unless the channel was found full. -/
theorem advanceClose_booked {pc : Nat} (now : Int) {place : CloseFrame}
    (sound : pool.stock.Sound hands) (mine : hands thread = some pc)
    (fits : (PoolFrame.close pc place).dropping = false) :
    Booked pool (.close pc place) (pool.advanceClose pc now place).1
      (pool.advanceClose pc now place).2 := by
  -- The body closes the connection in its hands, or returns it with its slot.
  cases place with
  | test => exact booked_of_same rfl rfl rfl (le_refl 0)
  | direct =>
    simp only [advanceClose, setOnce, forgetConn]
    apply Booked.modify
    apply Booked.modify
    exact booked_closeConn sound mine zero_le_one
  | putCheck => exact booked_of_same rfl rfl rfl (le_refl 0)
  | putMark => exact booked_of_same rfl rfl rfl (le_refl 0)
  | putSend =>
    simp only [advanceClose, send]
    split
    · exact booked_of_same rfl rfl rfl (le_refl 0)
    · split <;> exact booked_of_same rfl rfl rfl (le_refl 0)
  | putDrop => cases fits
  | putClose =>
    simp only [advanceClose, setOnce]
    apply Booked.modify
    exact booked_closeConn sound mine zero_le_one

/-- Every step of closing the pool keeps the accounts, for the slots of closed connections stay. -/
theorem advanceShutdown_booked {place : ShutdownFrame} (sound : pool.stock.Sound hands)
    (mine : hands thread = place.hand) :
    Booked pool (.shutdown place) (pool.advanceShutdown place).1
      (pool.advanceShutdown place).2 := by
  -- Nothing is given back while the pool is closed.
  cases place with
  | channel => exact booked_of_same rfl rfl rfl (le_refl 0)
  | drain =>
    simp only [advanceShutdown]
    split <;> exact booked_of_same rfl rfl rfl (le_refl 0)
  | close pc => exact booked_closeConn sound mine zero_le_one

/-- Every step of a goroutine keeps the accounts, unless it has found the channel full. -/
theorem PoolStep.booked {choice : PoolChoice} (step : PoolStep pool frame choice next after)
    (sound : pool.stock.Sound hands) (mine : hands thread = frame.hand)
    (fits : frame.dropping = false) : Booked pool frame next after := by
  -- Outside the calls, a goroutine touches neither slots nor connections.
  cases step with
  | get step => exact step.booked sound mine
  | close => exact advanceClose_booked _ sound mine fits
  | cleanup step => exact step.booked sound mine
  | shutdown => exact advanceShutdown_booked sound mine
  | _ => exact booked_of_same rfl rfl rfl (le_refl 0)

/-- Only a send that finds the channel full makes a goroutine drop its connection. -/
theorem PoolStep.dropping {choice : PoolChoice} (step : PoolStep pool frame choice next after)
    (room : frame.returning = true → (pool.connections.length : Int) < pool.maxSize) :
    after.dropping = false := by
  -- Every other step leads elsewhere.
  cases step with
  | get step => cases step <;> rfl
  | @close pc place now =>
    cases place with
    | test =>
      simp only [advanceClose]
      split <;> rfl
    | putCheck =>
      simp only [advanceClose]
      split <;> rfl
    | putSend =>
      simp only [advanceClose, send, if_pos (room rfl)]
      split <;> rfl
    | _ => rfl
  | cleanup step => cases step <;> rfl
  | @shutdown place now =>
    cases place with
    | drain =>
      simp only [advanceShutdown]
      split <;> rfl
    | _ => rfl
  | _ => rfl

end ConnectionPool

namespace PoolWorld

variable {world next : PoolWorld}

/-- Slots cover the live connections and those to come, and there is room for all of them. -/
structure Bounded (world : PoolWorld) : Prop where
  sound : world.Sound
  covers : Threads.Covers ConnectionPool.surplus PoolFrame.reserved world
  fits : world.shared.activeCount ≤ world.shared.maxSize
  kept : ∀ thread, (world.frame thread).dropping = false

/-- A new pool has no slot taken, and room for at least one connection. -/
theorem start_bounded (config : PoolConfig) : (start config).Bounded := by
  -- The size of a pool is positive, by its default if need be.
  refine ⟨start_sound config, ?_, ?_, fun _ => rfl⟩
  · intro threads
    simp [start, newConnectionPool, ConnectionPool.surplus, ConnectionPool.liveCount,
      PoolFrame.reserved]
  · simp only [start, newConnectionPool, orPositive]
    split <;> omega

/-- There are no more live connections than slots. -/
theorem Bounded.live_le (bounded : world.Bounded) :
    world.shared.liveCount ≤ world.shared.activeCount := by
  have covered := bounded.covers.nonneg
  simp only [ConnectionPool.surplus] at covered
  omega

/-- Whoever is about to return a connection finds room for it. -/
theorem Bounded.room (bounded : world.Bounded) {thread : Nat}
    (returning : (world.frame thread).returning = true) :
    (world.shared.connections.length : Int) < world.shared.maxSize := by
  -- The connection is in the goroutine's hands, and so is not one of those that wait.
  have hand : ∃ pc, world.hands thread = some pc := by
    unfold hands
    revert returning
    fun_cases PoolFrame.returning (world.frame thread) with
    | _ => simp_all [PoolFrame.hand, CleanupFrame.hand]
  obtain ⟨pc, mine⟩ := hand
  have shorter := bounded.sound.queue_length_lt mine
  have live := bounded.live_le
  have fits := bounded.fits
  simp only [ConnectionPool.liveCount] at live
  have queued : world.shared.stock.queue.length = world.shared.connections.length := rfl
  have alive : world.shared.stock.live.card = world.shared.live.card := rfl
  omega

/-- Every step keeps the bounds. -/
theorem step_bounded {label : Nat × PoolChoice} (bounded : world.Bounded)
    (taken : world.step label = some next) : next.Bounded := by
  -- The accounts of a step are those of the goroutine that takes it.
  have sound := step_sound bounded.sound taken
  obtain ⟨thread, choice⟩ := label
  obtain ⟨pool, after, step, rfl⟩ := step_inv taken
  have booked := step.booked bounded.sound rfl (bounded.kept thread)
  refine ⟨sound, bounded.covers.advance PoolFrame.reserved_nonneg booked.shares, ?_, ?_⟩
  · have room := booked.room
    have fits := bounded.fits
    rw [max_eq_right fits] at room
    rw [booked.maxSize]
    exact room
  · exact Threads.forall_frame_update (fun frame : PoolFrame => frame.dropping = false) bounded.kept
      (step.dropping bounded.room)

/-- The bounds hold in every state a run reaches. -/
theorem run_bounded {config : PoolConfig} {trace : List (Nat × PoolChoice)}
    (ran : exec step (start config) trace = some world) : world.Bounded :=
  exec_invariant Bounded (fun _ _ _ bounded taken => step_bounded bounded taken)
    (start_bounded config) ran

/--
The connections open or being dialed never exceed the slots counted, and those never exceed
the size of the pool.

The count is never negative, and no goroutine that returns a connection finds the channel full.
-/
theorem connections_within_slots {config : PoolConfig} {trace : List (Nat × PoolChoice)}
    (ran : exec step (start config) trace = some world) :
    (∀ dialing : Finset Nat, (∀ thread ∈ dialing, world.frame thread = .get .dial) →
      world.shared.liveCount + dialing.card ≤ world.shared.activeCount) ∧
    0 ≤ world.shared.activeCount ∧ world.shared.activeCount ≤ world.shared.maxSize ∧
    (∀ thread, (world.frame thread).returning = true →
      (world.shared.connections.length : Int) < world.shared.maxSize) ∧
    ∀ thread, (world.frame thread).dropping = false := by
  have bounded := run_bounded ran
  refine ⟨?_, ?_, bounded.fits, fun thread => bounded.room, bounded.kept⟩
  · intro dialing busy
    -- Each dial in progress has its slot reserved.
    have covered := bounded.covers.card_le dialing (by
      intro thread member
      rw [busy thread member]
      exact le_refl 1)
    simp only [ConnectionPool.surplus] at covered
    omega
  · have live := bounded.live_le
    simp only [ConnectionPool.liveCount] at live
    omega

/-- A pool with one slot, out of which a connection is dialed while another goroutine waits. -/
def dialWhileWaiting : List (Nat × PoolChoice) :=
  [.get, .run 0, .default, .run 0].map (0, ·) ++ [.get, .run 0, .default, .run 0].map (1, ·)

/-- While the only slot is taken by a dial, there is no live connection. -/
theorem one_dial_takes_the_slot : ∃ world, exec step (start oneSlot) dialWhileWaiting = some world ∧
    world.frame 0 = .get .dial ∧ world.frame 1 = .get .wait ∧
      world.shared.liveCount + 1 ≤ world.shared.activeCount ∧ world.shared.activeCount ≤ 1 := by
  have ran : exec step (start oneSlot) dialWhileWaiting = some _ := rfl
  have within := connections_within_slots ran
  exact ⟨_, ran, rfl, rfl, by simpa using within.1 {0} (by simp), within.2.2.1⟩

end PoolWorld

end Balance
