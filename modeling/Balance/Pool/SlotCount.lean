import Balance.Pool.Custody

/-! Whether `Get` counts as many slots as it leaves network connections live. -/

namespace Balance

open Machine

/-- What a goroutine in `Get` has counted and not yet dialed or closed, or the other way round. -/
def GetFrame.owed : GetFrame → Int
  -- A slot is taken before the dial and given back after a failed one.
  | .dial | .undial => 1
  -- A connection discarded after waiting is closed before its slot is given back.
  | .release => 1
  -- A connection discarded at once is still to be closed, and its slot never given back.
  | .discard false _ => -1
  | _ => 0

/-- What a goroutine owes: nothing, outside `Get`. -/
def PoolFrame.owed : PoolFrame → Int
  | .get frame => frame.owed
  | _ => 0

/-- The goroutine is in a call of `Get`. -/
def PoolFrame.inGet : PoolFrame → Bool
  | .get _ => true
  | _ => false

/-- The probe of a connection that was there at once gives it up for dead. -/
def PoolFrame.findsDead : PoolFrame → PoolChoice → Bool
  | .get (.probe false _), .probe false => true
  | _, _ => false

namespace ConnectionPool

/-- The number of network connections that are dialed and not closed. -/
def liveCount (pool : ConnectionPool) : Int :=
  pool.live.card

/-- The number of slots counted for which there is no live connection. -/
def surplus (pool : ConnectionPool) : Int :=
  pool.activeCount - pool.liveCount

variable {pool next : ConnectionPool} {hands : Nat → Option Nat} {thread : Nat}

/-- Taking a slot counts one more. -/
@[simp] theorem surplus_takeSlot : pool.takeSlot.surplus = pool.surplus + 1 := by
  simp only [surplus, liveCount, takeSlot]
  omega

/-- Giving a slot back counts one less. -/
@[simp] theorem surplus_releaseSlot : pool.releaseSlot.surplus = pool.surplus - 1 := by
  simp only [surplus, liveCount, releaseSlot]
  omega

/-- Closing the connection in a goroutine's hands leaves one slot without a live connection. -/
theorem surplus_closeConn (sound : pool.stock.Sound hands) {pc : Nat}
    (mine : hands thread = some pc) : (pool.closeConn pc).surplus = pool.surplus + 1 := by
  -- The connection behind it is live, so one live connection less is left.
  obtain ⟨conn, within, wraps⟩ := sound.backed_hand mine
  have wrapped : (pool.pooled pc).conn = some conn := wraps
  have fewer := Finset.card_erase_add_one (show conn ∈ pool.live from within)
  simp only [surplus, liveCount, closeConn, wrapped]
  omega

/-- Wrapping a connection just dialed fills a slot. -/
theorem surplus_wrap (sound : pool.stock.Sound hands) (now : Int) :
    (pool.wrap now).surplus = pool.surplus - 1 := by
  -- The connection is new, so there is one live connection more.
  have more := Finset.card_insert_of_notMem (show pool.nextConn ∉ pool.live from
    sound.nextConn_not_live)
  simp only [surplus, liveCount, wrap]
  omega

/-- A step of `Get` changes the surplus by what it owes more than before, charges apart. -/
theorem advanceGet_ledger {place : GetFrame} {choice : PoolChoice} {frame : PoolFrame}
    (sound : pool.stock.Sound hands) (mine : hands thread = place.hand)
    (taken : pool.advanceGet place choice = some (next, frame)) :
    next.surplus - pool.surplus = frame.owed - place.owed +
      if (PoolFrame.get place).findsDead choice then 1 else 0 := by
  -- What is taken, closed or dialed shows in the surplus, and the place says what is owed for it.
  cases advanceGet_step taken with
  | @received waited pc rest front =>
    cases waited <;> simp [surplus, liveCount, PoolFrame.owed, GetFrame.owed, PoolFrame.findsDead]
  | @receivedNil waited =>
    cases waited <;> simp [PoolFrame.owed, GetFrame.owed, PoolFrame.findsDead]
  | @cancelled waited =>
    cases waited <;> simp [PoolFrame.owed, GetFrame.owed, PoolFrame.findsDead]
  | @alive waited answers pc healthy =>
    -- A probe that passes has had an answer.
    have answered : answers = true := by
      simp only [PooledConnection.isHealthy, Bool.and_eq_true] at healthy
      exact healthy.2
    subst answered
    simp [PoolFrame.owed, GetFrame.owed, PoolFrame.findsDead]
  | @dead waited answers pc failed =>
    -- The connection is there, so that the probe of it has failed.
    obtain ⟨conn, _, wraps⟩ := sound.backed_hand mine
    have there : (pool.pooled pc).conn = some conn := wraps
    have silent : answers = false := by
      simpa [PooledConnection.isHealthy, there] using failed
    subst silent
    cases waited <;> simp [PoolFrame.owed, GetFrame.owed, PoolFrame.findsDead]
  | @discarded waited pc now =>
    have closed := surplus_closeConn sound mine
    cases waited <;>
      simp only [PoolFrame.owed, GetFrame.owed, PoolFrame.findsDead, Bool.false_eq_true, if_false,
        if_true] <;>
      omega
  | counted =>
    simp only [surplus_takeSlot, PoolFrame.owed, GetFrame.owed, PoolFrame.findsDead,
      Bool.false_eq_true, if_false]
    omega
  | released =>
    simp only [surplus_releaseSlot, PoolFrame.owed, GetFrame.owed, PoolFrame.findsDead,
      Bool.false_eq_true, if_false]
    omega
  | dialed =>
    simp only [surplus_wrap sound, PoolFrame.owed, GetFrame.owed, PoolFrame.findsDead,
      Bool.false_eq_true, if_false]
    omega
  | uncounted =>
    simp only [surplus_releaseSlot, PoolFrame.owed, GetFrame.owed, PoolFrame.findsDead,
      Bool.false_eq_true, if_false]
    omega
  | _ =>
    simp [PoolFrame.owed, GetFrame.owed, PoolFrame.findsDead, surplus, liveCount, modify]

end ConnectionPool

namespace PoolWorld

variable {world next : PoolWorld} {thread : Nat}

/-- A step of a goroutine in `Get` keeps its accounts, charges apart. -/
theorem step_ledger {choice : PoolChoice} (sound : world.Sound)
    (inside : (world.frame thread).inGet) (taken : world.step (thread, choice) = some next) :
    next.shared.surplus - world.shared.surplus = (next.frame thread).owed -
      (world.frame thread).owed + if (world.frame thread).findsDead choice then 1 else 0 := by
  -- Inside `Get`, the step is one of that call.
  obtain ⟨pool, frame, advanced, rfl⟩ := Threads.step_eq_some.mp taken
  have mine : world.hands thread = (world.frame thread).hand := rfl
  cases place : world.frame thread with
  | get place' =>
    rw [place] at advanced mine
    simp only [Function.update_self]
    exact ConnectionPool.advanceGet_ledger sound mine advanced
  | _ =>
    rw [place] at inside
    cases inside

/-- What the steps of one goroutine add to a measure of the pool. -/
abbrev change (measure : ConnectionPool → Int) (thread : Nat) :
    PoolWorld → List (Nat × PoolChoice) → Int :=
  Threads.contribution ConnectionPool.advance measure thread

/-- The goroutine takes its steps inside one call of `Get`. -/
abbrev WithinGet (thread : Nat) (world : PoolWorld) (label : Nat × PoolChoice) : Prop :=
  label.1 = thread → (world.frame thread).inGet

/-- No connection that the goroutine receives at once is given up for dead. -/
abbrev FindsNoneDead (thread : Nat) (world : PoolWorld) (label : Nat × PoolChoice) : Prop :=
  label.1 = thread → (world.frame thread).findsDead label.2 = false

/--
A call of `Get` counts honestly exactly when the probe of every connection that it
receives without waiting finds it alive.

Every other path settles what it owes before the call returns.
A connection found dead at once is closed, and its slot stays taken.
-/
theorem get_counts_iff_none_dead {config : PoolConfig} {past call : List (Nat × PoolChoice)}
    {world final : PoolWorld} (reached : exec step (start config) past = some world)
    (called : world.frame thread = .get .check) (within : Along step (WithinGet thread) world call)
    (ran : exec step world call = some final) (returned : (final.frame thread).inGet = false) :
    change ConnectionPool.activeCount thread world call =
        change ConnectionPool.liveCount thread world call ↔
      Along step (FindsNoneDead thread) world call := by
  -- What the call adds to the surplus is the number of dead connections it was charged for.
  obtain ⟨charges, settled, none_iff⟩ := Threads.contribution_settled Sound
    (fun _ _ _ sound taken => step_sound sound taken)
    (fun _ _ _ sound inside taken => step_ledger sound inside taken) (run_sound reached) within ran
  -- Neither at the start of the call nor after its end does the goroutine owe anything.
  have begins : (world.frame thread).owed = 0 := by
    rw [called]
    rfl
  have ends : (final.frame thread).owed = 0 := by
    cases last : final.frame thread with
    | get place =>
      rw [last] at returned
      cases returned
    | _ => rfl
  have charged : change ConnectionPool.surplus thread world call = charges := by
    rw [begins, ends] at settled
    simpa using settled
  have even : change ConnectionPool.activeCount thread world call =
        change ConnectionPool.liveCount thread world call ↔
      change ConnectionPool.surplus thread world call = 0 :=
    Threads.contribution_eq_iff world call
  rw [even, charged]
  refine Iff.trans ?_ none_iff
  omega

/-- A goroutine that has returned its connection asks for one again. -/
def returnAndAsk : List (Nat × PoolChoice) :=
  firstUse ++ [(0, .get)]

/-- The connection that waits in the pool is found alive and handed out. -/
def reuseCall : List (Nat × PoolChoice) :=
  [.run 0, .receive, .probe true, .run 0, .run 0].map (0, ·)

/-- The connection is found dead, no slot is free, and the caller gives up waiting. -/
def deadCall : List (Nat × PoolChoice) :=
  [.run 0, .receive, .probe false, .run 0, .run 0, .contextDone].map (0, ·)

/-- Reusing a live connection changes neither count. -/
theorem live_connection_reused : ∃ world,
    exec step (start oneSlot) returnAndAsk = some world ∧
      change ConnectionPool.activeCount 0 world reuseCall =
        change ConnectionPool.liveCount 0 world reuseCall := by
  -- The call evaluates, and its only probe finds the connection alive.
  have reached : exec step (start oneSlot) returnAndAsk = some _ := rfl
  refine ⟨_, reached, (get_counts_iff_none_dead reached rfl ?_ rfl rfl).mpr ?_⟩
  · decide
  · decide

/-- Discarding a dead connection closes the only one and still leaves the only slot taken. -/
theorem dead_connection_keeps_slot : ∃ world final,
    exec step (start oneSlot) returnAndAsk = some world ∧ world.frame 0 = .get .check ∧
      exec step world deadCall = some final ∧ final.frame 0 = .ready (some .contextDone) ∧
      change ConnectionPool.activeCount 0 world deadCall = 0 ∧
      change ConnectionPool.liveCount 0 world deadCall = -1 := by
  -- The call evaluates, and with it both sums.
  exact ⟨_, _, rfl, rfl, rfl, rfl, by decide, by decide⟩

end PoolWorld

end Balance
