import Balance.Machine.Custody
import Balance.Pool.Connection

/-! Who has each pooled connection, and which network connections stand behind them. -/

namespace Balance

open Machine

/--
What a pool is about, whatever the code does in between.

Pooled connections wait in a queue or are in the hands of a goroutine.
Behind each stands a network connection, which is live until somebody closes it.
-/
structure Stock where
  queue : List Nat
  conn : Nat → Option Nat
  live : Finset Nat
  nextPooled : Nat
  nextConn : Nat

namespace Stock

/-- A stock without the network connection behind a pooled one. -/
def liveWithout (stock : Stock) (pc : Nat) : Finset Nat :=
  match stock.conn pc with
  | none => stock.live
  | some conn => stock.live.erase conn

/-- One new network connection, wrapped in a new pooled one. -/
def create (stock : Stock) : Stock where
  queue := stock.queue
  conn := Function.update stock.conn stock.nextPooled (some stock.nextConn)
  live := insert stock.nextConn stock.live
  nextPooled := stock.nextPooled + 1
  nextConn := stock.nextConn + 1

/-- What one goroutine, with the given hand before and after, may do to the stock. -/
inductive Move : Stock → Option Nat → Stock → Option Nat → Prop
  | keep (stock : Stock) (hand : Option Nat) : Move stock hand stock hand
  | take {stock : Stock} {pc : Nat} {rest : List Nat} (front : stock.queue = pc :: rest) :
      Move stock none { stock with queue := rest } (some pc)
  | give (stock : Stock) (pc : Nat) :
      Move stock (some pc) { stock with queue := stock.queue ++ [pc] } none
  -- The pooled connection may still point to the network connection that was closed.
  | close {stock : Stock} {pc : Nat} {left : Option Nat}
      (pointer : left = stock.conn pc ∨ left = none) :
      Move stock (some pc)
        { stock with
          conn := Function.update stock.conn pc left
          live := stock.liveWithout pc } none
  | create (stock : Stock) : Move stock none stock.create (some stock.nextPooled)
  -- The goroutine walks away from a connection that it neither returned nor closed.
  | lose (stock : Stock) (pc : Nat) : Move stock (some pc) stock none

/-- Every connection kept is in one place only and has a live connection of its own behind it. -/
structure Sound (stock : Stock) (hands : Nat → Option Nat) : Prop where
  custody : Custody stock.queue hands
  backed : ∀ pc, Kept stock.queue hands pc → ∃ conn ∈ stock.live, stock.conn pc = some conn
  distinct : ∀ pc other conn,
    stock.conn pc = some conn → stock.conn other = some conn → pc = other
  built : ∀ pc, stock.nextPooled ≤ pc → stock.conn pc = none
  dialed : ∀ pc conn, stock.conn pc = some conn → conn < stock.nextConn
  opened : ∀ conn ∈ stock.live, conn < stock.nextConn

section Moves

variable {stock next : Stock} {hands : Nat → Option Nat} {thread : Nat} {hand : Option Nat}

/-- A pooled connection in somebody's hands has a live connection behind it. -/
theorem Sound.backed_hand (sound : Sound stock hands) {pc : Nat}
    (mine : hands thread = some pc) : ∃ conn ∈ stock.live, stock.conn pc = some conn :=
  sound.backed pc (.inr ⟨thread, mine⟩)

/-- The next name for a pooled connection is not in use. -/
theorem Sound.not_kept_nextPooled (sound : Sound stock hands) :
    ¬ Kept stock.queue hands stock.nextPooled := by
  -- What is kept has a network connection, and the next name has none yet.
  intro kept
  obtain ⟨conn, _, wraps⟩ := sound.backed _ kept
  rw [sound.built _ (Nat.le_refl _)] at wraps
  cases wraps

/-- The next name for a network connection is not in use. -/
theorem Sound.nextConn_not_live (sound : Sound stock hands) : stock.nextConn ∉ stock.live :=
  fun within => Nat.lt_irrefl _ (sound.opened _ within)

/-- A soundly kept stock stays so when a new connection comes in. -/
theorem Sound.create (sound : Sound stock hands) :
    Sound stock.create (Function.update hands thread (some stock.nextPooled)) := by
  -- The pointers that were there before lie below both new names.
  have older : ∀ pc conn, stock.create.conn pc = some conn →
      pc = stock.nextPooled ∧ conn = stock.nextConn ∨
        pc ≠ stock.nextPooled ∧ stock.conn pc = some conn := by
    intro pc conn wraps
    by_cases new : pc = stock.nextPooled
    · subst new
      simp only [Stock.create, Function.update_self, Option.some.injEq] at wraps
      exact .inl ⟨rfl, wraps.symm⟩
    · simp only [Stock.create, Function.update_of_ne new] at wraps
      exact .inr ⟨new, wraps⟩
  refine ⟨sound.custody.add sound.not_kept_nextPooled, ?_, ?_, ?_, ?_, ?_⟩
  · intro pc kept
    rcases kept.of_add with rfl | kept
    · exact ⟨stock.nextConn, Finset.mem_insert_self _ _, Function.update_self _ _ _⟩
    · obtain ⟨conn, within, wraps⟩ := sound.backed pc kept
      have differs : pc ≠ stock.nextPooled := by
        intro same
        subst same
        exact sound.not_kept_nextPooled kept
      refine ⟨conn, Finset.mem_insert_of_mem within, ?_⟩
      simpa only [Stock.create, Function.update_of_ne differs] using wraps
  · intro pc other conn wraps also
    rcases older pc conn wraps with ⟨here, fresh⟩ | ⟨_, wraps⟩
    · rcases older other conn also with ⟨there, _⟩ | ⟨_, also⟩
      · rw [here, there]
      · exact absurd (sound.dialed other conn also) (by omega)
    · rcases older other conn also with ⟨_, fresh⟩ | ⟨_, also⟩
      · exact absurd (sound.dialed pc conn wraps) (by omega)
      · exact sound.distinct pc other conn wraps also
  · intro pc beyond
    have above : stock.nextPooled + 1 ≤ pc := beyond
    have differs : pc ≠ stock.nextPooled := by omega
    simp only [Stock.create, Function.update_of_ne differs]
    exact sound.built pc (by omega)
  · intro pc conn wraps
    show conn < stock.nextConn + 1
    rcases older pc conn wraps with ⟨_, fresh⟩ | ⟨_, wraps⟩
    · omega
    · have := sound.dialed pc conn wraps
      omega
  · intro conn within
    show conn < stock.nextConn + 1
    rcases Finset.mem_insert.mp within with fresh | within
    · omega
    · have := sound.opened conn within
      omega

/-- A soundly kept stock stays so when a goroutine closes the connection in its hands. -/
theorem Sound.close (sound : Sound stock hands) {pc : Nat} {left : Option Nat}
    (mine : hands thread = some pc) (pointer : left = stock.conn pc ∨ left = none) :
    Sound { stock with conn := Function.update stock.conn pc left, live := stock.liveWithout pc }
      (Function.update hands thread none) := by
  -- The connection closed is the goroutine's own, and nobody else points to it.
  obtain ⟨closed, _, wrapped⟩ := sound.backed_hand mine
  have erased : stock.liveWithout pc = stock.live.erase closed := by
    simp only [liveWithout, wrapped]
  -- No pointer changes, other than by being dropped.
  have older : ∀ other conn, Function.update stock.conn pc left other = some conn →
      stock.conn other = some conn := by
    intro other conn wraps
    by_cases same : other = pc
    · subst same
      rw [Function.update_self] at wraps
      rcases pointer with rfl | rfl
      · exact wraps
      · cases wraps
    · rwa [Function.update_of_ne same] at wraps
  refine ⟨sound.custody.drop, ?_, ?_, ?_, ?_, ?_⟩
  · intro other kept
    obtain ⟨kept, differs⟩ := kept.of_drop sound.custody mine
    obtain ⟨conn, within, wraps⟩ := sound.backed other kept
    refine ⟨conn, ?_, ?_⟩
    · -- Another pooled connection has another network connection behind it.
      simp only [erased, Finset.mem_erase]
      refine ⟨?_, within⟩
      intro same
      subst same
      exact differs (sound.distinct other pc conn wraps wrapped)
    · simpa only [Function.update_of_ne differs] using wraps
  · intro one other conn wraps also
    exact sound.distinct one other conn (older one conn wraps) (older other conn also)
  · intro other beyond
    cases wraps : Function.update stock.conn pc left other with
    | none => exact wraps
    | some conn =>
      have before := older other conn wraps
      rw [sound.built other beyond] at before
      cases before
  · intro other conn wraps
    exact sound.dialed other conn (older other conn wraps)
  · intro conn within
    simp only [erased, Finset.mem_erase] at within
    exact sound.opened conn within.2

/-- Whatever a goroutine does to the stock, it stays soundly kept. -/
theorem Move.sound (move : Move stock (hands thread) next hand) (sound : Sound stock hands) :
    Sound next (Function.update hands thread hand) := by
  -- Each move has its counterpart among the laws of custody.
  generalize before : hands thread = held at move
  cases move with
  | keep =>
    rw [← before, Function.update_eq_self]
    exact sound
  | take front =>
    have custody := sound.custody
    rw [front] at custody
    refine { sound with custody := custody.take, backed := ?_ }
    intro pc kept
    apply sound.backed pc
    rw [front]
    exact kept.of_take
  | give pc =>
    refine { sound with custody := sound.custody.give before, backed := ?_ }
    intro other kept
    exact sound.backed other (kept.of_give before)
  | close pointer => exact sound.close before pointer
  | create => exact sound.create
  | lose pc =>
    refine { sound with custody := sound.custody.drop, backed := ?_ }
    intro other kept
    exact sound.backed other (kept.of_drop sound.custody before).1

end Moves

end Stock

/-- The connection a goroutine in `Get` has received and not yet handed out. -/
def GetFrame.hand : GetFrame → Option Nat
  | .probe _ pc | .mark pc | .reuse pc | .discard _ pc => some pc
  | _ => none

/-- The connection a goroutine in `cleanup` has received and not yet dealt with. -/
def CleanupFrame.hand : CleanupFrame → Option Nat
  | .inspect pc | .putBack pc | .close pc => some pc
  | _ => none

/-- The connection a goroutine that closes the pool is about to close. -/
def ShutdownFrame.hand : ShutdownFrame → Option Nat
  | .close pc => some pc
  | _ => none

/-- The pooled connection in the hands of a goroutine. -/
def PoolFrame.hand : PoolFrame → Option Nat
  | .ready _ => none
  | .holding pc => some pc
  | .get frame => frame.hand
  | .close pc _ => some pc
  | .cleanup _ frame => frame.hand
  | .shutdown frame => frame.hand
  | .panicked hand => hand

/-- Noting the time keeps the network connection. -/
@[simp] theorem PooledConnection.updateLastUsed_conn (connection : PooledConnection) (now : Int) :
    (connection.updateLastUsed now).conn = connection.conn := by
  -- The time is all that changes, if anything does.
  unfold updateLastUsed
  split <;> rfl

namespace ConnectionPool

/-- What a pool has in stock. -/
def stock (pool : ConnectionPool) : Stock where
  queue := pool.connections
  conn := fun pc => (pool.pooled pc).conn
  live := pool.live
  nextPooled := pool.nextPooled
  nextConn := pool.nextConn

/-- A change to the data kept about a connection leaves the stock alone. -/
theorem stock_modify (pool : ConnectionPool) (pc : Nat)
    {change : PooledConnection → PooledConnection}
    (keeps : (change (pool.pooled pc)).conn = (pool.pooled pc).conn) :
    (pool.modify pc change).stock = pool.stock := by
  -- The pointers are compared one by one.
  simp only [stock, modify, Stock.mk.injEq, true_and, and_true]
  funext other
  by_cases same : other = pc
  · subst same
    rw [Function.update_self]
    exact keeps
  · rw [Function.update_of_ne same]

/-- The once of a connection is no part of the stock. -/
@[simp] theorem stock_setOnce (pool : ConnectionPool) (pc : Nat) (state : OnceState) :
    (pool.setOnce pc state).stock = pool.stock :=
  pool.stock_modify pc rfl

/-- Closing the network connection leaves the pointer to it in place. -/
theorem stock_closeConn (pool : ConnectionPool) (pc : Nat) :
    (pool.closeConn pc).stock = { pool.stock with live := pool.stock.liveWithout pc } := by
  -- Without a network connection there is nothing to close on either side.
  unfold closeConn Stock.liveWithout
  cases wraps : (pool.pooled pc).conn with
  | none => simp only [stock, wraps]
  | some conn => simp only [stock, wraps]

/-- Wrapping a connection just dialed adds it to the stock. -/
theorem stock_wrap (pool : ConnectionPool) (now : Int) :
    (pool.wrap now).stock = pool.stock.create := by
  -- The pointers are compared one by one, with the new one among them.
  simp only [stock, wrap, Stock.create, Stock.mk.injEq, true_and, and_true]
  funext other
  by_cases new : other = pool.nextPooled
  · subst new
    rw [Function.update_self, Function.update_self]
  · rw [Function.update_of_ne new, Function.update_of_ne new]

variable {pool next : ConnectionPool} {frame after : PoolFrame} {choice : PoolChoice}

/-- Closing what a goroutine has in its hands is a move of the stock. -/
theorem closeConn_move (pool : ConnectionPool) (pc : Nat) :
    Stock.Move pool.stock (some pc) (pool.closeConn pc).stock none := by
  -- The pointer stays, which is one of the two things that may become of it.
  have move := @Stock.Move.close pool.stock pc _ (.inl rfl)
  rwa [Function.update_eq_self, ← stock_closeConn] at move

/-- A close that also forgets the network connection is a move of the stock. -/
theorem forgetConn_move (pool : ConnectionPool) (pc : Nat) :
    Stock.Move pool.stock (some pc) ((pool.closeConn pc).forgetConn pc).stock none := by
  -- The pointer is dropped after the connection has been closed.
  have move := @Stock.Move.close pool.stock pc none (.inr rfl)
  have reached : ((pool.closeConn pc).forgetConn pc).stock =
      { (pool.closeConn pc).stock with
        conn := Function.update (pool.closeConn pc).stock.conn pc none } := by
    simp only [stock, forgetConn, modify, Stock.mk.injEq, true_and, and_true]
    funext other
    by_cases same : other = pc
    · subst same
      rw [Function.update_self, Function.update_self]
    · rw [Function.update_of_ne same, Function.update_of_ne same]
  rw [reached, stock_closeConn]
  exact move

/-- A send gives the connection away, keeps it, or panics with the connection still in hand. -/
theorem send_move {pc : Nat} {sent full : ConnectionPool × PoolFrame}
    (gives : sent.1.stock = (pool.enqueue pc).stock ∧ sent.2.hand = none)
    (keeps : full.1 = pool ∧ full.2.hand = some pc) :
    Stock.Move pool.stock (some pc) (pool.send pc sent full).1.stock
      (pool.send pc sent full).2.hand := by
  -- A closed channel, room in the queue, and a full queue are the three cases.
  unfold send
  split
  · exact .keep _ _
  · split
    · rw [gives.1, gives.2]
      exact .give pool.stock pc
    · rw [keeps.1, keeps.2]
      exact .keep _ _

/-- Every step of `Get` is a move of the stock. -/
theorem GetStep.move {place : GetFrame} (step : GetStep pool place choice next frame) :
    Stock.Move pool.stock place.hand next.stock frame.hand := by
  -- Most steps leave the stock alone; receives, discards and dials do not.
  cases step with
  | @received waited pc rest front =>
    cases waited <;> exact .take front
  | receivedNil => split <;> exact .keep _ _
  | cancelled => split <;> exact .keep _ _
  | @marked pc now =>
    rw [pool.stock_modify pc rfl]
    exact .keep _ _
  | @discarded waited pc now =>
    cases waited <;> exact pool.closeConn_move pc
  | dialed =>
    rw [stock_wrap]
    exact .create _
  | _ => exact .keep _ _

/-- Every step of the body of `Close` is a move of the stock. -/
theorem advanceClose_move (pool : ConnectionPool) (pc : Nat) (now : Int) (place : CloseFrame) :
    Stock.Move pool.stock (some pc) (pool.advanceClose pc now place).1.stock
      (pool.advanceClose pc now place).2.hand := by
  -- The body ends by a close or by a send, and prepares for it until then.
  cases place with
  | test => exact .keep _ _
  | direct =>
    simp only [advanceClose, stock_setOnce]
    exact pool.forgetConn_move pc
  | putCheck => exact .keep _ _
  | putMark =>
    simp only [advanceClose]
    rw [pool.stock_modify pc rfl]
    exact .keep _ _
  | putSend => exact send_move ⟨stock_setOnce _ pc .done, rfl⟩ ⟨rfl, rfl⟩
  | putDrop => exact .keep _ _
  | putClose =>
    simp only [advanceClose, stock_setOnce]
    exact pool.closeConn_move pc

/-- Every step of `cleanup` is a move of the stock. -/
theorem CleanupStep.move {now : Int} {place : CleanupFrame}
    (step : CleanupStep pool now place choice next frame) :
    Stock.Move pool.stock place.hand next.stock frame.hand := by
  -- What is received is put back or closed before the next one is received.
  cases step with
  | received front => exact .take front
  | returned => exact .give _ _
  | closed => exact pool.closeConn_move _
  | _ => exact .keep _ _

/-- Every step of closing the pool is a move of the stock. -/
theorem advanceShutdown_move (pool : ConnectionPool) (place : ShutdownFrame) :
    Stock.Move pool.stock place.hand (pool.advanceShutdown place).1.stock
      (pool.advanceShutdown place).2.hand := by
  -- The channel is drained one connection at a time.
  cases place with
  | channel => exact .keep _ _
  | drain =>
    simp only [advanceShutdown]
    split
    · exact .keep _ _
    · next front => exact .take front
  | close pc => exact pool.closeConn_move pc

/-- Every step of a goroutine is a move of the stock. -/
theorem PoolStep.move (step : PoolStep pool frame choice next after) :
    Stock.Move pool.stock frame.hand next.stock after.hand := by
  -- A call of `Close` to no effect is the one way to lose a connection.
  cases step with
  | @touched pc now =>
    have same : (pool.modify pc (·.updateLastUsed now)).stock = pool.stock :=
      pool.stock_modify pc (PooledConnection.updateLastUsed_conn _ now)
    rw [same]
    exact .keep _ _
  | calledClose =>
    rw [stock_setOnce]
    exact .keep _ _
  | closedBefore => exact .lose _ _
  | get step => exact step.move
  | close => exact pool.advanceClose_move _ _ _
  | cleanup step => exact step.move
  | shutdown => exact pool.advanceShutdown_move _
  | _ => exact .keep _ _

end ConnectionPool

namespace PoolWorld

/-- What each goroutine has in its hands. -/
def hands (world : PoolWorld) (thread : Nat) : Option Nat :=
  (world.frame thread).hand

/-- The stock of the pool is soundly kept among its goroutines. -/
def Sound (world : PoolWorld) : Prop :=
  world.shared.stock.Sound world.hands

/-- A new pool has nothing in stock. -/
theorem start_sound (config : PoolConfig) : (start config).Sound := by
  -- There is nothing yet that could be kept in two places.
  refine ⟨⟨List.nodup_nil, ?_, ?_⟩, ?_, ?_, ?_, ?_, ?_⟩
  · intro thread pc has
    cases has
  · intro thread other pc has
    cases has
  · intro pc given
    rcases given with within | ⟨thread, has⟩
    · cases within
    · cases has
  · intro pc other conn wraps
    cases wraps
  · intro pc _
    rfl
  · intro pc conn wraps
    cases wraps
  · intro conn within
    exact absurd within (Finset.notMem_empty conn)

/-- A step of any goroutine keeps the stock sound. -/
theorem step_sound {world next : PoolWorld} {label : Nat × PoolChoice} (sound : world.Sound)
    (taken : world.step label = some next) : next.Sound := by
  -- The step is a move by one goroutine.
  obtain ⟨thread, choice⟩ := label
  obtain ⟨pool, frame, step, rfl⟩ := step_inv taken
  have move : Stock.Move world.shared.stock (world.hands thread) pool.stock frame.hand := step.move
  have kept := move.sound sound
  -- The hands follow the frame of the goroutine that took the step.
  have follow : hands ⟨pool, Function.update world.frame thread frame⟩ =
      Function.update world.hands thread frame.hand :=
    Function.comp_update PoolFrame.hand world.frame thread frame
  unfold Sound
  rw [follow]
  exact kept

/-- In every state a run reaches, the stock is soundly kept. -/
theorem run_sound {config : PoolConfig} {trace : List (Nat × PoolChoice)} {world : PoolWorld}
    (ran : exec step (start config) trace = some world) : world.Sound :=
  exec_invariant Sound (fun _ _ _ sound taken => step_sound sound taken) (start_sound config) ran

end PoolWorld

end Balance
