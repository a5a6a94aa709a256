import Balance.Pool.Custody

/-! What becomes of a connection that its holder closes. -/

namespace Balance

open Machine

namespace ConnectionPool

variable {pool next : ConnectionPool} {pc : Nat}

/-- A connection is disposed of when it waits in the pool or its network connection is closed. -/
def Disposed (before after : ConnectionPool) (pc : Nat) : Prop :=
  pc ∈ after.connections ∨ ∀ conn, (before.pooled pc).conn = some conn → conn ∉ after.live

/-- The body of `Close` does not return before it has disposed of the connection. -/
theorem advanceClose_disposed {now : Int} {place : CloseFrame} {error : Option GetError}
    (ended : pool.advanceClose pc now place = (next, .ready error)) : Disposed pool next pc := by
  -- Three places end the body, and all others are followed by another place.
  cases place with
  | direct =>
    cases ended
    exact .inr fun conn wraps live => (mem_live_closeConn.mp live).2 wraps
  | putSend =>
    simp only [advanceClose, send] at ended
    split at ended
    · cases ended
    · split at ended
      · -- The queue has room, and the connection now waits at its end.
        cases ended
        exact .inl (List.mem_append_right _ List.mem_cons_self)
      · cases ended
  | putClose =>
    cases ended
    exact .inr fun conn wraps live => (mem_live_closeConn.mp live).2 wraps
  | test => cases ended
  | putCheck => cases ended
  | putMark => cases ended
  | putDrop => cases ended

end ConnectionPool

/-- The connection on which its holder calls `Close`. -/
def PoolFrame.calledOn : PoolFrame → PoolChoice → Option Nat
  | .holding pc, .close => some pc
  | _, _ => none

/-- Only the holder of a connection calls `Close` on it. -/
theorem PoolFrame.calledOn_eq_some {frame : PoolFrame} {choice : PoolChoice} {pc : Nat} :
    frame.calledOn choice = some pc ↔ frame = .holding pc ∧ choice = .close := by
  -- The definition names the one case.
  constructor
  · intro calls
    unfold calledOn at calls
    split at calls
    · cases calls
      exact ⟨rfl, rfl⟩
    · cases calls
  · intro given
    rcases given with ⟨rfl, rfl⟩
    rfl

namespace PoolWorld

/-- The step with which a call of `Close` by the holder of a connection returns. -/
def EndsClose (world : PoolWorld) (label : Nat × PoolChoice) (next : PoolWorld) (pc : Nat) : Prop :=
  ((world.frame label.1).calledOn label.2 = some pc ∨
      ∃ place, world.frame label.1 = .close pc place) ∧
    ∃ error, next.frame label.1 = .ready error

/-- If the step ends a call of `Close` by the holder, the connection is disposed of. -/
def NoLeak (world : PoolWorld) (label : Nat × PoolChoice) : Prop :=
  ∀ next pc, world.step label = some next → EndsClose world label next pc →
    ConnectionPool.Disposed world.shared next.shared pc

/-- If the step is a call of `Close` by the holder, nobody has closed the connection before. -/
def ClosesFirst (world : PoolWorld) (label : Nat × PoolChoice) : Prop :=
  ∀ pc ∈ (world.frame label.1).calledOn label.2, (world.shared.pooled pc).closeOnce = .fresh

/-- Whether a close is the first one shows in the once of the connection. -/
instance (world : PoolWorld) (label : Nat × PoolChoice) : Decidable (ClosesFirst world label) :=
  inferInstanceAs (Decidable (∀ pc ∈ (world.frame label.1).calledOn label.2, _))

variable {world next : PoolWorld} {label : Nat × PoolChoice}

/-- A connection in somebody's hands is not disposed of by doing nothing. -/
theorem Sound.not_disposed (sound : world.Sound) {thread pc : Nat}
    (mine : world.hands thread = some pc) :
    ¬ ConnectionPool.Disposed world.shared world.shared pc := by
  -- What is in hands is not queued, and what stands behind it is live.
  intro given
  rcases given with waits | closed
  · exact sound.custody.apart thread pc mine waits
  · obtain ⟨conn, within, wraps⟩ := sound.backed_hand mine
    exact closed conn wraps within

/-- A step leaks no connection exactly when it does not call `Close` on one closed before. -/
theorem noLeak_iff_closesFirst (sound : world.Sound) (taken : world.step label = some next) :
    NoLeak world label ↔ ClosesFirst world label := by
  -- Only two kinds of steps can end a call, and only one of them does nothing.
  obtain ⟨thread, choice⟩ := label
  constructor
  · intro fine pc called
    obtain ⟨holds, calls⟩ := PoolFrame.calledOn_eq_some.mp called
    simp only at holds calls
    subst calls
    obtain ⟨pool, frame, advanced, rfl⟩ := Threads.step_eq_some.mp taken
    rw [holds] at advanced
    simp only [ConnectionPool.advance, ConnectionPool.callClose] at advanced
    split at advanced
    case h_1 fresh => exact fresh
    case h_2 => cases advanced
    case h_3 =>
      -- The call returns at once, with the connection where it was.
      cases advanced
      have mine : world.hands thread = some pc := by
        simp only [hands, holds, PoolFrame.hand]
      have ends : EndsClose world (thread, .close)
          ⟨world.shared, Function.update world.frame thread (.ready none)⟩ pc :=
        ⟨.inl called, none, Function.update_self _ _ _⟩
      exact absurd (fine _ pc taken ends) (sound.not_disposed mine)
  · intro first after pc stepped given
    rcases given with ⟨calls, error, ready⟩
    obtain ⟨pool, frame, advanced, rfl⟩ := Threads.step_eq_some.mp stepped
    have ended : frame = .ready error := by
      simpa only [Function.update_self] using ready
    subst ended
    rcases calls with called | ⟨place, closing⟩
    · -- A first call starts the body of the once, and so does not return.
      have fresh := first pc called
      obtain ⟨holds, calls⟩ := PoolFrame.calledOn_eq_some.mp called
      simp only at holds calls
      subst calls
      rw [holds] at advanced
      simp only [ConnectionPool.advance, ConnectionPool.callClose, fresh] at advanced
      cases advanced
    · rw [show world.frame thread = .close pc place from closing] at advanced
      cases choice with
      | run now => exact ConnectionPool.advanceClose_disposed (Option.some.inj advanced)
      | _ => cases advanced

/--
A run of a pool leaks no connection exactly when no holder closes a connection closed before.

The body of `Close` disposes of the connection on every path.
It runs through a once that is never renewed, so that only the first holder gets this far.
-/
theorem noLeak_iff_closes_first {config : PoolConfig} {trace : List (Nat × PoolChoice)}
    {final : PoolWorld} (ran : exec step (start config) trace = some final) :
    Along step NoLeak (start config) trace ↔ Along step ClosesFirst (start config) trace :=
  along_congr Sound (fun _ _ _ sound taken => step_sound sound taken)
    (fun _ _ _ sound taken => noLeak_iff_closesFirst sound taken) (start_sound config) ran

/-- A goroutine gets a connection that waits in the pool and is found healthy. -/
def secondUse : List (Nat × PoolChoice) :=
  [.get, .run 0, .receive, .probe true, .run 0, .run 0].map (0, ·)

/-- The first holder of a connection puts it into the pool by closing it. -/
theorem first_use_leaks_nothing : Along step NoLeak (start oneSlot) firstUse := by
  -- The only close of the run finds its once fresh.
  refine (noLeak_iff_closes_first rfl).mpr ?_
  decide

/-- The second holder of a connection closes it to no effect, and the connection is lost. -/
theorem reused_connection_leaks : ∃ world next,
    exec step (start oneSlot) (firstUse ++ secondUse) = some world ∧
      world.step (0, .close) = some next ∧ EndsClose world (0, .close) next 0 ∧
        ¬ ConnectionPool.Disposed world.shared next.shared 0 := by
  -- The run evaluates, with the connection in nobody's hands at its end.
  refine ⟨_, _, rfl, rfl, ⟨.inl rfl, none, rfl⟩, ?_⟩
  intro given
  rcases given with waits | closed
  · cases waits
  · exact closed 0 rfl (by decide)

end PoolWorld

end Balance
