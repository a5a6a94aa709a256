import Balance.Go.Collections
import Balance.Machine.Recent
import Balance.Machine.Threads

/-! Sliding windows of requests, one for each key, under concurrent calls and cleanup passes. -/

namespace Balance

open Machine

/-- A limiter that admits so many requests of a key in any window of time. -/
structure SlidingWindow where
  limit : Int
  window : Int
  -- The address of the request window that is filed under a key.
  windows : String → Option Nat
  -- The requests of the window at an address, oldest first.
  requests : Nat → List Int
  -- The address that the next window is made at.
  fresh : Nat
  totalRequests : Int
  allowedCount : Int
  blockedCount : Int

/-- A new limiter has no windows. -/
def newSlidingWindow (limit window : Int) : SlidingWindow where
  limit := limit
  window := window
  windows := fun _ => none
  requests := fun _ => []
  fresh := 0
  totalRequests := 0
  allowedCount := 0
  blockedCount := 0

namespace SlidingWindow

variable (sw : SlidingWindow)

/-- The first locked section of `Allow`: the window of a key, made if there is none. -/
def lookup (key : String) : SlidingWindow × Nat :=
  match sw.windows key with
  | some w => ({ sw with totalRequests := sw.totalRequests + 1 }, w)
  | none =>
    ({ sw with
      totalRequests := sw.totalRequests + 1
      windows := Function.update sw.windows key (some sw.fresh)
      requests := Function.update sw.requests sw.fresh []
      fresh := sw.fresh + 1 }, sw.fresh)

/-- The requests of a window that are still inside it. -/
def validRequests (w : Nat) (now : Int) : List Int :=
  (sw.requests w).filter fun t => now + Go.wrap64 (-sw.window) < t

/-- The second locked section of `Allow`: prune the window and admit the request if it fits. -/
def checkLimit (w : Nat) (now : Int) : SlidingWindow × Bool :=
  if ((sw.validRequests w now).length : Int) < sw.limit then
    ({ sw with
      requests := Function.update sw.requests w (sw.validRequests w now ++ [now])
      allowedCount := sw.allowedCount + 1 }, true)
  else
    ({ sw with
      requests := Function.update sw.requests w (sw.validRequests w now)
      blockedCount := sw.blockedCount + 1 }, false)

/-- Both locked sections of `Allow`, one right after the other. -/
def allow (key : String) (now : Int) : SlidingWindow × Bool :=
  (sw.lookup key).1.checkLimit (sw.lookup key).2 now

/-- Forget the window of a key. -/
def reset (key : String) : SlidingWindow :=
  { sw with windows := Function.update sw.windows key none }

/-- Whether a window is empty, or has had no request for twice its length. -/
def expired (w : Nat) (now : Int) : Bool :=
  match (sw.requests w).getLast? with
  | none => true
  | some last => last < now + Go.wrap64 (Go.wrap64 (-sw.window) * 2)

/-- A cleanup pass takes expired windows out of the map, not out of the hands of callers. -/
def cleanup (now : Int) : SlidingWindow :=
  { sw with windows := fun key => (sw.windows key).filter fun w => !sw.expired w now }

/-- The requests on record for a key. -/
def onRecord (key : String) : List Int := (sw.windows key).elim [] sw.requests

/-- Windows are filed under one key each, at addresses given out before. -/
structure Filed : Prop where
  distinct : ∀ key other w, sw.windows key = some w → sw.windows other = some w → key = other
  stored : ∀ key w, sw.windows key = some w → w < sw.fresh

variable {sw}

/-- The requests on record for a key are those of its window. -/
theorem onRecord_of_some {key : String} {w : Nat} (found : sw.windows key = some w) :
    sw.onRecord key = sw.requests w := by
  rw [onRecord, found]
  rfl

/-- A new limiter has nothing filed. -/
theorem newSlidingWindow_filed (limit window : Int) : (newSlidingWindow limit window).Filed :=
  ⟨nofun, nofun⟩

/-- Looking a window up files it under its key. -/
theorem lookup_windows (key : String) :
    (sw.lookup key).1.windows key = some (sw.lookup key).2 := by
  -- Either it was filed already, or it is filed now.
  unfold lookup
  cases found : sw.windows key with
  | none => simp
  | some w => simpa using found

/-- Looking a window up leaves the limit and the length of the window alone. -/
theorem lookup_settings (sw : SlidingWindow) (key : String) :
    (sw.lookup key).1.limit = sw.limit ∧ (sw.lookup key).1.window = sw.window := by
  -- Only the map, the new window and a counter are written.
  unfold lookup
  split <;> exact ⟨rfl, rfl⟩

/-- A window that is filed stays where it is when another key is looked up. -/
theorem lookup_windows_of_some {key other : String} {w : Nat} (filed : sw.windows other = some w) :
    (sw.lookup key).1.windows other = some w := by
  -- A new window is filed under a key that had none.
  unfold lookup
  cases found : sw.windows key with
  | none =>
    have differs : other ≠ key := by
      intro same
      rw [same, found] at filed
      exact Option.some_ne_none w filed.symm
    simpa [Function.update_of_ne differs] using filed
  | some w => exact filed

/-- Looking a window up leaves every record as it is. -/
theorem Filed.lookup_onRecord (filed : sw.Filed) (key other : String) :
    (sw.lookup key).1.onRecord other = sw.onRecord other := by
  -- A new window is empty, and its address is none that was given out before.
  unfold lookup
  cases found : sw.windows key with
  | some w => rfl
  | none =>
    simp only [onRecord]
    by_cases same : other = key
    · simp [same, found]
    · rw [Function.update_of_ne same]
      cases stored : sw.windows other with
      | none => rfl
      | some w =>
        have before : w ≠ sw.fresh := (filed.stored other w stored).ne
        simp [Function.update_of_ne before]

/-- Looking a window up keeps the files in order. -/
theorem Filed.lookup (filed : sw.Filed) (key : String) : (sw.lookup key).1.Filed := by
  -- A new window gets an address that no other key has.
  unfold SlidingWindow.lookup
  cases found : sw.windows key with
  | some w => exact ⟨filed.distinct, filed.stored⟩
  | none =>
    have outside : ∀ other w, Function.update sw.windows key (some sw.fresh) other = some w →
        (other = key ∧ w = sw.fresh) ∨ (sw.windows other = some w ∧ w < sw.fresh) := by
      intro other w given
      by_cases same : other = key
      · subst same
        rw [Function.update_self] at given
        exact .inl ⟨rfl, (Option.some.inj given).symm⟩
      · rw [Function.update_of_ne same] at given
        exact .inr ⟨given, filed.stored other w given⟩
    constructor
    · intro first second w left right
      rcases outside first w left with ⟨rfl, rfl⟩ | ⟨left, below⟩
      · rcases outside second _ right with ⟨rfl, _⟩ | ⟨_, beyond⟩
        · rfl
        · exact absurd beyond (Nat.lt_irrefl _)
      · rcases outside second w right with ⟨_, rfl⟩ | ⟨right, _⟩
        · exact absurd below (Nat.lt_irrefl _)
        · exact filed.distinct first second w left right
    · intro other w given
      rcases outside other w given with ⟨_, rfl⟩ | ⟨_, below⟩
      · exact Nat.lt_succ_self _
      · exact Nat.lt_succ_of_lt below

/-- Admitting a request changes the record of the key whose window it is, and no other. -/
theorem Filed.update_onRecord (filed : sw.Filed) {key : String} {w : Nat}
    (held : sw.windows key = some w) (requests : List Int) (allowed blocked : Int)
    (other : String) :
    onRecord { sw with
      requests := Function.update sw.requests w requests
      allowedCount := allowed
      blockedCount := blocked } other = if other = key then requests else sw.onRecord other := by
  -- Another key has its window at another address.
  by_cases same : other = key
  · simp [onRecord, same, held]
  · simp only [onRecord, if_neg same]
    cases stored : sw.windows other with
    | none => rfl
    | some v =>
      have differs : v ≠ w := by
        intro equal
        rw [equal] at stored
        exact same (filed.distinct other key w stored held)
      simp [Function.update_of_ne differs]

/-- Forgetting a window keeps the files in order. -/
theorem Filed.reset (filed : sw.Filed) (key : String) : (sw.reset key).Filed := by
  -- What is still filed was filed before.
  have before : ∀ other w, (sw.reset key).windows other = some w → sw.windows other = some w := by
    intro other w given
    by_cases same : other = key
    · subst same
      simp [SlidingWindow.reset] at given
    · simpa [SlidingWindow.reset, Function.update_of_ne same] using given
  constructor
  · intro first second w left right
    exact filed.distinct first second w (before first w left) (before second w right)
  · intro other w given
    exact filed.stored other w (before other w given)

/-- Forgetting a window clears the record of its key, and of no other. -/
theorem reset_onRecord (sw : SlidingWindow) (key other : String) :
    (sw.reset key).onRecord other = if other = key then [] else sw.onRecord other := by
  by_cases same : other = key
  · simp [onRecord, reset, same]
  · simp [onRecord, reset, same]

/-- The files say nothing about requests. -/
theorem Filed.checkLimit (filed : sw.Filed) (w : Nat) (now : Int) :
    (sw.checkLimit w now).1.Filed := by
  -- Either outcome writes to the window only.
  unfold SlidingWindow.checkLimit
  split <;> exact ⟨filed.distinct, filed.stored⟩

/-- A window that is still filed after a cleanup pass was filed before it. -/
theorem cleanup_windows {key : String} {w : Nat} {now : Int} :
    (sw.cleanup now).windows key = some w ↔ sw.windows key = some w ∧ sw.expired w now = false := by
  -- The pass keeps what has not expired.
  simp [cleanup, Option.filter_eq_some_iff]

/-- A cleanup pass keeps the files in order. -/
theorem Filed.cleanup (filed : sw.Filed) (now : Int) : (sw.cleanup now).Filed := by
  -- What is still filed was filed before.
  constructor
  · intro key other w left right
    exact filed.distinct key other w (cleanup_windows.mp left).1 (cleanup_windows.mp right).1
  · intro key w given
    exact filed.stored key w (cleanup_windows.mp given).1

/-- A cleanup pass keeps the record of a key, or drops it because its window has expired. -/
theorem cleanup_onRecord (key : String) (now : Int) :
    (sw.cleanup now).onRecord key = sw.onRecord key ∨
      (sw.cleanup now).onRecord key = [] ∧
        ∃ w, sw.windows key = some w ∧ sw.expired w now = true := by
  -- The pass looks at each window by itself.
  simp only [onRecord, SlidingWindow.cleanup]
  cases found : sw.windows key with
  | none => exact .inl rfl
  | some w =>
    cases old : sw.expired w now with
    | false => simp [Option.filter, old]
    | true =>
      right
      exact ⟨by simp [Option.filter, old], w, rfl, old⟩

/-- A cleanup pass leaves nothing on record for a key whose window has expired. -/
theorem cleanup_onRecord_of_expired {key : String} {now : Int}
    (expires : ∀ w, sw.windows key = some w → sw.expired w now = true) :
    (sw.cleanup now).onRecord key = [] := by
  -- The window is no longer filed.
  simp only [onRecord, SlidingWindow.cleanup]
  cases found : sw.windows key with
  | none => rfl
  | some w => simp [Option.filter, expires w found]

/-- The requests on record for a key that a call counts. -/
def counted (sw : SlidingWindow) (key : String) (now : Int) : List Int :=
  (sw.onRecord key).filter fun t => now + Go.wrap64 (-sw.window) < t

/-- A call is answered by the requests that it counts, which it keeps and may add itself to. -/
theorem Filed.allow_counted (filed : sw.Filed) (key : String) (now : Int) :
    (sw.allow key now).1.Filed ∧ (sw.allow key now).1.limit = sw.limit ∧
      (sw.allow key now).1.window = sw.window ∧
      (((sw.allow key now).2 = true ∧ ((sw.counted key now).length : Int) < sw.limit ∧
          ∀ other, (sw.allow key now).1.onRecord other =
            if other = key then sw.counted key now ++ [now] else sw.onRecord other) ∨
        ((sw.allow key now).2 = false ∧ sw.limit ≤ (sw.counted key now).length ∧
          ∀ other, (sw.allow key now).1.onRecord other =
            if other = key then sw.counted key now else sw.onRecord other)) := by
  -- The first section leaves every record as it is, and the second writes to the one of the key.
  have held : (sw.lookup key).1.windows key = some (sw.lookup key).2 := lookup_windows key
  have files := filed.lookup key
  obtain ⟨limit, window⟩ : (sw.lookup key).1.limit = sw.limit ∧
      (sw.lookup key).1.window = sw.window := sw.lookup_settings key
  have valid : (sw.lookup key).1.validRequests (sw.lookup key).2 now = sw.counted key now := by
    rw [validRequests, ← onRecord_of_some held, filed.lookup_onRecord, window]
    rfl
  refine ⟨files.checkLimit _ now, ?_, ?_, ?_⟩
  · simp only [allow, SlidingWindow.checkLimit]
    split <;> exact limit
  · simp only [allow, SlidingWindow.checkLimit]
    split <;> exact window
  · simp only [allow, SlidingWindow.checkLimit, valid]
    split
    case isTrue room =>
      refine .inl ⟨rfl, limit ▸ room, ?_⟩
      intro other
      exact (files.update_onRecord held _ _ _ other).trans (by rw [filed.lookup_onRecord])
    case isFalse full =>
      refine .inr ⟨rfl, limit ▸ not_lt.mp full, ?_⟩
      intro other
      exact (files.update_onRecord held _ _ _ other).trans (by rw [filed.lookup_onRecord])

end SlidingWindow

end Balance
