import Balance.Security.SlidingWindow
import Mathlib.Algebra.Order.Group.Int

/-! How many requests a sliding window admits, whatever the order of calls and cleanup passes. -/

namespace Balance

open Machine

/-- Where a goroutine stands in `Allow`: outside, or between its two locked sections. -/
inductive AllowFrame where
  | idle
  | holding (key : String) (w : Nat)
  deriving DecidableEq

/-- The next locked section of a goroutine, with the reading of the clock taken inside it. -/
inductive AllowChoice where
  | lookup (key : String)
  | checkLimit (now : Int)
  | cleanup (now : Int)

/-- A limiter, the latest reading of the clock, and the calls that have returned true. -/
structure Throttle where
  sw : SlidingWindow
  clock : Int
  admitted : List (String × Int)

namespace Throttle

/-- The recorded times of the admitted calls for a key, latest first. -/
def stamps (state : Throttle) (key : String) : List Int :=
  (state.admitted.filter fun call => call.1 == key).map Prod.snd

/-- One locked section of a call, or a cleanup pass, at a time that is not in the past. -/
def advance (state : Throttle) : AllowFrame → AllowChoice → Option (Throttle × AllowFrame)
  | .idle, .lookup key =>
    some ({ state with sw := (state.sw.lookup key).1 }, .holding key (state.sw.lookup key).2)
  | .holding key w, .checkLimit now =>
    if state.clock ≤ now then
      some ({
        sw := (state.sw.checkLimit w now).1
        clock := now
        admitted :=
          if (state.sw.checkLimit w now).2 then (key, now) :: state.admitted else state.admitted },
        .idle)
    else none
  | .idle, .cleanup now =>
    if state.clock ≤ now then
      some ({ state with sw := state.sw.cleanup now, clock := now }, .idle)
    else none
  | _, _ => none

/-- No window has admitted more requests of a key than the limit. -/
def Bounded (state : Throttle) : Prop :=
  ∀ key instant, (countWithin state.sw.window instant (state.stamps key) : Int) ≤ state.sw.limit

/-- What one locked section does to the limiter, told apart by what it decides. -/
inductive Moves (state : Throttle) : AllowFrame → AllowChoice → Throttle → AllowFrame → Prop where
  | lookup (key : String) :
    Moves state .idle (.lookup key) { state with sw := (state.sw.lookup key).1 }
      (.holding key (state.sw.lookup key).2)
  | admitted (key : String) (w : Nat) (now : Int) (later : state.clock ≤ now)
    (room : ((state.sw.validRequests w now).length : Int) < state.sw.limit) :
    Moves state (.holding key w) (.checkLimit now)
      { sw := { state.sw with
          requests := Function.update state.sw.requests w (state.sw.validRequests w now ++ [now])
          allowedCount := state.sw.allowedCount + 1 }
        clock := now
        admitted := (key, now) :: state.admitted } .idle
  | blocked (key : String) (w : Nat) (now : Int) (later : state.clock ≤ now) :
    Moves state (.holding key w) (.checkLimit now)
      { state with
        sw := { state.sw with
          requests := Function.update state.sw.requests w (state.sw.validRequests w now)
          blockedCount := state.sw.blockedCount + 1 }
        clock := now } .idle
  | cleanup (now : Int) (later : state.clock ≤ now) :
    Moves state .idle (.cleanup now) { state with sw := state.sw.cleanup now, clock := now } .idle

/-- Every advance is one of these moves. -/
theorem advance_moves {state next : Throttle} {frame after : AllowFrame} {choice : AllowChoice}
    (advanced : state.advance frame choice = some (next, after)) :
    state.Moves frame choice next after := by
  -- A frame allows the choices that its place in the code has, at times that are not past.
  cases frame with
  | idle =>
    cases choice with
    | lookup key =>
      cases advanced
      exact .lookup key
    | checkLimit now => cases advanced
    | cleanup now =>
      simp only [advance] at advanced
      split at advanced
      · rename_i later
        cases advanced
        exact .cleanup now later
      · cases advanced
  | holding key w =>
    cases choice with
    | lookup other => cases advanced
    | checkLimit now =>
      simp only [advance, SlidingWindow.checkLimit] at advanced
      split at advanced
      · rename_i later
        split at advanced
        · rename_i room
          cases advanced
          exact .admitted key w now later room
        · cases advanced
          exact .blocked key w now later
      · cases advanced
    | cleanup now => cases advanced

end Throttle

namespace SlidingWindow

variable {sw : SlidingWindow} {now : Int}

/-- The length of a window, doubled and negated, is what a 64-bit integer holds. -/
structure Fits (sw : SlidingWindow) : Prop where
  long : 0 < sw.window
  short : sw.window ≤ 2 ^ 62

/-- The valid requests of a window are those of its own length. -/
theorem validRequests_eq (long : 0 < sw.window) (short : sw.window < 2 ^ 63) (w : Nat) :
    sw.validRequests w now = (sw.requests w).filter fun t => now - sw.window < t := by
  -- Negating the length does not overflow.
  have negated : Go.wrap64 (-sw.window) = -sw.window := Go.wrap64_of_fits (by omega) (by omega)
  simp only [validRequests, negated, Int.sub_eq_add_neg]

/-- A window that has expired has no request that is still inside it. -/
theorem Fits.expired_old (fits : sw.Fits) {w : Nat}
    (sorted : (sw.requests w).Pairwise (· ≤ ·)) (old : sw.expired w now = true) :
    ∀ x ∈ sw.requests w, x ≤ now - sw.window := by
  -- The last request is the latest, and even twice the length has passed since.
  obtain ⟨long, short⟩ := fits
  have negated : Go.wrap64 (-sw.window) = -sw.window := Go.wrap64_of_fits (by omega) (by omega)
  have doubled : Go.wrap64 (-sw.window * 2) = -sw.window * 2 :=
    Go.wrap64_of_fits (by omega) (by omega)
  intro x member
  cases latest : (sw.requests w).getLast? with
  | none =>
    rw [List.getLast?_eq_none_iff.mp latest] at member
    cases member
  | some last =>
    simp only [expired, latest, negated, doubled, decide_eq_true_eq] at old
    obtain ⟨earlier, split⟩ := List.getLast?_eq_some_iff.mp latest
    rw [split] at sorted member
    have before : x ≤ last := by
      rcases List.mem_append.mp member with within | final
      · exact (List.pairwise_append.mp sorted).2.2 x within last List.mem_cons_self
      · rw [List.mem_singleton.mp final]
    omega

/-- If the doubled length overflows, every window has expired at once. -/
theorem expired_of_overflow (overflows : 2 ^ 62 < sw.window) (short : sw.window < 2 ^ 63) {w : Nat}
    (past : ∀ x ∈ sw.requests w, x ≤ now) : sw.expired w now = true := by
  -- The cutoff lies in the future.
  have negated : Go.wrap64 (-sw.window) = -sw.window := Go.wrap64_of_fits (by omega) (by omega)
  have doubled : Go.wrap64 (-sw.window * 2) = -sw.window * 2 + 2 ^ 64 :=
    Go.wrap64_of_below (by omega) (by omega)
  cases latest : (sw.requests w).getLast? with
  | none => simp only [expired, latest]
  | some last =>
    have before : last ≤ now := past last (List.mem_of_getLast? latest)
    simp only [expired, latest, negated, doubled, decide_eq_true_eq]
    omega

end SlidingWindow

namespace Throttle

/-- What a limiter has on record accounts for every admission that still counts. -/
structure Accounts (state : Throttle) : Prop where
  positive : 1 ≤ state.sw.limit
  fits : state.sw.Fits
  filed : state.sw.Filed
  sorted : ∀ key, (state.sw.onRecord key).Pairwise (· ≤ ·)
  past : ∀ key, ∀ x ∈ state.sw.onRecord key, x ≤ state.clock
  remembers : ∀ key, Remembers (state.clock - state.sw.window) (state.sw.onRecord key)
    (state.stamps key)
  sparse : ∀ key, Sparse state.sw.window state.sw.limit.toNat (state.stamps key)

variable {state : Throttle} {key : String} {w : Nat} {now : Int}

/-- An account gives the bound. -/
theorem Accounts.bounded (accounts : state.Accounts) : state.Bounded := by
  -- The limit is positive, so that nothing is lost by counting with natural numbers.
  intro key instant
  have within := accounts.sparse key instant
  have positive := accounts.positive
  omega

/-- Looking a window up changes no record. -/
theorem Accounts.lookup (accounts : state.Accounts) (key : String) :
    Accounts { state with sw := (state.sw.lookup key).1 } := by
  -- Neither the limit nor the length of the window is written.
  obtain ⟨limit, window⟩ := state.sw.lookup_settings key
  constructor
  · rw [limit]
    exact accounts.positive
  · exact ⟨window ▸ accounts.fits.long, window ▸ accounts.fits.short⟩
  · exact accounts.filed.lookup key
  · intro other
    rw [accounts.filed.lookup_onRecord]
    exact accounts.sorted other
  · intro other
    rw [accounts.filed.lookup_onRecord]
    exact accounts.past other
  · intro other
    rw [accounts.filed.lookup_onRecord, window]
    exact accounts.remembers other
  · intro other
    rw [window, limit]
    exact accounts.sparse other

/-- An admission is a stamp of its own key. -/
theorem stamps_cons (sw : SlidingWindow) (clock : Int) (calls : List (String × Int))
    (key other : String) (now : Int) :
    stamps ⟨sw, clock, (key, now) :: calls⟩ other =
      if other = key then now :: stamps ⟨sw, clock, calls⟩ other
      else stamps ⟨sw, clock, calls⟩ other := by
  -- The new call passes the filter of its own key only.
  by_cases same : other = key
  · simp [stamps, same]
  · simp [stamps, same, Ne.symm same]

/-- The window of a key can be rewritten to any requests that account for the calls of the key. -/
theorem Accounts.rewrite (accounts : state.Accounts) (held : state.sw.windows key = some w)
    (later : state.clock ≤ now) {kept : List Int} {calls : List (String × Int)}
    (allowed blocked : Int) (sorted : kept.Pairwise (· ≤ ·)) (past : ∀ x ∈ kept, x ≤ now)
    (others : ∀ other, other ≠ key → stamps ⟨state.sw, now, calls⟩ other = state.stamps other)
    (remembers : Remembers (now - state.sw.window) kept (stamps ⟨state.sw, now, calls⟩ key))
    (sparse : Sparse state.sw.window state.sw.limit.toNat (stamps ⟨state.sw, now, calls⟩ key)) :
    Accounts ⟨{ state.sw with
      requests := Function.update state.sw.requests w kept
      allowedCount := allowed
      blockedCount := blocked }, now, calls⟩ := by
  -- Other keys keep their records, which need to account for less as time passes.
  have record := accounts.filed.update_onRecord held kept allowed blocked
  refine ⟨accounts.positive, ⟨accounts.fits.long, accounts.fits.short⟩,
    ⟨accounts.filed.distinct, accounts.filed.stored⟩, ?_, ?_, ?_, ?_⟩
  · intro other
    rw [record]
    by_cases same : other = key
    · rw [if_pos same]
      exact sorted
    · rw [if_neg same]
      exact accounts.sorted other
  · intro other x
    rw [record]
    by_cases same : other = key
    · rw [if_pos same]
      exact past x
    · rw [if_neg same]
      intro member
      exact (accounts.past other x member).trans later
  · intro other
    rw [record]
    by_cases same : other = key
    · rw [if_pos same, same]
      exact remembers
    · rw [if_neg same]
      have before := (accounts.remembers other).mono
        (Int.sub_le_sub_right later state.sw.window)
      rw [← others other same] at before
      exact before
  · intro other
    by_cases same : other = key
    · rw [same]
      exact sparse
    · have before := accounts.sparse other
      rw [← others other same] at before
      exact before

/-- The valid requests of a window account for the calls of its key just as well. -/
theorem Accounts.validRequests (accounts : state.Accounts) (held : state.sw.windows key = some w)
    (later : state.clock ≤ now) :
    Remembers (now - state.sw.window) (state.sw.validRequests w now) (state.stamps key) ∧
      (state.sw.validRequests w now).Pairwise (· ≤ ·) ∧
      (∀ x ∈ state.sw.validRequests w now, x ≤ now) ∧
      countAfter (now - state.sw.window) (state.stamps key) ≤
        (state.sw.validRequests w now).length := by
  -- Only requests that no longer count are pruned.
  have record := SlidingWindow.onRecord_of_some held
  have sorted := accounts.sorted key
  have past := accounts.past key
  have remembers := (accounts.remembers key).mono (Int.sub_le_sub_right later state.sw.window)
  have short := accounts.fits.short
  rw [record] at sorted past remembers
  rw [SlidingWindow.validRequests_eq accounts.fits.long (by omega)]
  refine ⟨remembers.prune, sorted.filter _, ?_, remembers.count_le⟩
  intro x member
  exact (past x (List.mem_filter.mp member).1).trans later

/-- An admitted call is accounted for, and fits under the limit. -/
theorem Accounts.pass (accounts : state.Accounts) (held : state.sw.windows key = some w)
    (later : state.clock ≤ now)
    (room : ((state.sw.validRequests w now).length : Int) < state.sw.limit) :
    Accounts ⟨{ state.sw with
      requests := Function.update state.sw.requests w (state.sw.validRequests w now ++ [now])
      allowedCount := state.sw.allowedCount + 1 }, now, (key, now) :: state.admitted⟩ := by
  -- The call is put on record behind all earlier ones.
  obtain ⟨remembers, sorted, past, counted⟩ := accounts.validRequests held later
  have own : stamps ⟨state.sw, now, (key, now) :: state.admitted⟩ key = now :: state.stamps key :=
    (stamps_cons _ _ _ _ _ _).trans (if_pos rfl)
  apply accounts.rewrite held later
  · apply List.pairwise_append.mpr
    refine ⟨sorted, List.pairwise_singleton _ _, ?_⟩
    intro x member y last
    rw [List.mem_singleton.mp last]
    exact past x member
  · intro x member
    rcases List.mem_append.mp member with within | last
    · exact past x within
    · exact le_of_eq (List.mem_singleton.mp last)
  · intro other differs
    exact (stamps_cons _ _ _ _ _ _).trans (if_neg differs)
  · rw [own]
    exact remembers.push now
  · rw [own]
    apply (accounts.sparse key).push
    omega

/-- A blocked call leaves nothing to account for. -/
theorem Accounts.block (accounts : state.Accounts) (held : state.sw.windows key = some w)
    (later : state.clock ≤ now) :
    Accounts ⟨{ state.sw with
      requests := Function.update state.sw.requests w (state.sw.validRequests w now)
      blockedCount := state.sw.blockedCount + 1 }, now, state.admitted⟩ := by
  -- Nothing is added, and what is pruned lies outside the window.
  obtain ⟨remembers, sorted, past, _⟩ := accounts.validRequests held later
  exact accounts.rewrite held later _ _ sorted past (fun _ _ => rfl) remembers
    (accounts.sparse key)

/-- A cleanup pass drops only records that account for nothing any more. -/
theorem Accounts.cleanup (accounts : state.Accounts) (later : state.clock ≤ now) :
    Accounts { state with sw := state.sw.cleanup now, clock := now } := by
  -- An expired window has no request that still counts.
  refine ⟨accounts.positive, ⟨accounts.fits.long, accounts.fits.short⟩,
    accounts.filed.cleanup now, ?_, ?_, ?_, accounts.sparse⟩
  · intro other
    rcases SlidingWindow.cleanup_onRecord other now with kept | ⟨dropped, _⟩
    · rw [kept]
      exact accounts.sorted other
    · rw [dropped]
      exact List.Pairwise.nil
  · intro other x
    rcases SlidingWindow.cleanup_onRecord other now with kept | ⟨dropped, _⟩
    · rw [kept]
      intro member
      exact (accounts.past other x member).trans later
    · rw [dropped]
      intro member
      cases member
  · intro other
    have before := (accounts.remembers other).mono (Int.sub_le_sub_right later state.sw.window)
    rcases SlidingWindow.cleanup_onRecord other now with kept | ⟨dropped, v, found, old⟩
    · rw [kept]
      exact before
    · rw [dropped]
      have record := SlidingWindow.onRecord_of_some found
      have sorted := accounts.sorted other
      rw [record] at sorted before
      exact before.drop (accounts.fits.expired_old sorted old)

end Throttle

/-- Goroutines that call `Allow`, and cleanup passes, over one limiter. -/
abbrev ThrottleWorld := Threads Throttle AllowFrame

namespace ThrottleWorld

/-- A new limiter that nobody has called yet. -/
def start (limit window now : Int) : ThrottleWorld where
  shared := ⟨newSlidingWindow limit window, now, []⟩
  frame := fun _ => .idle

/-- One locked section of one goroutine. -/
def step : ThrottleWorld → Nat × AllowChoice → Option ThrottleWorld := Threads.step Throttle.advance

/-- A cleanup pass finds no window expired that a call holds between its two sections. -/
def CleansUnheld (world : ThrottleWorld) (label : Nat × AllowChoice) : Prop :=
  ∀ now, label.2 = .cleanup now → ∀ thread key w, world.frame thread = .holding key w →
    world.shared.sw.expired w now = false

/-- No window has admitted more requests of a key than the limit. -/
def Bounded (world : ThrottleWorld) : Prop := world.shared.Bounded

/-- The window that a call holds is the one filed under its key. -/
def HeldIn (sw : SlidingWindow) (frame : AllowFrame) : Prop :=
  ∀ key w, frame = .holding key w → sw.windows key = some w

/-- The records account for all admissions, and a window that a call holds is filed. -/
structure Sound (world : ThrottleWorld) : Prop where
  accounts : world.shared.Accounts
  held : ∀ thread, HeldIn world.shared.sw (world.frame thread)

/-- Every step keeps the records sound, if cleanup passes leave held windows alone. -/
theorem Sound.step {world next : ThrottleWorld} {label : Nat × AllowChoice}
    (sound : Sound world) (unheld : CleansUnheld world label)
    (taken : world.step label = some next) : Sound next := by
  -- The accounts are kept by each section, and no window is taken from the hands of a caller.
  obtain ⟨mover, choice⟩ := label
  obtain ⟨shared, after, advanced, rfl⟩ := Threads.step_eq_some.mp taken
  generalize place : world.frame mover = frame at advanced
  cases Throttle.advance_moves advanced with
  | lookup key =>
    refine ⟨sound.accounts.lookup key, Threads.forall_frame_update (HeldIn _) ?_ ?_⟩
    · intro thread other w holds
      exact SlidingWindow.lookup_windows_of_some (sound.held thread other w holds)
    · intro other w holds
      cases holds
      exact SlidingWindow.lookup_windows key
  | admitted key w now later room =>
    have held := sound.held mover key w place
    exact ⟨sound.accounts.pass held later room,
      Threads.forall_frame_update (HeldIn _) sound.held nofun⟩
  | blocked key w now later =>
    have held := sound.held mover key w place
    exact ⟨sound.accounts.block held later,
      Threads.forall_frame_update (HeldIn _) sound.held nofun⟩
  | cleanup now later =>
    refine ⟨sound.accounts.cleanup later, Threads.forall_frame_update (HeldIn _) ?_ nofun⟩
    intro thread other w holds
    exact SlidingWindow.cleanup_windows.mpr
      ⟨sound.held thread other w holds, unheld now rfl thread other w holds⟩

end ThrottleWorld

namespace Throttle

/-- A limiter at an instant, with so many requests on record for a key, all of this instant. -/
structure Filling (limit window : Int) (key : String) (now : Int) (n : Nat) (stamps : List Int)
    (state : Throttle) : Prop where
  limit : state.sw.limit = limit
  window : state.sw.window = window
  clock : state.clock = now
  filed : state.sw.Filed
  record : state.sw.onRecord key = List.replicate n now
  stamps : state.stamps key = stamps

section Filling

variable {limit window : Int} {key : String} {now : Int} {n : Nat} {stamps : List Int}
  {state : Throttle}

/-- A step of a call, which is no cleanup pass. -/
def Calls (_ : Throttle × AllowFrame) (choice : AllowChoice) : Prop :=
  ∀ now, choice ≠ .cleanup now

/-- A call for the key is admitted as long as the limit is not reached. -/
theorem Filling.call (filling : Filling limit window key now n stamps state) (long : 0 < window)
    (short : window < 2 ^ 63) (room : (n : Int) < limit) :
    ∃ after, Leads (fun reached choice => advance reached.1 reached.2 choice) Calls
        (state, .idle) (after, .idle) ∧
      Filling limit window key now (n + 1) (now :: stamps) after := by
  -- The first section finds or files the window of the key, whose record it does not change.
  obtain ⟨sw, clock, admitted⟩ := state
  obtain ⟨rfl, rfl, rfl, filed, record, rfl⟩ := filling
  have held : (sw.lookup key).1.windows key = some (sw.lookup key).2 :=
    SlidingWindow.lookup_windows key
  have files := filed.lookup key
  have kept : (sw.lookup key).1.onRecord key = List.replicate n clock := by
    rw [filed.lookup_onRecord]
    exact record
  have requests : (sw.lookup key).1.requests (sw.lookup key).2 = List.replicate n clock := by
    rw [← kept, SlidingWindow.onRecord_of_some held]
  obtain ⟨same, length⟩ : (sw.lookup key).1.limit = sw.limit ∧
      (sw.lookup key).1.window = sw.window := sw.lookup_settings key
  -- All requests on record are of this instant, and none of them is pruned.
  have valid : (sw.lookup key).1.validRequests (sw.lookup key).2 clock =
      List.replicate n clock := by
    rw [SlidingWindow.validRequests_eq (length ▸ long) (length ▸ short), requests]
    apply List.filter_eq_self.mpr
    intro x member
    rw [List.eq_of_mem_replicate member, length]
    simpa using long
  refine ⟨⟨{ (sw.lookup key).1 with
      requests := Function.update (sw.lookup key).1.requests (sw.lookup key).2
        (List.replicate n clock ++ [clock])
      allowedCount := (sw.lookup key).1.allowedCount + 1 }, clock, (key, clock) :: admitted⟩,
    ?_, ?_⟩
  · refine Leads.head (.lookup key) nofun rfl
      (Leads.head (.checkLimit clock) nofun ?_ (Leads.refl _))
    have fits : ((List.replicate n clock).length : Int) < (sw.lookup key).1.limit := by
      rw [List.length_replicate, same]
      exact room
    simp only [advance, SlidingWindow.checkLimit, valid, if_pos fits, if_pos (Int.le_refl clock),
      if_true]
  · refine ⟨same, length, rfl, ⟨files.distinct, files.stored⟩, ?_, ?_⟩
    · rw [files.update_onRecord held, if_pos rfl, ← List.replicate_succ']
    · exact (stamps_cons _ _ _ _ _ _).trans (if_pos rfl)

/-- So many calls for the key in a row are admitted as the limit allows. -/
theorem Filling.calls (filling : Filling limit window key now 0 stamps state) (long : 0 < window)
    (short : window < 2 ^ 63) (room : (n : Int) ≤ limit) :
    ∃ after, Leads (fun reached choice => advance reached.1 reached.2 choice) Calls
        (state, .idle) (after, .idle) ∧
      Filling limit window key now n (List.replicate n now ++ stamps) after := by
  -- Each call adds one request and one stamp.
  induction n with
  | zero => exact ⟨state, Leads.refl _, filling⟩
  | succ n ih =>
    obtain ⟨middle, before, filled⟩ := ih (by omega)
    obtain ⟨after, leads, next⟩ := filled.call long short (by omega)
    refine ⟨after, before.trans leads, ?_⟩
    rw [List.replicate_succ]
    exact next

/-- A key with more admissions at one instant than the limit breaks the bound. -/
theorem Filling.not_bounded {m : Nat} {earlier : List Int} (long : 0 < window)
    (filling : Filling limit window key now n (List.replicate m now ++ earlier) state)
    (beyond : limit < m) : ¬ state.Bounded := by
  -- The window that ends at this instant has all of them.
  intro bounded
  have within := bounded key now
  rw [filling.stamps, filling.window, filling.limit] at within
  have counted := countWithin_replicate long now m earlier
  omega

end Filling

end Throttle

namespace ThrottleWorld

/-- A goroutine that runs through calls of its own meets the condition on cleanup passes. -/
theorem leads_calls (world : ThrottleWorld) (thread : Nat) (idle : world.frame thread = .idle)
    {after : Throttle}
    (leads : Leads (fun reached choice => Throttle.advance reached.1 reached.2 choice)
      Throttle.Calls (world.shared, .idle) (after, .idle)) :
    Leads step CleansUnheld world ⟨after, world.frame⟩ := by
  -- The goroutine ends up where it started.
  have together : Leads step CleansUnheld world ⟨after, Function.update world.frame thread .idle⟩ :=
    Threads.leads_solo world Throttle.Calls
      (fun _ _ calls now cleanup => absurd cleanup (calls now)) idle leads
  rwa [← idle, Function.update_eq_self] at together

/-- A call that holds a dropped window is admitted by it, out of sight of every later call. -/
theorem Sound.admits_dropped {world : ThrottleWorld} (sound : Sound world) {thread w : Nat}
    {key : String} {now : Int} (holds : world.frame thread = .holding key w)
    (old : world.shared.sw.expired w now = true) :
    ∃ held, Throttle.advance { world.shared with
        sw := world.shared.sw.cleanup now, clock := now } (.holding key w) (.checkLimit now) =
          some (held, .idle) ∧
      Throttle.Filling world.shared.sw.limit world.shared.sw.window key now 0
        (now :: world.shared.stamps key) held := by
  -- No request of the window is left inside it, and the map no longer has it.
  have fits := sound.accounts.fits
  have short := fits.short
  have filed : world.shared.sw.windows key = some w := sound.held thread key w holds
  have record := SlidingWindow.onRecord_of_some filed
  have sorted := sound.accounts.sorted key
  rw [record] at sorted
  have empty : (world.shared.sw.cleanup now).validRequests w now = [] := by
    have length : (world.shared.sw.cleanup now).window = world.shared.sw.window := rfl
    rw [SlidingWindow.validRequests_eq (length ▸ fits.long) (by omega)]
    apply List.filter_eq_nil_iff.mpr
    intro x member beyond
    have within := fits.expired_old sorted old x member
    simp only [decide_eq_true_eq] at beyond
    exact absurd within (not_le_of_gt beyond)
  have dropped : (world.shared.sw.cleanup now).windows key = none := by
    simp [SlidingWindow.cleanup, filed, old]
  have files := sound.accounts.filed.cleanup now
  have room : (([] : List Int).length : Int) < (world.shared.sw.cleanup now).limit :=
    sound.accounts.positive
  refine ⟨⟨{ world.shared.sw.cleanup now with
    requests := Function.update (world.shared.sw.cleanup now).requests w ([] ++ [now])
    allowedCount := (world.shared.sw.cleanup now).allowedCount + 1 }, now,
      (key, now) :: world.shared.admitted⟩, ?_, ?_⟩
  · simp only [Throttle.advance, SlidingWindow.checkLimit, empty, if_pos room,
      if_pos (Int.le_refl now), if_true]
  · refine ⟨rfl, rfl, rfl, ⟨files.distinct, files.stored⟩, ?_, ?_⟩
    · simp only [SlidingWindow.onRecord, dropped]
      rfl
    · exact (Throttle.stamps_cons _ _ _ _ _ _).trans (if_pos rfl)

/-- A pass that drops a window in the hands of a caller leads to more admissions than allowed. -/
theorem Sound.strays {world next : ThrottleWorld} {label : Nat × AllowChoice} (sound : Sound world)
    (taken : world.step label = some next) (unmet : ¬ CleansUnheld world label) :
    ∃ final, Leads ThrottleWorld.step CleansUnheld next final ∧ ¬ Bounded final := by
  -- The label is that of a cleanup pass, and some call holds a window that it drops.
  obtain ⟨mover, choice⟩ := label
  simp only [CleansUnheld, not_forall] at unmet
  obtain ⟨now, rfl, thread, key, w, holds, old⟩ := unmet
  replace old : world.shared.sw.expired w now = true := by simpa using old
  obtain ⟨shared, after, advanced, rfl⟩ := Threads.step_eq_some.mp taken
  generalize place : world.frame mover = frame at advanced
  cases Throttle.advance_moves advanced with
  | cleanup now later =>
    rw [← place, Function.update_eq_self]
    have short := sound.accounts.fits.short
    have positive := sound.accounts.positive
    -- The call is admitted first, and then as many new calls as a new window has room for.
    obtain ⟨held, admitted, empty⟩ := sound.admits_dropped holds old
    obtain ⟨full, leads, filled⟩ := empty.calls sound.accounts.fits.long (by omega)
      (show ((world.shared.sw.limit.toNat : Nat) : Int) ≤ world.shared.sw.limit by omega)
    have first : Threads.step Throttle.advance
        ⟨{ world.shared with sw := world.shared.sw.cleanup now, clock := now }, world.frame⟩
        (thread, .checkLimit now) = some ⟨held, Function.update world.frame thread .idle⟩ := by
      apply Threads.step_eq_some.mpr
      refine ⟨held, .idle, ?_, rfl⟩
      rw [holds]
      exact admitted
    refine ⟨⟨full, Function.update world.frame thread .idle⟩, ?_, ?_⟩
    · refine Leads.head (thread, .checkLimit now) nofun first ?_
      exact leads_calls ⟨held, Function.update world.frame thread .idle⟩ thread
        (Function.update_self _ _ _) leads
    · rw [List.append_cons, ← List.replicate_succ'] at filled
      exact filled.not_bounded sound.accounts.fits.long (by omega)

/-- Neither the limit nor the length of the window is ever written. -/
theorem step_settings {world next : ThrottleWorld} {label : Nat × AllowChoice}
    (taken : world.step label = some next) :
    next.shared.sw.limit = world.shared.sw.limit ∧
      next.shared.sw.window = world.shared.sw.window := by
  -- Each section writes to other fields.
  obtain ⟨mover, choice⟩ := label
  obtain ⟨shared, after, advanced, rfl⟩ := Threads.step_eq_some.mp taken
  generalize world.frame mover = frame at advanced
  cases Throttle.advance_moves advanced with
  | lookup key => exact world.shared.sw.lookup_settings key
  | admitted key w now later room => exact ⟨rfl, rfl⟩
  | blocked key w now later => exact ⟨rfl, rfl⟩
  | cleanup now later => exact ⟨rfl, rfl⟩

/-- A new limiter has nothing to account for. -/
theorem start_sound {limit window : Int} (now : Int) (positive : 1 ≤ limit) (long : 0 < window)
    (short : window ≤ 2 ^ 62) : Sound (start limit window now) := by
  -- No call has been admitted, and none is under way.
  refine ⟨⟨positive, ⟨long, short⟩, SlidingWindow.newSlidingWindow_filed limit window, ?_, ?_, ?_,
    ?_⟩, nofun⟩
  · intro key
    exact List.Pairwise.nil
  · intro key x member
    cases member
  · intro key
    exact Remembers.refl _ []
  · intro key instant
    exact Nat.zero_le _

/-- If the doubled length of the window overflows, a cleanup pass forgets what still counts. -/
theorem overflow_strays {limit window : Int} (now : Int) (positive : 1 ≤ limit)
    (overflows : 2 ^ 62 < window) (short : window < 2 ^ 63) :
    ∃ final, Leads step CleansUnheld (start limit window now) final ∧ ¬ Bounded final := by
  -- The limit is used up, the pass drops the window, and one more call is admitted.
  have long : 0 < window := by omega
  have empty : Throttle.Filling limit window "" now 0 [] (start limit window now).shared :=
    ⟨rfl, rfl, rfl, SlidingWindow.newSlidingWindow_filed limit window, rfl, rfl⟩
  obtain ⟨full, before, filled⟩ := empty.calls long short
    (show ((limit.toNat : Nat) : Int) ≤ limit by omega)
  have cleaned : Throttle.Filling limit window "" now 0 (List.replicate limit.toNat now ++ [])
      { full with sw := full.sw.cleanup now, clock := now } := by
    refine ⟨filled.limit, filled.window, rfl, filled.filed.cleanup now, ?_, filled.stamps⟩
    have expires : ∀ w, full.sw.windows "" = some w → full.sw.expired w now = true := by
      intro w filed
      have record : full.sw.requests w = List.replicate limit.toNat now := by
        rw [← filled.record, SlidingWindow.onRecord_of_some filed]
      apply SlidingWindow.expired_of_overflow (filled.window ▸ overflows) (filled.window ▸ short)
      intro x member
      rw [record] at member
      exact le_of_eq (List.eq_of_mem_replicate member)
    exact SlidingWindow.cleanup_onRecord_of_expired expires
  obtain ⟨last, after, beyond⟩ := cleaned.call long short (show ((0 : Nat) : Int) < limit by omega)
  have pass : step ⟨full, (start limit window now).frame⟩ (0, .cleanup now) =
      some ⟨{ full with sw := full.sw.cleanup now, clock := now },
        (start limit window now).frame⟩ := by
    apply Threads.step_eq_some.mpr
    refine ⟨_, .idle, ?_, (congrArg _ (Function.update_eq_self 0 _)).symm⟩
    exact if_pos (le_of_eq filled.clock)
  have unheld : CleansUnheld ⟨full, (start limit window now).frame⟩ (0, .cleanup now) := by
    intro at_ _ thread key w held
    cases held
  refine ⟨⟨last, (start limit window now).frame⟩, ?_, ?_⟩
  · exact (leads_calls (start limit window now) 0 rfl before).trans
      (Leads.head (0, .cleanup now) unheld pass
        (leads_calls ⟨_, (start limit window now).frame⟩ 0 rfl after))
  · rw [← List.cons_append, ← List.replicate_succ] at beyond
    exact beyond.not_bounded long (by omega)

/--
No window of time admits more requests of a key than the limit, in every order of calls and
cleanup passes in which no pass drops a window that a call holds, exactly if twice the length of
the window is a 64-bit duration.

Each single pass is safe exactly if it drops no window that a call holds.
-/
theorem admissions_bounded_iff {limit window : Int} (now : Int) (positive : 1 ≤ limit)
    (holds : window < 2 ^ 63) :
    ((∀ final, Leads step CleansUnheld (start limit window now) final → Bounded final) ↔
      window ≤ 2 ^ 62) ∧
    (0 < window → window ≤ 2 ^ 62 →
      Guards step CleansUnheld Bounded (start limit window now)) := by
  -- A pass cuts twice the window off its clock reading, which has to fit into 64 bits.
  have guards (long : 0 < window) (short : window ≤ 2 ^ 62) :
      Guards step CleansUnheld Bounded (start limit window now) :=
    guards_of_invariant Sound
      (fun world label next sound unheld taken => sound.step unheld taken)
      (fun world sound => sound.accounts.bounded)
      (fun world label next sound taken unmet => sound.strays taken unmet)
      (start_sound now positive long short)
  refine ⟨?_, guards⟩
  constructor
  · intro bounded
    by_contra beyond
    obtain ⟨final, leads, unbounded⟩ := overflow_strays now positive (by omega) holds
    exact unbounded (bounded final leads)
  · intro short
    rcases Int.lt_or_le 0 window with long | empty
    · exact (guards long short).keeps
    · -- A window without length has no calls in it.
      intro final leads key instant
      obtain ⟨trace, _, ran⟩ := leads
      obtain ⟨limits, length⟩ := exec_invariant
        (fun world : ThrottleWorld => world.shared.sw.limit = limit ∧
          world.shared.sw.window = window)
        (fun world label next kept taken =>
          ⟨(step_settings taken).1.trans kept.1, (step_settings taken).2.trans kept.2⟩)
        ⟨rfl, rfl⟩ ran
      have none_within := sparse_of_nonpos (length ▸ empty) 0 (final.shared.stamps key) instant
      rw [limits]
      omega

/-- A window of ten nanoseconds is short enough, and one request is what it admits. -/
theorem admissions_bounded_ten :
    (∀ final, Leads step CleansUnheld (start 1 10 0) final → Bounded final) ∧
      Guards step CleansUnheld Bounded (start 1 10 0) :=
  ⟨(admissions_bounded_iff 0 (by decide) (by decide)).1.mpr (by decide),
    (admissions_bounded_iff 0 (by decide) (by decide)).2 (by decide) (by decide)⟩

/-- A pass between the two sections of a call lets two requests through where one is allowed. -/
theorem dropped_window_admits_twice :
    let trace := [(0, AllowChoice.lookup "a"), (1, .cleanup 0), (0, .checkLimit 0),
      (2, .lookup "a"), (2, .checkLimit 0)]
    ∃ final, exec step (start 1 10 0) trace = some final ∧
      countWithin 10 0 (final.shared.stamps "a") = 2 ∧ ¬ Bounded final := by
  -- The first call is admitted by a window that the second one no longer finds.
  refine ⟨_, rfl, by decide, ?_⟩
  intro bounded
  exact absurd (bounded "a" 0) (by decide)

end ThrottleWorld

end Balance
