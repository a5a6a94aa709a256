import Balance.Security.WindowBound

/-! Whether a sliding window admits a call by exactly the admissions that it should count. -/

namespace Balance

open Machine

namespace SlidingWindow

variable {sw : SlidingWindow} {now : Int}

/-- The requests on record for a key that are still inside the window. -/
def recent (sw : SlidingWindow) (key : String) (now : Int) : List Int :=
  (sw.onRecord key).filter fun t => now - sw.window < t

/-- A call is answered by the recent requests on record, which it prunes and may add itself to. -/
theorem Filed.allow_spec (filed : sw.Filed) (long : 0 < sw.window) (short : sw.window < 2 ^ 63)
    (key : String) (now : Int) :
    (sw.allow key now).1.Filed ∧ (sw.allow key now).1.limit = sw.limit ∧
      (sw.allow key now).1.window = sw.window ∧
      (((sw.allow key now).2 = true ∧ ((sw.recent key now).length : Int) < sw.limit ∧
          ∀ other, (sw.allow key now).1.onRecord other =
            if other = key then sw.recent key now ++ [now] else sw.onRecord other) ∨
        ((sw.allow key now).2 = false ∧ sw.limit ≤ (sw.recent key now).length ∧
          ∀ other, (sw.allow key now).1.onRecord other =
            if other = key then sw.recent key now else sw.onRecord other)) := by
  -- The oldest instant that counts does not overflow.
  have exact_ : sw.counted key now = sw.recent key now := by
    rw [counted, Go.wrap64_of_fits (by omega) (by omega)]
    rfl
  rw [← exact_]
  exact filed.allow_counted key now

end SlidingWindow

/-- The requests on record for a key stand for the calls of the key that returned true. -/
structure Logged (window clock : Int) (kept answered : List Int) : Prop where
  sorted : kept.Pairwise (· ≤ ·)
  past : ∀ x ∈ kept, x ≤ clock
  before : ∀ x ∈ answered, x ≤ clock
  agrees : Agrees (clock - window) kept answered

namespace Logged

variable {window clock now : Int} {kept answered : List Int}

/-- Where nothing was answered, nothing needs to be on record. -/
theorem nil (window clock : Int) : Logged window clock [] [] :=
  ⟨List.Pairwise.nil, nofun, nofun, fun _ _ => rfl⟩

/-- As time passes, there is less to stand for. -/
theorem later (logged : Logged window clock kept answered) (ordered : clock ≤ now) :
    Logged window now kept answered :=
  ⟨logged.sorted, fun x member => (logged.past x member).trans ordered,
    fun x member => (logged.before x member).trans ordered,
    logged.agrees.mono (Int.sub_le_sub_right ordered window)⟩

/-- Requests outside the window can be pruned. -/
theorem prune (logged : Logged window now kept answered) :
    Logged window now (kept.filter fun t => now - window < t) answered :=
  ⟨logged.sorted.filter _, fun x member => logged.past x (List.mem_filter.mp member).1,
    logged.before, logged.agrees.prune⟩

/-- A call that returns true now goes on record behind all others. -/
theorem push (logged : Logged window now kept answered) :
    Logged window now (kept ++ [now]) (now :: answered) := by
  -- No request is later than the call.
  refine ⟨?_, ?_, ?_, logged.agrees.push now⟩
  · apply List.pairwise_append.mpr
    refine ⟨logged.sorted, List.pairwise_singleton _ _, ?_⟩
    intro x member y last
    rw [List.mem_singleton.mp last]
    exact logged.past x member
  · intro x member
    rcases List.mem_append.mp member with within | last
    · exact logged.past x within
    · exact le_of_eq (List.mem_singleton.mp last)
  · intro x member
    rcases List.mem_cons.mp member with first | earlier
    · exact le_of_eq first
    · exact logged.before x earlier

/-- A record whose requests all lie outside the window can be dropped. -/
theorem drop (logged : Logged window now kept answered) (old : ∀ x ∈ kept, x ≤ now - window) :
    Logged window now [] answered :=
  ⟨List.Pairwise.nil, nofun, logged.before, logged.agrees.drop old⟩

/-- What pruning leaves is as long as the count of the calls inside the window. -/
theorem length_prune (logged : Logged window now kept answered) :
    (kept.filter fun t => now - window < t).length = countWithin window now answered := by
  rw [logged.agrees.length_prune, countWithin_eq_countAfter logged.before]

end Logged

/-- What is done to a limiter, each in one step. -/
inductive WindowCall where
  | allow (key : String) (now : Int)
  | reset (key : String)
  | cleanup (now : Int)

/-- A limiter, the clock, and when calls returned true since the last reset, latest first. -/
structure Metered where
  sw : SlidingWindow
  clock : Int
  admitted : String → List Int

namespace Metered

/-- A new limiter that nobody has called yet. -/
def start (limit window now : Int) : Metered := ⟨newSlidingWindow limit window, now, fun _ => []⟩

/-- One call, reset or cleanup pass, at a time that is not in the past. -/
def step (state : Metered) : WindowCall → Option Metered
  | .allow key now =>
    if state.clock ≤ now then
      some {
        sw := (state.sw.allow key now).1
        clock := now
        admitted :=
          if (state.sw.allow key now).2 then
            Function.update state.admitted key (now :: state.admitted key)
          else state.admitted }
    else none
  | .reset key =>
    some { state with
      sw := state.sw.reset key
      admitted := Function.update state.admitted key [] }
  | .cleanup now =>
    if state.clock ≤ now then some { state with sw := state.sw.cleanup now, clock := now }
    else none

/-- The next call returns true exactly if fewer than the limit did so inside its window. -/
def Exact (limit window : Int) (state : Metered) : Prop :=
  ∀ key instant, state.clock ≤ instant →
    ((state.sw.allow key instant).2 = true ↔
      (countWithin window instant (state.admitted key) : Int) < limit)

/-- The files are in order, and the settings are those the limiter was made with. -/
structure Configured (limit window : Int) (state : Metered) : Prop where
  filed : state.sw.Filed
  limits : state.sw.limit = limit
  length : state.sw.window = window

/-- The records stand for the calls that returned true. -/
structure Tracks (limit window : Int) (state : Metered) : Prop
    extends Configured limit window state where
  logged : ∀ key, Logged window state.clock (state.sw.onRecord key) (state.admitted key)

variable {limit window now : Int} {state next : Metered}

/-- A new limiter has nothing to stand for. -/
theorem start_tracks (limit window now : Int) : Tracks limit window (start limit window now) :=
  ⟨⟨SlidingWindow.newSlidingWindow_filed limit window, rfl, rfl⟩, fun _ => Logged.nil window now⟩

/-- No step changes the settings or puts the files out of order. -/
theorem Configured.step (configured : Configured limit window state) (long : 0 < window)
    (holds : window < 2 ^ 63) {call : WindowCall} (taken : state.step call = some next) :
    Configured limit window next := by
  -- Calls and passes are taken at times that are not past.
  obtain ⟨filed, limits, length⟩ := configured
  cases call with
  | allow key now =>
    obtain ⟨files, sameLimit, sameWindow, _⟩ :=
      filed.allow_spec (length ▸ long) (length ▸ holds) key now
    simp only [Metered.step] at taken
    split at taken
    · cases taken
      exact ⟨files, sameLimit.trans limits, sameWindow.trans length⟩
    · cases taken
  | reset key =>
    cases taken
    exact ⟨filed.reset key, limits, length⟩
  | cleanup now =>
    simp only [Metered.step] at taken
    split at taken
    · cases taken
      exact ⟨filed.cleanup now, limits, length⟩
    · cases taken

/-- Without a limit above zero, no call returns true and none should. -/
theorem Configured.exact_of_nonpos (configured : Configured limit window state) (long : 0 < window)
    (holds : window < 2 ^ 63) (closed : limit ≤ 0) : Exact limit window state := by
  -- Neither count is below zero.
  obtain ⟨filed, limits, length⟩ := configured
  intro key instant _
  obtain ⟨_, _, _, decided⟩ := filed.allow_spec (length ▸ long) (length ▸ holds) key instant
  rcases decided with ⟨_, room, _⟩ | ⟨answer, _, _⟩
  · omega
  · rw [answer]
    simp only [Bool.false_eq_true, false_iff]
    omega

/-- The requests that a call finds inside its window are as many as the calls it should count. -/
theorem Tracks.length_recent (tracks : Tracks limit window state) {instant : Int}
    (later : state.clock ≤ instant) (key : String) :
    (state.sw.recent key instant).length = countWithin window instant (state.admitted key) := by
  rw [SlidingWindow.recent, tracks.length]
  exact ((tracks.logged key).later later).length_prune

/-- While the records stand for the calls, the next call is answered exactly. -/
theorem Tracks.exact (tracks : Tracks limit window state) (long : 0 < window)
    (holds : window < 2 ^ 63) : Exact limit window state := by
  -- A call is answered by the recent requests on record.
  intro key instant later
  obtain ⟨_, _, _, decided⟩ :=
    tracks.filed.allow_spec (tracks.length ▸ long) (tracks.length ▸ holds) key instant
  rw [tracks.limits, tracks.length_recent later] at decided
  rcases decided with ⟨answer, room, _⟩ | ⟨answer, full, _⟩
  · exact iff_of_true answer room
  · exact iff_of_false (by simp [answer]) (not_lt.mpr full)

/-- A call leaves records that stand for it as well. -/
theorem Tracks.allow (tracks : Tracks limit window state) (long : 0 < window)
    (holds : window < 2 ^ 63) {key : String} (later : state.clock ≤ now)
    (taken : state.step (.allow key now) = some next) : Tracks limit window next := by
  -- Other keys only see time pass.
  refine ⟨tracks.toConfigured.step long holds taken, ?_⟩
  obtain ⟨_, _, _, decided⟩ :=
    tracks.filed.allow_spec (tracks.length ▸ long) (tracks.length ▸ holds) key now
  simp only [Metered.step, if_pos later] at taken
  cases taken
  intro other
  have before := (tracks.logged other).later later
  have pruned := before.prune
  rw [← tracks.length] at pruned
  rcases decided with ⟨answer, _, record⟩ | ⟨answer, _, record⟩
  · by_cases same : other = key
    · subst same
      simp only [answer, record, if_true, Function.update_self]
      exact tracks.length ▸ pruned.push
    · simp only [answer, record, if_true, if_neg same, Function.update_of_ne same]
      exact before
  · by_cases same : other = key
    · subst same
      simp only [answer, record, if_true, Bool.false_eq_true, if_false]
      exact tracks.length ▸ pruned
    · simp only [answer, record, if_neg same, Bool.false_eq_true, if_false]
      exact before

/-- A reset leaves nothing on record for its key, and nothing to stand for. -/
theorem Tracks.reset (tracks : Tracks limit window state) (long : 0 < window)
    (holds : window < 2 ^ 63) {key : String} (taken : state.step (.reset key) = some next) :
    Tracks limit window next := by
  -- Both the record and the calls to count start anew.
  refine ⟨tracks.toConfigured.step long holds taken, ?_⟩
  cases taken
  intro other
  by_cases same : other = key
  · subst same
    simp only [SlidingWindow.reset_onRecord, if_true, Function.update_self]
    exact Logged.nil window state.clock
  · simp only [SlidingWindow.reset_onRecord, if_neg same, Function.update_of_ne same]
    exact tracks.logged other

/-- If twice the length of the window does not overflow, a pass drops nothing that counts. -/
theorem Tracks.cleanup (tracks : Tracks limit window state) (long : 0 < window)
    (short : window ≤ 2 ^ 62) (later : state.clock ≤ now)
    (taken : state.step (.cleanup now) = some next) : Tracks limit window next := by
  -- An expired window has no request that is still inside it.
  refine ⟨tracks.toConfigured.step long (by omega) taken, ?_⟩
  simp only [Metered.step, if_pos later] at taken
  cases taken
  intro other
  have before := (tracks.logged other).later later
  rcases SlidingWindow.cleanup_onRecord other now with kept | ⟨dropped, w, found, old⟩
  · rw [kept]
    exact before
  · rw [dropped]
    have fits : state.sw.Fits := ⟨tracks.length ▸ long, tracks.length ▸ short⟩
    have record := SlidingWindow.onRecord_of_some found
    have outside := fits.expired_old (record ▸ before.sorted) old
    rw [← record, tracks.length] at outside
    exact before.drop outside

/-- Every step leaves records that stand for the calls that returned true. -/
theorem Tracks.step (tracks : Tracks limit window state) (long : 0 < window)
    (short : window ≤ 2 ^ 62) {call : WindowCall} (taken : state.step call = some next) :
    Tracks limit window next := by
  -- Calls and passes in the past are not taken.
  cases call with
  | allow key now =>
    by_cases later : state.clock ≤ now
    · exact tracks.allow long (by omega) later taken
    · simp only [Metered.step, if_neg later] at taken
      cases taken
  | reset key => exact tracks.reset long (by omega) taken
  | cleanup now =>
    by_cases later : state.clock ≤ now
    · exact tracks.cleanup long short later taken
    · simp only [Metered.step, if_neg later] at taken
      cases taken

/-- The limit of a key can be used up at one instant. -/
theorem exists_filled (now : Int) (long : 0 < window) (holds : window < 2 ^ 63) (key : String)
    (m : Nat) (room : (m : Int) ≤ limit) :
    ∃ calls full, exec Metered.step (start limit window now) calls = some full ∧
      Tracks limit window full ∧ full.clock = now ∧ full.admitted key = List.replicate m now := by
  -- Each call finds fewer than the limit before it.
  induction m with
  | zero => exact ⟨[], _, rfl, start_tracks limit window now, rfl, rfl⟩
  | succ m ih =>
    obtain ⟨calls, full, ran, tracks, clock, stamps⟩ := ih (by omega)
    have fewer : countWithin window now (full.admitted key) ≤ m := by
      rw [stamps]
      exact List.countP_le_length.trans (by simp)
    have answer : (full.sw.allow key now).2 = true :=
      (tracks.exact long holds key now (le_of_eq clock)).mpr (by omega)
    have taken : full.step (.allow key now) = some {
        sw := (full.sw.allow key now).1
        clock := now
        admitted := Function.update full.admitted key (now :: full.admitted key) } := by
      simp only [Metered.step, if_pos (le_of_eq clock), answer, if_true]
    refine ⟨calls ++ [.allow key now], _, ?_, tracks.allow long holds (le_of_eq clock) taken,
      rfl, ?_⟩
    · rw [exec_append, ran]
      simp [taken]
    · simp only [Function.update_self, stamps, List.replicate_succ]

/-- If twice the length of the window overflows, a pass makes the next answer wrong. -/
theorem exists_inexact (now : Int) (positive : 0 < limit) (overflows : 2 ^ 62 < window)
    (holds : window < 2 ^ 63) :
    ∃ calls final, exec Metered.step (start limit window now) calls = some final ∧
      ¬ Exact limit window final := by
  -- The limit is used up, and the pass forgets it.
  have long : 0 < window := by omega
  have room : (limit.toNat : Int) ≤ limit := by omega
  obtain ⟨calls, full, ran, tracks, clock, stamps⟩ :=
    exists_filled now long holds "" limit.toNat room
  have taken : full.step (.cleanup now) =
      some { full with sw := full.sw.cleanup now, clock := now } := if_pos (le_of_eq clock)
  refine ⟨calls ++ [.cleanup now], { full with sw := full.sw.cleanup now, clock := now }, ?_, ?_⟩
  · rw [exec_append, ran]
    simp [taken]
  have expires : ∀ w, full.sw.windows "" = some w → full.sw.expired w now = true := by
    intro w found
    apply SlidingWindow.expired_of_overflow (tracks.length ▸ overflows) (tracks.length ▸ holds)
    rw [← SlidingWindow.onRecord_of_some found, ← clock]
    exact (tracks.logged "").past
  have forgotten : (full.sw.cleanup now).recent "" now = [] := by
    rw [SlidingWindow.recent, SlidingWindow.cleanup_onRecord_of_expired expires, List.filter_nil]
  obtain ⟨filed, limits, length⟩ := tracks.toConfigured.step long holds taken
  obtain ⟨_, _, _, decided⟩ := filed.allow_spec (length ▸ long) (length ▸ holds) "" now
  rw [limits, forgotten, List.length_nil] at decided
  intro exact_
  have few := exact_ "" now le_rfl
  have many := countWithin_replicate long now limit.toNat []
  rw [List.append_nil, ← stamps] at many
  rcases decided with ⟨answer, _, _⟩ | ⟨_, full, _⟩
  · have below := few.mp answer
    simp only at below
    omega
  · omega

/--
In every run of calls, resets and cleanup passes, each call returns true exactly if fewer than the
limit of calls for its key did so inside its window since the last reset of the key, if and only if
the limit lets nothing through or twice the length of the window is a 64-bit duration.
-/
theorem window_decides_exactly_iff {limit window : Int} (now : Int) (long : 0 < window)
    (holds : window < 2 ^ 63) :
    (∀ calls final, exec Metered.step (start limit window now) calls = some final →
      Exact limit window final) ↔ limit ≤ 0 ∨ window ≤ 2 ^ 62 := by
  -- Only a cleanup pass can lose requests that still count.
  constructor
  · intro always
    by_contra neither
    have positive : 0 < limit := by omega
    have overflows : 2 ^ 62 < window := by omega
    obtain ⟨calls, final, ran, inexact⟩ := exists_inexact now positive overflows holds
    exact inexact (always calls final ran)
  · rintro (closed | short) calls final ran
    · have configured : Configured limit window final :=
        exec_invariant (Configured limit window)
          (fun state call next configured taken => configured.step long holds taken)
          (start_tracks limit window now).toConfigured ran
      exact configured.exact_of_nonpos long holds closed
    · have tracks : Tracks limit window final :=
        exec_invariant (Tracks limit window)
          (fun state call next tracks taken => tracks.step long short taken)
          (start_tracks limit window now) ran
      exact tracks.exact long holds

/-- A window of ten nanoseconds is decided exactly, and is full until ten have passed. -/
theorem window_decides_exactly_ten :
    ∃ final, exec Metered.step (start 1 10 0) [.allow "a" 0, .cleanup 0] = some final ∧
      (final.sw.allow "a" 9).2 = false ∧ (final.sw.allow "a" 10).2 = true ∧ Exact 1 10 final :=
  ⟨_, rfl, by decide +kernel, by decide +kernel,
    (window_decides_exactly_iff 0 (by decide) (by decide)).mpr (.inr (by decide))
      [.allow "a" 0, .cleanup 0] _ rfl⟩

/-- A pass drops the window of a call made at the same instant, and one call too many gets in. -/
theorem overflowed_cleanup_forgets :
    ∃ final, exec Metered.step (start 1 (2 ^ 62 + 1) 0) [.allow "a" 0, .cleanup 0] = some final ∧
      (final.sw.allow "a" 0).2 = true ∧
      countWithin (2 ^ 62 + 1) 0 (final.admitted "a") = 1 ∧ ¬ Exact 1 (2 ^ 62 + 1) final := by
  -- The admitted call is inside the window, and uses up the limit.
  refine ⟨_, rfl, by decide +kernel, by decide +kernel, ?_⟩
  intro exact_
  exact absurd ((exact_ "a" 0 (by decide +kernel)).mp (by decide +kernel)) (by decide +kernel)

end Metered

end Balance
