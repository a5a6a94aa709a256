import Balance.Health.Passive
import Balance.Machine.History
import Balance.Machine.Recent

/-! What a passive checker remembers of the requests to a backend, and when it speaks up. -/

namespace Balance

open Machine

/-- A call of a passive checker. -/
inductive PassiveEvent where
  | recordSuccess (b : Nat)
  | recordFailure (b : Nat)
  | reset (b : Nat)
  | resetAll
  deriving DecidableEq

namespace PassiveEvent

variable (b : Nat)

/-- The event is a failure of a backend. -/
def isFailure (event : Int × PassiveEvent) : Bool := event.2 = .recordFailure b

/-- The event resets a backend. -/
def isReset (event : Int × PassiveEvent) : Bool := event.2 = .reset b ∨ event.2 = .resetAll

/-- The event ends the failures in a row of a backend. -/
def endsRun (event : Int × PassiveEvent) : Bool := event.2 = .recordSuccess b ∨ isReset b event

/-- The event is about a backend. -/
def concerns (event : Int × PassiveEvent) : Bool := isFailure b event ∨ endsRun b event

/-- How often a backend has failed since its last success or reset. -/
def failuresInRow (history : List (Int × PassiveEvent)) : Nat :=
  countSince (endsRun b) (isFailure b) history

/-- When a backend has failed since its last reset, latest first. -/
def failureTimes (history : List (Int × PassiveEvent)) : List Int :=
  (elementsSince (isReset b) (isFailure b) history).map Prod.fst

end PassiveEvent

namespace PassiveChecker

open PassiveEvent

variable {pc : PassiveChecker} {b : Nat} {history : List (Int × PassiveEvent)} {now : Int}

/-- What a call leaves. -/
def apply (pc : PassiveChecker) : Int × PassiveEvent → PassiveChecker
  | (_, .recordSuccess b) => pc.recordSuccess b
  | (now, .recordFailure b) => (pc.recordFailure b now).1
  | (_, .reset b) => pc.reset b
  | (_, .resetAll) => pc.resetAll

/-- The checker that calls lead to. -/
def after (config : PassiveCheckerConfig) (history : List (Int × PassiveEvent)) : PassiveChecker :=
  history.foldl apply (newPassiveChecker config)

/-- No call changes the configuration. -/
theorem apply_config (event : Int × PassiveEvent) : (pc.apply event).config = pc.config := by
  obtain ⟨now, event⟩ := event
  cases event <;> rfl

/-- The configuration is the one that the checker was made with. -/
theorem after_config (config : PassiveCheckerConfig) (history : List (Int × PassiveEvent)) :
    (after config history).config = (newPassiveChecker config).config := by
  refine foldl_history
    (fun _ (pc : PassiveChecker) => pc.config = (newPassiveChecker config).config) rfl ?_ history
  intro _ pc event same
  rw [apply_config, same]

/-- The tracker of a backend agrees with what has happened to it. -/
structure Tracks (b : Nat) (history : List (Int × PassiveEvent)) (pc : PassiveChecker) : Prop where
  inRow : (pc.tracker b).consecutiveFailures = failuresInRow b history
  inWindow : ∀ now, (∀ event ∈ history, event.1 ≤ now) →
    Agrees (now - pc.config.window) (pc.tracker b).windowFailures (failureTimes b history)

/-- A new checker has tracked nothing. -/
theorem tracks_nil (config : PassiveCheckerConfig) (b : Nat) :
    Tracks b [] (newPassiveChecker config) where
  inRow := rfl
  inWindow := fun _ _ _ _ => rfl

/-- A call about another backend leaves the tracker as it is. -/
theorem tracker_apply_of_not_concerns {event : Int × PassiveEvent} (foreign : ¬ concerns b event) :
    (pc.apply event).tracker b = pc.tracker b := by
  -- Every other call writes the entry of the backend that it names.
  obtain ⟨t, event⟩ := event
  cases event with
  | resetAll => simp [concerns, endsRun, isReset] at foreign
  | _ other =>
    have differs : b ≠ other := by
      rintro rfl
      simp [concerns, endsRun, isReset, isFailure] at foreign
    simp [PassiveChecker.apply, recordSuccess, recordFailure, reset, tracker, differs]

/-- A call about another backend adds nothing to what has happened to this one. -/
theorem failures_concat_of_not_concerns {event : Int × PassiveEvent} (foreign : ¬ concerns b event)
    (history : List (Int × PassiveEvent)) :
    failuresInRow b (history ++ [event]) = failuresInRow b history ∧
      failureTimes b (history ++ [event]) = failureTimes b history := by
  simp only [concerns, decide_eq_true_eq, not_or] at foreign
  obtain ⟨other, going⟩ := foreign
  have kept : ¬ isReset b event = true := fun resets => going (by simp [endsRun, resets])
  simp [failuresInRow, failureTimes, other, going, kept]

/-- A failure is one more in a row. -/
theorem failuresInRow_failed (b : Nat) (history : List (Int × PassiveEvent)) (t : Int) :
    failuresInRow b (history ++ [(t, .recordFailure b)]) = failuresInRow b history + 1 := by
  simp [failuresInRow, endsRun, isReset, isFailure]

/-- A failure is timed. -/
theorem failureTimes_failed (b : Nat) (history : List (Int × PassiveEvent)) (t : Int) :
    failureTimes b (history ++ [(t, .recordFailure b)]) = t :: failureTimes b history := by
  simp [failureTimes, isReset, isFailure]

/-- Failures are as old as the events that they are. -/
theorem failureTimes_past (b : Nat) {history : List (Int × PassiveEvent)} {now : Int}
    (ordered : ∀ earlier ∈ history, earlier.1 ≤ now) : ∀ x ∈ failureTimes b history, x ≤ now := by
  intro x member
  obtain ⟨event, listed, rfl⟩ := List.mem_map.mp member
  exact ordered event (mem_of_mem_elementsSince listed)

/-- A success ends the failures in a row, and none of them is forgotten. -/
theorem Tracks.recordSuccess (tracks : Tracks b history pc) (t : Int) :
    Tracks b (history ++ [(t, .recordSuccess b)]) (pc.recordSuccess b) := by
  -- Only the count of failures in a row is written.
  have tracked : (pc.recordSuccess b).tracker b =
      { pc.tracker b with consecutiveFailures := 0 } := by
    simp [PassiveChecker.recordSuccess, tracker]
  refine ⟨?_, ?_⟩
  · rw [tracked]
    simp [failuresInRow, endsRun]
  · intro now past
    have times : failureTimes b (history ++ [(t, .recordSuccess b)]) = failureTimes b history := by
      simp [failureTimes, isReset, isFailure]
    rw [tracked, times]
    exact tracks.inWindow now fun earlier member => past earlier (by simp [member])

/-- A failure is counted and timed, and those that have left the window are forgotten. -/
theorem Tracks.recordFailure {t : Int} (tracks : Tracks b history pc)
    (ordered : ∀ earlier ∈ history, earlier.1 ≤ t) :
    Tracks b (history ++ [(t, .recordFailure b)]) (pc.recordFailure b t).1 := by
  -- The new failure is added first, and then the window is cut at its time.
  have tracked : (pc.recordFailure b t).1.tracker b =
      { consecutiveFailures := (pc.tracker b).consecutiveFailures + 1
        lastFailureTime := t
        windowFailures := ((pc.tracker b).windowFailures ++ [t]).filter fun x =>
          x > t - pc.config.window } := by
    simp [PassiveChecker.recordFailure, tracker]
  refine ⟨?_, ?_⟩
  · rw [tracked, failuresInRow_failed, Nat.cast_succ, ← tracks.inRow]
  · intro now past
    have late : t ≤ now := past (t, .recordFailure b) (by simp)
    rw [tracked, failureTimes_failed]
    exact ((tracks.inWindow t ordered).push t).prune.mono (by
      change t - pc.config.window ≤ now - pc.config.window
      omega)

/-- A reset forgets all about the backend. -/
theorem tracks_of_reset {event : Int × PassiveEvent} (resets : isReset b event = true)
    (history : List (Int × PassiveEvent)) (forgotten : pc.failures b = none) :
    Tracks b (history ++ [event]) pc := by
  -- Without an entry both counts are zero, as they are right after a reset.
  have inRow : failuresInRow b (history ++ [event]) = 0 := by
    simp [failuresInRow, endsRun, resets]
  have times : failureTimes b (history ++ [event]) = [] := by
    simp [failureTimes, resets]
  refine ⟨?_, ?_⟩
  · rw [inRow, tracker, forgotten]
    rfl
  · intro now _
    rw [times, tracker, forgotten]
    exact fun _ _ => rfl

/-- Each call changes the tracker as it changes what has happened. -/
theorem Tracks.apply {event : Int × PassiveEvent} (tracks : Tracks b history pc)
    (ordered : ∀ earlier ∈ history, earlier.1 ≤ event.1) :
    Tracks b (history ++ [event]) (pc.apply event) := by
  -- A call about the backend is one of four, and any other leaves both sides alone.
  by_cases own : concerns b event
  · obtain ⟨t, event⟩ := event
    cases event with
    | recordSuccess other =>
      obtain rfl : other = b := by simpa [concerns, endsRun, isReset, isFailure] using own
      exact tracks.recordSuccess t
    | recordFailure other =>
      obtain rfl : other = b := by simpa [concerns, endsRun, isReset, isFailure] using own
      exact tracks.recordFailure ordered
    | reset other =>
      obtain rfl : other = b := by simpa [concerns, endsRun, isReset, isFailure] using own
      exact tracks_of_reset (by simp [isReset]) history (Function.update_self _ _ _)
    | resetAll => exact tracks_of_reset (by simp [isReset]) history rfl
  · obtain ⟨inRow, times⟩ := failures_concat_of_not_concerns own history
    refine ⟨?_, ?_⟩
    · rw [tracker_apply_of_not_concerns own, inRow, tracks.inRow]
    · intro now past
      rw [tracker_apply_of_not_concerns own, apply_config, times]
      exact tracks.inWindow now fun earlier member => past earlier (by simp [member])

/-- Events happen at times that do not decrease. -/
def Ordered (history : List (Int × PassiveEvent)) : Prop :=
  history.Pairwise fun earlier later => earlier.1 ≤ later.1

/-- Whether events are in order can be found out. -/
instance (history : List (Int × PassiveEvent)) : Decidable (Ordered history) :=
  inferInstanceAs (Decidable (history.Pairwise _))

/-- After any calls, the tracker of a backend agrees with what has happened to it. -/
theorem tracks_after (config : PassiveCheckerConfig) (b : Nat) (ordered : Ordered history) :
    Tracks b history (after config history) := by
  -- The last call is made at a time that is not before any other.
  induction history using List.reverseRecOn with
  | nil => exact tracks_nil config b
  | append_singleton history event ih =>
    obtain ⟨before, _, last⟩ := List.pairwise_append.mp ordered
    rw [after, List.foldl_append]
    exact (ih before).apply fun earlier member => last earlier member event (by simp)

/-- A failure makes the checker speak up if one of the two counts is high enough. -/
theorem Tracks.recordFailure_snd (tracks : Tracks b history pc)
    (ordered : ∀ earlier ∈ history, earlier.1 ≤ now) :
    (pc.recordFailure b now).2 = true ↔
      pc.config.consecutiveFailures ≤ failuresInRow b (history ++ [(now, .recordFailure b)]) ∨
        pc.config.minRequests ≤ countWithin pc.config.window now
          (failureTimes b (history ++ [(now, .recordFailure b)])) := by
  -- All failures are past, and those in the window are the ones that are left.
  have past : ∀ x ∈ now :: failureTimes b history, x ≤ now :=
    List.forall_mem_cons.mpr ⟨le_refl now, failureTimes_past b ordered⟩
  have kept := ((tracks.inWindow now ordered).push now).length_prune
  rw [failuresInRow_failed, failureTimes_failed, countWithin_eq_countAfter past, ← kept]
  simp [PassiveChecker.recordFailure, shouldMarkUnhealthy, tracks.inRow]

/-- The counts that can be asked for are those of what has happened. -/
theorem Tracks.counts (tracks : Tracks b history pc)
    (ordered : ∀ earlier ∈ history, earlier.1 ≤ now) :
    pc.getConsecutiveFailures b = failuresInRow b history ∧
      pc.getWindowFailures b now = countWithin pc.config.window now (failureTimes b history) := by
  -- The failures that the tracker has kept are those within the window.
  have past := failureTimes_past b ordered
  have inRow := tracks.inRow
  have inWindow := tracks.inWindow now ordered _ (le_refl _)
  rw [countWithin_eq_countAfter past, ← inWindow, ← inRow, tracker]
  rw [getConsecutiveFailures, getWindowFailures]
  cases pc.failures b with
  | none => exact ⟨rfl, rfl⟩
  | some tracker => exact ⟨rfl, rfl⟩

/-- Only the events about a backend count for it. -/
theorem failures_filter_concerns (b : Nat) (history : List (Int × PassiveEvent)) :
    failuresInRow b (history.filter (concerns b)) = failuresInRow b history ∧
      failureTimes b (history.filter (concerns b)) = failureTimes b history := by
  -- Both are read off events that concern the backend.
  refine ⟨congrArg List.length (elementsSince_filter ?_ history),
    congrArg (List.map Prod.fst) (elementsSince_filter ?_ history)⟩
  · rintro event (ends | fails)
    · simp [concerns, ends]
    · simp [concerns, fails]
  · rintro event (resets | fails)
    · simp [concerns, endsRun, resets]
    · simp [concerns, fails]

/--
A failure makes the checker speak up if and only if the backend has failed often enough since its
last success or reset, or often enough within the window since its last reset.

What has happened to other backends makes no difference.
-/
theorem failure_detected_iff (config : PassiveCheckerConfig) (b : Nat)
    (history : List (Int × PassiveEvent)) (now : Int) (failures : 1 ≤ config.consecutiveFailures)
    (requests : 1 ≤ config.minRequests) (window : 0 < config.window)
    (ordered : Ordered (history ++ [(now, .recordFailure b)])) :
    (((after config history).recordFailure b now).2 = true ↔
      config.consecutiveFailures ≤ failuresInRow b (history ++ [(now, .recordFailure b)]) ∨
        config.minRequests ≤ countWithin config.window now
          (failureTimes b (history ++ [(now, .recordFailure b)]))) ∧
    ((after config (history.filter (concerns b))).recordFailure b now).2 =
      ((after config history).recordFailure b now).2 := by
  -- No setting is zero, so that none is replaced by its default.
  have settings (calls : List (Int × PassiveEvent)) : (after config calls).config = config := by
    rw [after_config, newPassiveChecker, if_neg (by omega), if_neg (by omega), if_neg (by omega)]
  have decides {calls : List (Int × PassiveEvent)}
      (sorted : Ordered (calls ++ [(now, .recordFailure b)])) :
      ((after config calls).recordFailure b now).2 = true ↔
        config.consecutiveFailures ≤ failuresInRow b (calls ++ [(now, .recordFailure b)]) ∨
          config.minRequests ≤ countWithin config.window now
            (failureTimes b (calls ++ [(now, .recordFailure b)])) := by
    obtain ⟨before, _, last⟩ := List.pairwise_append.mp sorted
    have past : ∀ earlier ∈ calls, earlier.1 ≤ now :=
      fun earlier member => last earlier member _ (List.mem_singleton_self _)
    have decided := (tracks_after config b before).recordFailure_snd past
    rwa [settings] at decided
  refine ⟨decides ordered, ?_⟩
  have own : (history ++ [(now, PassiveEvent.recordFailure b)]).filter (concerns b) =
      history.filter (concerns b) ++ [(now, .recordFailure b)] := by
    rw [List.filter_append]
    simp [concerns, isFailure]
  obtain ⟨inRow, times⟩ := failures_filter_concerns b (history ++ [(now, .recordFailure b)])
  rw [own] at inRow times
  rw [Bool.eq_iff_iff, decides ordered, decides (own ▸ ordered.sublist List.filter_sublist), inRow,
    times]

/-- Two failures in a row are not enough here, but the one before the success is in the window. -/
theorem failure_detected_in_window :
    let config : PassiveCheckerConfig := ⟨3, 3, 10⟩
    let history : List (Int × PassiveEvent) :=
      [(0, .recordFailure 1), (1, .recordFailure 2), (2, .recordSuccess 1), (4, .recordFailure 1)]
    ((after config history).recordFailure 1 9).2 = true ∧
      ((after config history).recordFailure 1 10).2 = false := by
  -- At the later time, the first failure has left the window.
  intro config history
  constructor
  · refine (failure_detected_iff config 1 history 9 ?_ ?_ ?_ ?_).1.mpr ?_
    · decide
    · decide
    · decide
    · decide
    · decide
  · decide

end PassiveChecker

end Balance
