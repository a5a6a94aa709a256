import Balance.Machine.History
import Balance.Security.Blocklist
import Balance.Security.Protection

/-! Who is blocked, read off the history of the list, and what becomes of a blocked connection. -/

namespace Balance

open Machine

namespace BlockEvent

/-- The reading of the clock at an event. -/
def time : BlockEvent → Int
  | .block _ _ now => now
  | .blockPermanent _ now => now
  | .unblock _ now => now
  | .isBlocked _ now => now
  | .cleanup now => now

/-- An event is a cleanup pass. -/
def isCleanup : BlockEvent → Bool
  | .cleanup _ => true
  | _ => false

/-- An event ends the blocks of an address. -/
def Unblocks (ip : String) (event : BlockEvent) : Prop := ∃ now, event = .unblock ip now

/-- An event ends the temporary block of an address or puts another in its place. -/
def Replaces (ip : String) (event : BlockEvent) : Prop :=
  event.Unblocks ip ∨ ∃ duration now, event = .block ip duration now

end BlockEvent

/--
By its history an address is blocked at an instant.

Since it was last unblocked it has been blocked for good, or its most recent block has not expired.
-/
def BlockedBy (events : List BlockEvent) (ip : String) (t : Int) : Prop :=
  (∃ now, Standing (BlockEvent.Unblocks ip) events (.blockPermanent ip now)) ∨
    ∃ duration start, Standing (BlockEvent.Replaces ip) events (.block ip duration start) ∧
      t < start + duration

namespace IPBlocklist

variable {bl : IPBlocklist} {ip : String}

/-- The list after a sequence of events. -/
def after (events : List BlockEvent) : IPBlocklist := events.foldl apply newIPBlocklist

section Lookups

variable {ν : Type} {entries : AList fun _ : String => ν}

/-- Taking out a key that is not there changes nothing. -/
theorem erase_of_absent (absent : ip ∉ entries) : entries.erase ip = entries :=
  AList.ext (List.kerase_of_notMem_keys absent)

/-- After a key was taken out, the other entries are where they were. -/
theorem lookup_erase_apply (entries : AList fun _ : String => ν) (ip erased : String) :
    (entries.erase erased).lookup ip = if ip = erased then none else entries.lookup ip := by
  split
  case isTrue same => rw [same, AList.lookup_erase]
  case isFalse other => exact AList.lookup_erase_ne other

/-- After an entry was written, the other entries are where they were. -/
theorem lookup_insert_apply (entries : AList fun _ : String => ν) (ip written : String)
    (value : ν) : (entries.insert written value).lookup ip =
      if ip = written then some value else entries.lookup ip := by
  split
  case isTrue same => rw [same, AList.lookup_insert]
  case isFalse other => exact AList.lookup_insert_ne other

/-- An address that is unblocked is taken off both lists. -/
theorem unblock_lists (bl : IPBlocklist) (ip : String) :
    (bl.unblock ip).blocked = bl.blocked.erase ip ∧
      (bl.unblock ip).permanent = bl.permanent.erase ip := by
  -- A list that does not have the address is left as it is.
  by_cases temporary : ip ∈ bl.blocked <;> by_cases permanent : ip ∈ bl.permanent <;>
    simp [unblock, dropTemporary, dropPermanent, temporary, permanent, erase_of_absent]

/-- A round of a cleanup pass ends the block of its own address if that has expired. -/
theorem expire_lookup (bl : IPBlocklist) (now : Int) (checked ip : String) :
    (bl.expire now checked).blocked.lookup ip =
        (if ip = checked then (bl.blocked.lookup ip).filter (now ≤ ·) else bl.blocked.lookup ip) ∧
      (bl.expire now checked).permanent = bl.permanent := by
  -- Only the block of the address that is checked can go.
  unfold expire
  split
  case h_1 expiry found =>
    split
    case isTrue expired =>
      refine ⟨?_, rfl⟩
      rw [dropTemporary, lookup_erase_apply]
      split
      case isTrue same =>
        rw [same, found]
        exact (if_neg (by simpa using expired)).symm
      case isFalse => rfl
    case isFalse current =>
      refine ⟨?_, rfl⟩
      split
      case isTrue same =>
        rw [same, found]
        exact (if_pos (by simpa using current)).symm
      case isFalse => rfl
  case h_2 missing =>
    refine ⟨?_, rfl⟩
    split
    case isTrue same =>
      rw [same, missing]
      rfl
    case isFalse => rfl

/-- A cleanup pass ends the blocks that have expired. -/
theorem cleanup_lookup (bl : IPBlocklist) (now : Int) (ip : String) :
    (bl.cleanup now).blocked.lookup ip = (bl.blocked.lookup ip).filter (now ≤ ·) ∧
      (bl.cleanup now).permanent = bl.permanent := by
  -- The loop is at the block of the address once, or there is none; a second time would do nothing.
  have rounds (addresses : List String) (bl : IPBlocklist) :
      (addresses.foldl (fun bl ip => bl.expire now ip) bl).blocked.lookup ip =
          (if ip ∈ addresses then (bl.blocked.lookup ip).filter (now ≤ ·)
            else bl.blocked.lookup ip) ∧
        (addresses.foldl (fun bl ip => bl.expire now ip) bl).permanent = bl.permanent := by
    induction addresses generalizing bl with
    | nil => simp
    | cons checked rest ih =>
      rw [List.foldl_cons, (ih _).1, (ih _).2, (expire_lookup bl now checked ip).1]
      refine ⟨?_, (expire_lookup bl now checked ip).2⟩
      by_cases here : ip = checked <;> by_cases later : ip ∈ rest <;> simp [here, later]
  obtain ⟨lookup, permanent⟩ := rounds bl.blocked.keys bl
  refine ⟨?_, permanent⟩
  rw [cleanup, lookup]
  split
  case isTrue => rfl
  case isFalse absent =>
    rw [AList.lookup_eq_none.mpr (AList.mem_keys.not.mpr absent)]
    rfl

/-- Asking changes neither list. -/
theorem isBlocked_lists (bl : IPBlocklist) (ip : String) (now : Int) :
    (bl.isBlocked ip now).1.blocked = bl.blocked ∧
      (bl.isBlocked ip now).1.permanent = bl.permanent := by
  -- At most the counter of blocked requests is written.
  unfold isBlocked
  dsimp only
  split
  · exact ⟨rfl, rfl⟩
  · split
    · split <;> exact ⟨rfl, rfl⟩
    · exact ⟨rfl, rfl⟩

end Lookups

/-- What stands on the lists for an address is what its history says, save expired blocks. -/
structure Reflects (ip : String) (events : List BlockEvent) (bl : IPBlocklist) : Prop where
  permanent : (bl.permanent.lookup ip).getD false = true ↔
    ∃ now, Standing (BlockEvent.Unblocks ip) events (.blockPermanent ip now)
  temporary : ∀ expiry, bl.blocked.lookup ip = some expiry →
    ∃ duration start, Standing (BlockEvent.Replaces ip) events (.block ip duration start) ∧
      start + duration = expiry
  lasting : ∀ duration start,
    Standing (BlockEvent.Replaces ip) events (.block ip duration start) →
      bl.blocked.lookup ip = some (start + duration) ∨
        ∃ event ∈ events, start + duration < event.time

namespace Reflects

variable {events : List BlockEvent}

/-- A new list has no history. -/
theorem start (ip : String) : Reflects ip [] newIPBlocklist where
  permanent := by simp [newIPBlocklist]
  temporary := by simp [newIPBlocklist]
  lasting := by simp

/-- Permanent blocks go on standing for what the history says. -/
theorem permanent_apply (reflects : Reflects ip events bl) (event : BlockEvent) :
    ((bl.apply event).permanent.lookup ip).getD false = true ↔
      ∃ now, Standing (BlockEvent.Unblocks ip) (events ++ [event]) (.blockPermanent ip now) := by
  -- Only a permanent block and an unblocking of the address itself matter.
  simp only [standing_concat, exists_or, exists_and_right, ← reflects.permanent]
  cases event with
  | block other duration now => simp [apply, block, BlockEvent.Unblocks]
  | blockPermanent other now =>
    rw [apply, blockPermanent, lookup_insert_apply]
    by_cases same : ip = other <;> simp [same, BlockEvent.Unblocks]
  | unblock other now =>
    rw [apply, (unblock_lists bl other).2, lookup_erase_apply]
    by_cases same : ip = other
    · simp [same, BlockEvent.Unblocks]
    · simp [same, BlockEvent.Unblocks, Ne.symm same]
  | isBlocked other now => simp [apply, (isBlocked_lists bl other now).2, BlockEvent.Unblocks]
  | cleanup now => simp [apply, (cleanup_lookup bl now ip).2, BlockEvent.Unblocks]

/-- A temporary block on the list goes on being the most recent one. -/
theorem temporary_apply (reflects : Reflects ip events bl) (event : BlockEvent) (expiry : Int)
    (found : (bl.apply event).blocked.lookup ip = some expiry) :
    ∃ duration start,
      Standing (BlockEvent.Replaces ip) (events ++ [event]) (.block ip duration start) ∧
        start + duration = expiry := by
  simp only [standing_concat]
  -- A block that was on the list before the event stands still, unless the event replaces it.
  have earlier (before : bl.blocked.lookup ip = some expiry) (kept : ¬ event.Replaces ip) :
      ∃ duration start, (.block ip duration start = event ∨
          Standing (BlockEvent.Replaces ip) events (.block ip duration start) ∧
            ¬ event.Replaces ip) ∧ start + duration = expiry := by
    obtain ⟨duration, start, standing, ends⟩ := reflects.temporary expiry before
    exact ⟨duration, start, .inr ⟨standing, kept⟩, ends⟩
  cases event with
  | block other duration now =>
    rw [apply, block, lookup_insert_apply] at found
    by_cases same : ip = other
    · rw [if_pos same] at found
      exact ⟨duration, now, .inl (by rw [same]), Option.some.inj found⟩
    · rw [if_neg same] at found
      exact earlier found (by simp [BlockEvent.Replaces, BlockEvent.Unblocks, Ne.symm same])
  | blockPermanent other now =>
    exact earlier found (by simp [BlockEvent.Replaces, BlockEvent.Unblocks])
  | unblock other now =>
    rw [apply, (unblock_lists bl other).1, lookup_erase_apply] at found
    by_cases same : ip = other
    · simp [same] at found
    · rw [if_neg same] at found
      exact earlier found (by simp [BlockEvent.Replaces, BlockEvent.Unblocks, Ne.symm same])
  | isBlocked other now =>
    rw [apply, (isBlocked_lists bl other now).1] at found
    exact earlier found (by simp [BlockEvent.Replaces, BlockEvent.Unblocks])
  | cleanup now =>
    rw [apply, (cleanup_lookup bl now ip).1] at found
    exact earlier (Option.filter_eq_some_iff.mp found).1
      (by simp [BlockEvent.Replaces, BlockEvent.Unblocks])

/-- The most recent block goes on being on the list unless it has expired. -/
theorem lasting_apply (reflects : Reflects ip events bl) (event : BlockEvent)
    (duration start : Int)
    (standing : Standing (BlockEvent.Replaces ip) (events ++ [event]) (.block ip duration start)) :
    (bl.apply event).blocked.lookup ip = some (start + duration) ∨
      ∃ past ∈ events ++ [event], start + duration < past.time := by
  -- The block is the one just made, or was the most recent one before.
  rcases standing_concat.mp standing with rfl | ⟨before, kept⟩
  · left
    rw [apply, block, AList.lookup_insert]
  · rcases reflects.lasting duration start before with found | ⟨past, listed, expired⟩
    · -- Only a cleanup pass takes the block off without a call for the address.
      cases event with
      | block other length now =>
        have same : ip ≠ other := by
          rintro rfl
          exact kept (.inr ⟨length, now, rfl⟩)
        left
        rw [apply, block, lookup_insert_apply, if_neg same, found]
      | blockPermanent other now => exact .inl found
      | unblock other now =>
        have same : ip ≠ other := by
          rintro rfl
          exact kept (.inl ⟨now, rfl⟩)
        left
        rw [apply, (unblock_lists bl other).1, lookup_erase_apply, if_neg same, found]
      | isBlocked other now =>
        left
        rw [apply, (isBlocked_lists bl other now).1, found]
      | cleanup now =>
        rcases lt_or_ge (start + duration) now with expired | current
        · exact .inr ⟨.cleanup now, by simp, expired⟩
        · left
          rw [apply, (cleanup_lookup bl now ip).1, found]
          exact if_pos (by simpa using current)
    · exact .inr ⟨past, List.mem_append_left _ listed, expired⟩

/-- After every history the lists stand for what it says. -/
theorem of_history (ip : String) (events : List BlockEvent) : Reflects ip events (after events) :=
  foldl_history (fun history bl => Reflects ip history bl) (start ip)
    (fun _ _ event reflects => ⟨reflects.permanent_apply event, reflects.temporary_apply event,
      reflects.lasting_apply event⟩) events

/-- An address is found blocked exactly if its history blocks it, once all of that is past. -/
theorem isBlocked_iff (reflects : Reflects ip events bl) {t : Int}
    (past : ∀ event ∈ events, event.time ≤ t) :
    (bl.isBlocked ip t).2 = true ↔ BlockedBy events ip t := by
  -- A permanent block is looked at first, and then the temporary one.
  rw [BlockedBy, ← reflects.permanent]
  unfold isBlocked
  dsimp only
  split
  case isTrue permanent => simp [permanent]
  case isFalse temporary =>
    rw [or_iff_right temporary]
    constructor
    · -- The block on the list is the most recent one.
      intro answer
      split at answer
      case h_1 expiry found =>
        split at answer
        case isTrue current =>
          obtain ⟨duration, start, standing, rfl⟩ := reflects.temporary expiry found
          exact ⟨duration, start, standing, current⟩
        case isFalse => cases answer
      case h_2 => cases answer
    · -- The most recent block is on the list, as it has not expired.
      rintro ⟨duration, start, standing, current⟩
      rcases reflects.lasting duration start standing with found | ⟨event, listed, expired⟩
      · simp [found, current]
      · have reached := past event listed
        omega

end Reflects

/-- Cleanup passes leave no trace in who is blocked. -/
theorem blockedBy_filter (events : List BlockEvent) (ip : String) (t : Int) :
    BlockedBy (events.filter fun event => ¬ event.isCleanup) ip t ↔ BlockedBy events ip t := by
  -- A pass ends no block that has not expired, and replaces none.
  have unblocks (event : BlockEvent) (ends : event.Unblocks ip) :
      decide (¬ event.isCleanup = true) = true := by
    obtain ⟨now, rfl⟩ := ends
    rfl
  have replaces (event : BlockEvent) (ends : event.Replaces ip) :
      decide (¬ event.isCleanup = true) = true := by
    rcases ends with ends | ⟨duration, now, rfl⟩
    · exact unblocks event ends
    · rfl
  unfold BlockedBy
  refine or_congr (exists_congr fun now => standing_filter rfl unblocks)
    (exists_congr fun duration => exists_congr fun start => ?_)
  rw [standing_filter rfl replaces]

end IPBlocklist

/-- What limiters of requests have in common. -/
class RateLimiter (ρ : Type) where
  -- Whether a request for a key is admitted, with the readings of the clock that the call takes.
  allow : ρ → String → Int → Int → ρ × Bool

instance : RateLimiter TokenBucket := ⟨TokenBucket.allow⟩

/-- What a connection has to pass. -/
structure SecurityManager (ρ : Type) where
  connectionGuard : ConnectionGuard
  rateLimiter : Option ρ
  blocklist : IPBlocklist

/-- The readings of the clock that a call for a new connection takes, in turn. -/
structure AdmissionTimes where
  asked : Int
  -- The readings of the limiter.
  created : Int
  checked : Int
  -- The readings of the guard.
  opened : Int
  limited : Int
  noted : Int

namespace SecurityManager

variable {ρ : Type} [RateLimiter ρ]

/-- Asks the limiter of requests, if there is one. -/
def askLimiter (rateLimiter : Option ρ) (ip : String) (times : AdmissionTimes) :
    Option ρ × Bool :=
  match rateLimiter with
  | some limiter =>
    let called := RateLimiter.allow limiter ip times.created times.checked
    (some called.1, called.2)
  | none => (none, true)

/-- Whether a connection is allowed, and the reason if it is not. -/
def allowConnection (sm : SecurityManager ρ) (ip : String) (times : AdmissionTimes) :
    SecurityManager ρ × Bool × String :=
  let listed := sm.blocklist.isBlocked ip times.asked
  let sm := { sm with blocklist := listed.1 }
  if listed.2 then (sm, false, "IP is blocked")
  else
    let limited := askLimiter sm.rateLimiter ip times
    let sm := { sm with rateLimiter := limited.1 }
    if ¬ limited.2 then (sm, false, "Rate limit exceeded")
    else
      let guarded := sm.connectionGuard.allowConnection ip times.opened times.limited times.noted
      let sm := { sm with connectionGuard := guarded.1 }
      if ¬ guarded.2 then (sm, false, "Too many connections")
      else (sm, true, "")

/-- A blocked connection is turned away before the limiter and the guard are asked. -/
theorem allowConnection_of_blocked (sm : SecurityManager ρ) {ip : String} {times : AdmissionTimes}
    (blocked : (sm.blocklist.isBlocked ip times.asked).2 = true) :
    (sm.allowConnection ip times).2 = (false, "IP is blocked") ∧
      (sm.allowConnection ip times).1.rateLimiter = sm.rateLimiter ∧
      (sm.allowConnection ip times).1.connectionGuard = sm.connectionGuard := by
  simp [allowConnection, blocked]

end SecurityManager

/--
An address is found blocked exactly if its history blocks it, with or without the cleanup passes,
and then a connection from it is turned away at no cost to the limiter and the guard.
-/
theorem isBlocked_by_history {ρ : Type} [RateLimiter ρ] (events : List BlockEvent) (ip : String)
    (t : Int) (past : ∀ event ∈ events, event.time ≤ t) :
    (((IPBlocklist.after events).isBlocked ip t).2 = true ↔ BlockedBy events ip t) ∧
      ((IPBlocklist.after events).isBlocked ip t).2 =
        ((IPBlocklist.after (events.filter fun event => ¬ event.isCleanup)).isBlocked ip t).2 ∧
      ∀ (sm : SecurityManager ρ) (times : AdmissionTimes),
        sm.blocklist = IPBlocklist.after events → times.asked = t →
        ((IPBlocklist.after events).isBlocked ip t).2 = true →
        (sm.allowConnection ip times).2 = (false, "IP is blocked") ∧
          (sm.allowConnection ip times).1.rateLimiter = sm.rateLimiter ∧
          (sm.allowConnection ip times).1.connectionGuard = sm.connectionGuard := by
  -- The lists stand for the history, with the passes or without them.
  have answer := (IPBlocklist.Reflects.of_history ip events).isBlocked_iff past
  refine ⟨answer, ?_, ?_⟩
  · -- Both histories say the same, and both are past.
    rw [Bool.eq_iff_iff, answer, ← IPBlocklist.blockedBy_filter]
    refine ((IPBlocklist.Reflects.of_history ip _).isBlocked_iff ?_).symm
    intro event listed
    exact past event (List.mem_of_mem_filter listed)
  · rintro sm times listed rfl blocked
    exact sm.allowConnection_of_blocked (listed ▸ blocked)

/-- A block that has not expired is seen, after a cleanup pass and the unblocking of another. -/
theorem isBlocked_by_history_seventy :
    BlockedBy [.block "10.0.0.1" 100 0, .cleanup 50, .unblock "10.0.0.2" 60] "10.0.0.1" 70 :=
  (isBlocked_by_history (ρ := TokenBucket)
    [.block "10.0.0.1" 100 0, .cleanup 50, .unblock "10.0.0.2" 60] "10.0.0.1" 70
    (by decide)).1.mp (by decide)

end Balance
