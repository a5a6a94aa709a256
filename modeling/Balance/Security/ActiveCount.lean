import Balance.Security.Protection

/-! Whether the number of active connections is what the guard counts for all addresses. -/

namespace Balance

open Machine

namespace ConnectionGuard

/-- The guard after an event, whatever the readings of the clock. -/
def apply (cg : ConnectionGuard) : GuardEvent → ConnectionGuard
  | .allow ip created now noted => (cg.allowConnection ip created now noted).1
  | .release ip now => cg.releaseConnection ip now
  | .cleanup now => cg.cleanup now
  | .limiterCleanup now =>
    { cg with connectionRateLimiter := cg.connectionRateLimiter.cleanup now }

/-- An event is possible in every state. -/
def step (cg : ConnectionGuard) (event : GuardEvent) : Option ConnectionGuard :=
  some (cg.apply event)

/-- The connections counted for an address. -/
def countOf (cg : ConnectionGuard) (ip : String) : Int :=
  (cg.connectionsPerIP ip).elim 0 IPConnections.count

/-- The number of active connections is the sum of what is counted for the addresses. -/
def Summed (cg : ConnectionGuard) : Prop :=
  Tallies cg.countOf cg.activeConnections ∧ 0 ≤ cg.activeConnections

/-- An event is no release, or one for an address that has an entry. -/
def Finds (cg : ConnectionGuard) : GuardEvent → Prop
  | .release ip _ => (cg.connectionsPerIP ip).isSome
  | _ => True

/-- No entry is kept for nothing. -/
def Occupied (cg : ConnectionGuard) : Prop :=
  ∀ ip ipConns, cg.connectionsPerIP ip = some ipConns → 1 ≤ ipConns.count

variable {cg : ConnectionGuard} {event : GuardEvent} {ip : String}

/-- What is counted for an address is not negative. -/
theorem Occupied.countOf_nonneg (occupied : cg.Occupied) (ip : String) : 0 ≤ cg.countOf ip := by
  -- Without an entry nothing is counted, and an entry counts at least one.
  unfold countOf
  rcases found : cg.connectionsPerIP ip with _ | ipConns
  · exact le_refl 0
  · have positive := occupied ip ipConns found
    simp only [Option.elim_some]
    omega

/-- Writing the entry of one address changes what is counted for that address. -/
theorem countOf_update {next : ConnectionGuard} {entry : Option IPConnections}
    (written : next.connectionsPerIP = Function.update cg.connectionsPerIP ip entry) :
    next.countOf = Function.update cg.countOf ip (entry.elim 0 IPConnections.count) := by
  -- The count of another address is read from the same entry as before.
  funext other
  by_cases same : other = ip
  · subst same
    simp [countOf, written]
  · simp [countOf, written, same]

/-- Writing an entry that counts something keeps all entries occupied. -/
theorem Occupied.update (occupied : cg.Occupied) {next : ConnectionGuard}
    {entry : Option IPConnections}
    (written : next.connectionsPerIP = Function.update cg.connectionsPerIP ip entry)
    (counts : ∀ ipConns, entry = some ipConns → 1 ≤ ipConns.count) : next.Occupied := by
  -- The other entries are those of before.
  intro other ipConns found
  rw [written] at found
  by_cases same : other = ip
  · subst same
    rw [Function.update_self] at found
    exact counts ipConns found
  · rw [Function.update_of_ne same] at found
    exact occupied other ipConns found

/-- A call for a new connection keeps the entries occupied, and counts in both places what it
allows. -/
theorem Occupied.allowed (occupied : cg.Occupied) {guard : ConnectionGuard} {answer : Bool}
    {created now noted : Int} (call : cg.AllowStep ip created now noted guard answer) :
    guard.Occupied ∧ (Tallies cg.countOf cg.activeConnections →
      Tallies guard.countOf guard.activeConnections) := by
  -- Only a call that is allowed writes an entry, which counts one more than before.
  cases call with
  | limited => exact ⟨occupied, id⟩
  | crowded => exact ⟨occupied, id⟩
  | @joined ipConns _ found _ =>
    have positive := occupied ip ipConns found
    refine ⟨occupied.update rfl ?_, ?_⟩
    · rintro _ ⟨rfl⟩
      change 1 ≤ ipConns.count + 1
      omega
    · intro tallies
      rw [countOf_update rfl]
      have changed := tallies.update ip (ipConns.count + 1)
      have before : cg.countOf ip = ipConns.count := by simp [countOf, found]
      rwa [before, add_sub_cancel_left] at changed
  | opened _ absent =>
    refine ⟨occupied.update rfl ?_, ?_⟩
    · rintro _ ⟨rfl⟩
      exact le_refl 1
    · intro tallies
      rw [countOf_update rfl]
      have changed := tallies.update ip 1
      have before : cg.countOf ip = 0 := by simp [countOf, absent]
      rwa [before, sub_zero] at changed

/-- A release leaves an entry that still counts something, or none. -/
theorem Occupied.release (occupied : cg.Occupied) (ip : String) (now : Int) :
    (cg.releaseConnection ip now).Occupied := by
  refine occupied.update rfl ?_
  -- An entry that would count nothing is deleted.
  intro left kept
  obtain ⟨ipConns, _, written⟩ := Option.bind_eq_some_iff.mp kept
  split at written
  case isTrue => cases written
  case isFalse more =>
    cases written
    change 1 ≤ ipConns.count - 1
    omega

/-- A release counts one connection less for its address, if that has an entry. -/
theorem Occupied.countOf_release (occupied : cg.Occupied) (ip : String) (now : Int) :
    (cg.releaseConnection ip now).countOf = Function.update cg.countOf ip
      (cg.countOf ip - if (cg.connectionsPerIP ip).isSome then 1 else 0) := by
  -- What is written for the address decides what is counted for it.
  rw [countOf_update rfl]
  congr 1
  rcases found : cg.connectionsPerIP ip with _ | ipConns
  · simp [countOf, found]
  · -- The last connection takes the entry with it.
    have positive := occupied ip ipConns found
    have before : cg.countOf ip = ipConns.count := by simp [countOf, found]
    rw [before, Option.bind_some]
    split
    case isTrue last =>
      simp only [Option.elim_none, Option.isSome_some, if_true]
      omega
    case isFalse => rfl

/-- A release keeps the sum exactly if it finds an entry of its address. -/
theorem Occupied.tallies_release (occupied : cg.Occupied)
    (tallies : Tallies cg.countOf cg.activeConnections) (ip : String) (now : Int) :
    Tallies (cg.releaseConnection ip now).countOf (cg.releaseConnection ip now).activeConnections ↔
      (cg.connectionsPerIP ip).isSome := by
  -- The number of connections goes down by one in any case, and the sum only with an entry.
  have changed := tallies.update ip
    (cg.countOf ip - if (cg.connectionsPerIP ip).isSome then 1 else 0)
  rw [← occupied.countOf_release ip now] at changed
  have active : (cg.releaseConnection ip now).activeConnections = cg.activeConnections - 1 := rfl
  rw [active]
  cases found : (cg.connectionsPerIP ip).isSome with
  | false =>
    refine iff_of_false ?_ Bool.false_ne_true
    intro counted
    have same := counted.unique changed
    rw [found, if_neg Bool.false_ne_true] at same
    omega
  | true =>
    refine iff_of_true ?_ rfl
    rw [found, if_pos rfl] at changed
    have total : cg.activeConnections + (cg.countOf ip - 1 - cg.countOf ip) =
        cg.activeConnections - 1 := by omega
    rwa [total] at changed

/-- A cleanup pass of the guard finds no entry to forget. -/
theorem Occupied.cleanup_entries (occupied : cg.Occupied) (now : Int) :
    (cg.cleanup now).connectionsPerIP = cg.connectionsPerIP := by
  -- Only an entry that counts nothing may go.
  funext ip
  rcases found : cg.connectionsPerIP ip with _ | ipConns
  · simp [cleanup, found]
  · have positive := occupied ip ipConns found
    have counts : ipConns.count ≠ 0 := by omega
    simp [cleanup, found, counts]

/-- Every event keeps the entries occupied, and the sum exactly if it finds what it releases. -/
theorem Occupied.apply (occupied : cg.Occupied) (event : GuardEvent) :
    (cg.apply event).Occupied ∧ (Tallies cg.countOf cg.activeConnections →
      (Tallies (cg.apply event).countOf (cg.apply event).activeConnections ↔ cg.Finds event)) := by
  cases event with
  | allow ip created now noted =>
    obtain ⟨kept, counted⟩ := occupied.allowed (cg.allowConnection_step ip created now noted)
    exact ⟨kept, fun tallies => iff_of_true (counted tallies) trivial⟩
  | release ip now =>
    exact ⟨occupied.release ip now, fun tallies => occupied.tallies_release tallies ip now⟩
  | cleanup now =>
    -- The entries and the number of connections are as before.
    have entries := occupied.cleanup_entries now
    refine ⟨?_, fun tallies => iff_of_true ?_ trivial⟩
    · intro ip ipConns found
      exact occupied ip ipConns (entries ▸ found)
    · have unchanged : (cg.cleanup now).countOf = cg.countOf := by
        funext ip
        rw [countOf, countOf, entries]
      exact unchanged.symm ▸ tallies
  | limiterCleanup now => exact ⟨occupied, fun tallies => iff_of_true tallies trivial⟩

/--
After every event the number of active connections is the sum of what is counted for all
addresses, and not negative, exactly if every release finds an entry of its address.
-/
theorem active_connections_summed_iff (config : Option ProtectionConfig)
    (events : List GuardEvent) :
    Always step Summed (newConnectionGuard config) events ↔
      Along step Finds (newConnectionGuard config) events := by
  have initial : (newConnectionGuard config).Occupied := nofun
  have complete : ∃ final, exec step (newConnectionGuard config) events = some final ∧
      final.Occupied :=
    exec_total Occupied (fun cg event occupied => ⟨cg.apply event, rfl, (occupied.apply event).1⟩)
      initial events
  obtain ⟨final, ran, _⟩ := complete
  -- What is counted for an address is never negative, so neither is the sum.
  refine always_iff_along Occupied ?_ ?_ initial ⟨tallies_zero, le_refl 0⟩ ran
  · rintro cg event _ occupied ⟨rfl⟩
    exact (occupied.apply event).1
  · rintro cg event _ occupied summed ⟨rfl⟩
    obtain ⟨kept, decides⟩ := occupied.apply event
    rw [← decides summed.1]
    exact ⟨And.left, fun tallies => ⟨tallies, tallies.nonneg kept.countOf_nonneg⟩⟩

/-- A release for an address with nothing outstanding makes the number of connections negative. -/
theorem stray_release_counted :
    ∃ cg, exec step (newConnectionGuard none) [.release "10.0.0.1" 0] = some cg ∧
      cg.activeConnections = -1 ∧ ∀ ip, cg.countOf ip = 0 := by
  refine ⟨_, rfl, rfl, ?_⟩
  intro ip
  simp [countOf, apply, releaseConnection, newConnectionGuard]

end ConnectionGuard

end Balance
