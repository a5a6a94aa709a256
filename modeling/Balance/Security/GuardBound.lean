import Balance.Security.Protection

/-! How many connections the guard lets in: at once from an address, and in an interval of time. -/

namespace Balance

open Machine

namespace TokenBucket

variable {tb : TokenBucket} {key : String} {created now : Int}

/-- A limiter without room for a token admits nothing. -/
theorem allow_of_capacity_lt (none : tb.capacity < 1) :
    (tb.allow key created now).2 = false := by
  -- What a bucket holds is cut off at the capacity.
  have short : ¬ 1 ≤ (tb.refill (tb.bucketOf key created) now).tokens := by
    rw [refill_tokens, not_le]
    exact lt_of_le_of_lt (min_le_left _ _) (by exact_mod_cast none)
  simp only [allow, ge_iff_le, if_neg short]

/-- A request does not change the capacity. -/
theorem allow_capacity : (tb.allow key created now).1.capacity = tb.capacity := by
  unfold allow
  dsimp only
  split
  · rfl
  · rfl

end TokenBucket

namespace Guarding

variable {state next : Guarding} {event : GuardEvent} {rate : ℚ} {capacity limit : Int}

/-- What was allowed was admitted by a limiter within its limits. -/
def Rationed (rate : ℚ) (capacity : Int) (state : Guarding) : Prop :=
  ∃ limiting : Limiting, limiting.limiter = state.guard.connectionRateLimiter ∧
    limiting.clock ≤ state.clock ∧ limiting.Sound rate capacity ∧
      state.allowed.Sublist limiting.admitted

/-- A call that leaves the guard with what its limiter says. -/
theorem allowStep_limiter {cg guard : ConnectionGuard} {ip : String} {created now noted : Int}
    {answer : Bool} (call : cg.AllowStep ip created now noted guard answer) :
    guard.connectionRateLimiter = (cg.connectionRateLimiter.allow ip created now).1 := by
  cases call with
  | limited => rfl
  | crowded => rfl
  | joined => rfl
  | opened => rfl

/-- What is allowed the limiter has granted. -/
theorem allowStep_granted {cg guard : ConnectionGuard} {ip : String} {created now noted : Int}
    (call : cg.AllowStep ip created now noted guard true) :
    (cg.connectionRateLimiter.allow ip created now).2 = true := by
  cases call with
  | joined granted => exact granted
  | opened granted => exact granted

/-- Every event keeps what is allowed rationed, if buckets fill up while they are kept. -/
theorem step_rationed (fills : (capacity : ℚ) ≤ rate * Go.seconds (5 * Go.minute + 1))
    (rationed : state.Rationed rate capacity) (taken : state.step event = some next) :
    next.Rationed rate capacity := by
  obtain ⟨limiting, same, earlier, sound, fewer⟩ := rationed
  -- The limiter sees the calls and its own cleanups, and nothing of the rest.
  have called {ip : String} {created now noted : Int}
      (times : state.clock ≤ created ∧ created ≤ now ∧ now ≤ noted) :
      limiting.step (.allow ip created now) = some
        ⟨(state.guard.connectionRateLimiter.allow ip created now).1, now,
          if (state.guard.connectionRateLimiter.allow ip created now).2 then
            (ip, now) :: limiting.admitted
          else limiting.admitted⟩ := by
    rw [Limiting.step, if_pos ⟨le_trans earlier times.1, times.2.1⟩, same]
  cases moves_of_step taken with
  | @refused ip created now noted guard times call =>
    refine ⟨_, (allowStep_limiter call).symm, times.2.2, Limiting.step_sound fills sound
      (called times), ?_⟩
    dsimp only
    split
    · exact fewer.cons _
    · exact fewer
  | @allowed ip created now noted guard times call =>
    refine ⟨_, (allowStep_limiter call).symm, times.2.2, Limiting.step_sound fills sound
      (called times), ?_⟩
    rw [if_pos (allowStep_granted call)]
    exact fewer.cons_cons _
  | released later => exact ⟨limiting, same, le_trans earlier later, sound, fewer⟩
  | cleaned later => exact ⟨limiting, same, le_trans earlier later, sound, fewer⟩
  | @forgot now later =>
    have forgets : limiting.step (.cleanup now) = some
        ⟨state.guard.connectionRateLimiter.cleanup now, now, limiting.admitted⟩ := by
      rw [Limiting.step, if_pos (le_trans earlier later), same]
    exact ⟨_, rfl, le_refl now, Limiting.step_sound fills sound forgets, fewer⟩

/-- A guard whose limiter has no room for a token has allowed nothing. -/
structure Barred (state : Guarding) : Prop where
  capacity : state.guard.connectionRateLimiter.capacity < 1
  nothing : state.allowed = []

/-- A guard that allows nothing goes on like that. -/
theorem step_barred (barred : state.Barred) (taken : state.step event = some next) :
    next.Barred := by
  -- A call that is allowed would have been granted by the limiter.
  cases moves_of_step taken with
  | refused times call =>
    refine ⟨?_, barred.nothing⟩
    rw [allowStep_limiter call, TokenBucket.allow_capacity]
    exact barred.capacity
  | allowed times call =>
    have granted := allowStep_granted call
    rw [TokenBucket.allow_of_capacity_lt barred.capacity] at granted
    cases granted
  | released later => exact ⟨barred.capacity, barred.nothing⟩
  | cleaned later => exact ⟨barred.capacity, barred.nothing⟩
  | forgot later => exact ⟨barred.capacity, barred.nothing⟩

/-- Ten seconds' worth of tokens come in while a bucket is kept. -/
theorem tenfold_fills (positive : 0 < rate) :
    ((⌊rate * 10⌋ : Int) : ℚ) ≤ rate * Go.seconds (5 * Go.minute + 1) := by
  have long : (10 : ℚ) ≤ Go.seconds (5 * Go.minute + 1) := by
    norm_num [Go.seconds, Go.minute, Go.second]
  exact le_trans (Int.floor_le _) (mul_le_mul_of_nonneg_left long positive.le)

/--
In every interval of time the guard allows an address no more new connections than ten seconds'
worth of its rate, rounded down, and what the rate allows in the interval.
-/
theorem connection_rate_bounded (config : ProtectionConfig)
    (positive : 0 < config.maxConnectionRate) {origin : Int} {trace : List GuardEvent}
    {state : Guarding} (ran : exec step (start config origin) trace = some state) (ip : String)
    {first last : Int} (ordered : first ≤ last) :
    (state.admissions ip first last : ℚ) ≤
      ⌊10 * config.maxConnectionRate⌋ + config.maxConnectionRate * Go.seconds (last - first) := by
  -- Whether the capacity fits into 64 bits decides which invariant carries the run.
  rw [mul_comm 10]
  have nonneg : 0 ≤ config.maxConnectionRate * 10 := mul_nonneg positive.le (by norm_num)
  rcases lt_or_ge (config.maxConnectionRate * 10) (2 ^ 63) with fits | beyond
  · -- The capacity is what it is meant to be, and a limiter with it keeps to its rate.
    have capacity := Go.toInt64_of_fits nonneg fits
    have initial : (start config origin).Rationed config.maxConnectionRate
        ⌊config.maxConnectionRate * 10⌋ := by
      refine ⟨Limiting.start config.maxConnectionRate ⌊config.maxConnectionRate * 10⌋ origin, ?_,
        le_refl origin, Limiting.start_sound positive.le (Int.floor_nonneg.mpr nonneg) origin,
        List.Sublist.refl []⟩
      rw [← capacity]
      rfl
    obtain ⟨limiting, _, _, sound, fewer⟩ := exec_invariant
      (Rationed config.maxConnectionRate ⌊config.maxConnectionRate * 10⌋)
      (fun _ _ _ rationed taken => step_rationed (tenfold_fills positive) rationed taken)
      initial ran
    have count : (state.admissions ip first last : ℚ) ≤ limiting.admissions ip first last :=
      Nat.cast_le.mpr fewer.countP_le
    exact le_trans count (sound.admissions_le ip ordered)
  · -- A capacity that does not fit comes out negative, and nothing is ever allowed.
    have initial : (start config origin).Barred := by
      refine ⟨?_, rfl⟩
      change Go.toInt64 (config.maxConnectionRate * 10) < 1
      rw [Go.toInt64_of_beyond beyond]
      norm_num
    have barred := exec_invariant Barred (fun _ _ _ barred taken => step_barred barred taken)
      initial ran
    have floor : (0 : ℚ) ≤ ⌊config.maxConnectionRate * 10⌋ := by
      exact_mod_cast Int.floor_nonneg.mpr nonneg
    have income : 0 ≤ config.maxConnectionRate * Go.seconds (last - first) :=
      mul_nonneg positive.le (Go.seconds_nonneg (by omega))
    rw [admissions, barred.nothing]
    simp only [List.countP_nil, Nat.cast_zero]
    linarith

/-- A guard that lets in one connection a second, and three at a time from one address. -/
def smallConfig : ProtectionConfig := ⟨3, 1⟩

/-- Five connections from one address at the same moment. -/
def rush : List GuardEvent := List.replicate 5 (.allow "10.0.0.1" 0 0 0)

/-- Then one of them ends, and another is tried. -/
def crowd : List GuardEvent := rush ++ [.release "10.0.0.1" 0, .allow "10.0.0.1" 0 0 0]

/-- Of these connections four are allowed, which is within the rate. -/
theorem crowd_within_rate :
    ∃ state, exec step (start smallConfig 0) crowd = some state ∧
      state.admissions "10.0.0.1" 0 0 = 4 ∧
      (state.admissions "10.0.0.1" 0 0 : ℚ) ≤ ⌊10 * (1 : ℚ)⌋ + 1 * Go.seconds (0 - 0) := by
  have ran : exec step (start smallConfig 0) crowd = some _ := rfl
  exact ⟨_, ran, by decide +kernel, connection_rate_bounded smallConfig zero_lt_one ran "10.0.0.1"
    (by decide)⟩

/-- An entry is there for the connections that are held, and only for them. -/
def Matches (entry : Option IPConnections) (held : Nat) : Prop :=
  match entry with
  | none => held = 0
  | some ipConns => ipConns.count = held ∧ 0 < held

/-- Nothing is held from an address without an entry. -/
@[simp] theorem matches_none {held : Nat} : Matches none held ↔ held = 0 := Iff.rfl

/-- An entry counts what is held, and is not kept for nothing. -/
@[simp] theorem matches_some {ipConns : IPConnections} {held : Nat} :
    Matches (some ipConns) held ↔ ipConns.count = held ∧ 0 < held := Iff.rfl

/-- What is counted for an address is what is held from it. -/
theorem Matches.count_eq {entry : Option IPConnections} {held : Nat}
    (right : Matches entry held) : entry.elim 0 IPConnections.count = held := by
  cases entry with
  | none =>
    rw [matches_none.mp right]
    rfl
  | some ipConns => exact (matches_some.mp right).1

/-- An address has an entry exactly if something is held from it. -/
theorem Matches.isSome_iff {entry : Option IPConnections} {held : Nat}
    (right : Matches entry held) : entry.isSome ↔ 0 < held := by
  cases entry with
  | none => simp [matches_none.mp right]
  | some ipConns => simp [(matches_some.mp right).2]

/-- No entry is forgotten while a connection is held from its address. -/
theorem Matches.filter {entry : Option IPConnections} {held : Nat} (right : Matches entry held)
    (now : Int) :
    Matches (entry.filter fun ipConns =>
      decide (¬ (ipConns.count = 0 ∧ Go.since now ipConns.lastActivity > 5 * Go.minute))) held := by
  cases entry with
  | none => exact right
  | some ipConns =>
    -- Only an entry that counts nothing may go, and there is none.
    obtain ⟨count, holds⟩ := matches_some.mp right
    have kept : ¬ (ipConns.count = 0 ∧ Go.since now ipConns.lastActivity > 5 * Go.minute) := by
      intro idle
      omega
    rw [Option.filter_some, if_pos (decide_eq_true kept)]
    exact ⟨count, holds⟩

/-- The guard knows which connections are held, and there are no more than its limit. -/
structure Tracked (limit : Int) (state : Guarding) : Prop where
  limit_eq : state.guard.config.maxConnectionsPerIP = limit
  entries : ∀ ip, Matches (state.guard.connectionsPerIP ip) (state.held ip)
  bounded : ∀ ip, (state.held ip : Int) ≤ limit
  active : Tallies (fun ip => (state.held ip : Int)) state.guard.activeConnections

/-- A guard that has changed the entry of one address along with what is held from it. -/
theorem Tracked.assign (tracked : state.Tracked limit) {ip : String}
    {entry : Option IPConnections} {held : Nat}
    (limits : next.guard.config.maxConnectionsPerIP = state.guard.config.maxConnectionsPerIP)
    (entries : next.guard.connectionsPerIP = Function.update state.guard.connectionsPerIP ip entry)
    (holds : next.held = Function.update state.held ip held) (right : Matches entry held)
    (room : (held : Int) ≤ limit)
    (active : next.guard.activeConnections =
      state.guard.activeConnections + (held - state.held ip)) : next.Tracked limit := by
  refine ⟨limits.trans tracked.limit_eq, ?_, ?_, ?_⟩
  · -- The entries of all other addresses still stand for what is held from there.
    intro other
    rw [entries, holds]
    by_cases same : other = ip
    · rw [same, Function.update_self, Function.update_self]
      exact right
    · rw [Function.update_of_ne same, Function.update_of_ne same]
      exact tracked.entries other
  · rw [holds]
    exact (Function.forall_update_iff state.held fun _ held => (held : Int) ≤ limit).mpr
      ⟨room, fun other _ => tracked.bounded other⟩
  · -- The sum changes by what the address holds more than before.
    have changed := tracked.active.update ip held
    have moved : (fun other => (next.held other : Int)) =
        Function.update (fun other => (state.held other : Int)) ip held := by
      rw [holds]
      exact Function.comp_update Nat.cast state.held ip held
    rw [active, moved]
    exact changed

/-- A connection is released only while one is held from its address. -/
def Paired (state : Guarding) : GuardEvent → Prop
  | .release ip _ => 0 < state.held ip
  | _ => True

/-- A call that is refused changes neither the entries nor the number of connections. -/
theorem allowStep_refused {cg guard : ConnectionGuard} {ip : String} {created now noted : Int}
    (call : cg.AllowStep ip created now noted guard false) :
    guard.config = cg.config ∧ guard.connectionsPerIP = cg.connectionsPerIP ∧
      guard.activeConnections = cg.activeConnections := by
  cases call with
  | limited => exact ⟨rfl, rfl, rfl⟩
  | crowded => exact ⟨rfl, rfl, rfl⟩

/-- A new connection is tracked. -/
theorem Tracked.allowed (tracked : state.Tracked limit) (least : 1 ≤ limit) {ip : String}
    {created now noted : Int} {guard : ConnectionGuard}
    (call : state.guard.AllowStep ip created now noted guard true) :
    Tracked limit ⟨guard, noted, (ip, now) :: state.allowed,
      Function.update state.held ip (state.held ip + 1)⟩ := by
  have entry := tracked.entries ip
  cases call with
  | joined _ found room =>
    -- The count was below the limit, and is that of the connections held.
    rw [found, matches_some] at entry
    obtain ⟨count, _⟩ := entry
    rw [tracked.limit_eq, count] at room
    refine tracked.assign rfl rfl rfl ⟨?_, Nat.succ_pos _⟩ ?_ ?_
    · push_cast
      rw [count]
    · push_cast
      omega
    · push_cast
      omega
  | opened _ absent =>
    -- It is the first one from its address.
    rw [absent, matches_none] at entry
    refine tracked.assign rfl rfl rfl ⟨?_, Nat.succ_pos _⟩ ?_ ?_
    · rw [entry]
      rfl
    · rw [entry]
      exact least
    · push_cast
      omega

/-- A connection that is held and released is no longer tracked. -/
theorem Tracked.released (tracked : state.Tracked limit) {ip : String} (holds : 0 < state.held ip)
    (now : Int) :
    Tracked limit { state with
      guard := state.guard.releaseConnection ip now
      clock := now
      held := Function.update state.held ip (state.held ip - 1) } := by
  -- What is held becomes one less, and so does the count of the entry.
  have entry := tracked.entries ip
  have room := tracked.bounded ip
  refine tracked.assign rfl rfl rfl ?_ (by omega) ?_
  · -- The address has an entry, which goes with its last connection.
    cases found : state.guard.connectionsPerIP ip with
    | none =>
      rw [found, matches_none] at entry
      omega
    | some ipConns =>
      rw [found, matches_some] at entry
      obtain ⟨count, _⟩ := entry
      simp only [Option.bind_some]
      split
      case isTrue last =>
        change state.held ip - 1 = 0
        omega
      case isFalse more =>
        change ipConns.count - 1 = ((state.held ip - 1 : Nat) : Int) ∧ 0 < state.held ip - 1
        omega
  · change state.guard.activeConnections - 1 = _
    omega

/-- Every event keeps track of the connections held, if none is released that is not held. -/
theorem step_tracked (least : 1 ≤ limit) (tracked : state.Tracked limit)
    (paired : state.Paired event) (taken : state.step event = some next) :
    next.Tracked limit := by
  -- Only a call that is allowed and a release touch what is held.
  cases moves_of_step taken with
  | refused times call =>
    obtain ⟨config, entries, active⟩ := allowStep_refused call
    refine ⟨?_, ?_, tracked.bounded, ?_⟩
    · rw [config]
      exact tracked.limit_eq
    · rw [entries]
      exact tracked.entries
    · rw [active]
      exact tracked.active
  | allowed times call => exact tracked.allowed least call
  | released later => exact tracked.released paired _
  | cleaned later =>
    exact ⟨tracked.limit_eq, fun ip => (tracked.entries ip).filter _, tracked.bounded,
      tracked.active⟩
  | forgot later =>
    exact ⟨tracked.limit_eq, tracked.entries, tracked.bounded, tracked.active⟩

/--
As long as no connection is released that is not held, the guard counts for each address the
connections held from it, no more than its limit, has an entry for exactly those addresses that
hold one, and knows the number of all of them together.
-/
theorem connections_tracked {config : ProtectionConfig} (least : 1 ≤ config.maxConnectionsPerIP)
    {origin : Int} {trace : List GuardEvent} {state : Guarding}
    (paired : Along step Paired (start config origin) trace)
    (ran : exec step (start config origin) trace = some state) :
    (∀ ip, (state.guard.connectionsPerIP ip).elim 0 IPConnections.count = state.held ip ∧
      (state.held ip : Int) ≤ config.maxConnectionsPerIP ∧
      ((state.guard.connectionsPerIP ip).isSome ↔ 0 < state.held ip)) ∧
      ∃ ips : Finset String, (∀ ip, ip ∈ ips ↔ 0 < state.held ip) ∧
        state.guard.activeConnections = ∑ ip ∈ ips, (state.held ip : Int) := by
  -- All four parts are read off what every event keeps.
  have initial : (start config origin).Tracked config.maxConnectionsPerIP :=
    ⟨rfl, fun _ => rfl, fun _ => by simpa [start] using by omega, tallies_zero⟩
  have tracked := exec_invariant_along (Tracked config.maxConnectionsPerIP)
    (fun _ _ _ tracked paired taken => step_tracked least tracked paired taken) initial paired ran
  refine ⟨?_, ?_⟩
  · intro ip
    have entry := tracked.entries ip
    exact ⟨entry.count_eq, tracked.bounded ip, entry.isSome_iff⟩
  · obtain ⟨ips, listed, sum⟩ := tracked.active.support
    refine ⟨ips, ?_, sum⟩
    intro ip
    rw [listed]
    omega

/-- Of the connections in the crowd three are held in the end, which is all there is room for. -/
theorem crowd_tracked :
    ∃ state, exec step (start smallConfig 0) crowd = some state ∧
      state.held "10.0.0.1" = 3 ∧ (state.held "10.0.0.1" : Int) ≤ 3 ∧
      ((state.guard.connectionsPerIP "10.0.0.1").isSome ↔ 0 < state.held "10.0.0.1") := by
  have ran : exec step (start smallConfig 0) crowd = some _ := rfl
  have paired : Along step Paired (start smallConfig 0) crowd := by
    -- When the one connection is released, three are held.
    refine (along_append (show exec step (start smallConfig 0) rush = some _ from rfl)).mpr
      ⟨?_, ?_, fun _ _ => ⟨trivial, fun _ _ => trivial⟩⟩
    · refine along_of_forall_mem _ fun event member _ => ?_
      rw [List.eq_of_mem_replicate member]
      trivial
    · change 0 < _
      decide +kernel
  have tracked := (connections_tracked (by decide) paired ran).1 "10.0.0.1"
  exact ⟨_, ran, by decide +kernel, tracked.2.1, tracked.2.2⟩

end Guarding

end Balance
