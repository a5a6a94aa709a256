import Balance.Machine.Account
import Balance.Machine.Run
import Balance.Security.RateLimit

/-! How many requests a token bucket admits in an interval of time. -/

namespace Balance

open Machine

namespace TokenBucket

variable {tb : TokenBucket} {now later : Int}

/-- The tokens that a request for a key would find. -/
def level (tb : TokenBucket) (key : String) (now : Int) : ℚ :=
  match tb.buckets key with
  | none => tb.capacity
  | some bucket => (tb.refill bucket now).tokens

/-- Refilled tokens are cut off at the capacity. -/
theorem refill_tokens (tb : TokenBucket) (bucket : Bucket) (now : Int) :
    (tb.refill bucket now).tokens =
      min (tb.capacity : ℚ)
        (bucket.tokens + Go.seconds (Go.since now bucket.lastRefill) * tb.rate) := by
  -- The comparison of the code is that of the minimum.
  simp only [refill, gt_iff_lt]
  split
  · rename_i beyond
    rw [min_eq_left (le_of_lt beyond)]
  · rename_i fits
    rw [min_eq_right (not_lt.mp fits)]

/-- A limiter whose buckets hold between nothing and the capacity, and were used in the past. -/
structure Kept (tb : TokenBucket) (clock : Int) : Prop where
  steady : 0 ≤ tb.rate
  positive : 0 ≤ tb.capacity
  tokens : ∀ key bucket, tb.buckets key = some bucket →
    0 ≤ bucket.tokens ∧ bucket.tokens ≤ tb.capacity
  past : ∀ key bucket, tb.buckets key = some bucket → bucket.lastRefill ≤ clock

/-- The level is within the capacity. -/
theorem Kept.level_mem (kept : tb.Kept now) (key : String) (ordered : now ≤ later) :
    0 ≤ tb.level key later ∧ tb.level key later ≤ tb.capacity := by
  -- Without a bucket the level is full, and with one nothing is lost by waiting.
  unfold level
  cases found : tb.buckets key with
  | none => exact ⟨Int.cast_nonneg kept.positive, le_refl _⟩
  | some bucket =>
    have tokens := (kept.tokens key bucket found).1
    have elapsed : 0 ≤ Go.seconds (Go.since later bucket.lastRefill) :=
      Go.seconds_nonneg (Go.since_nonneg (le_trans (kept.past key bucket found) ordered))
    simp only [refill_tokens]
    refine ⟨le_min (Int.cast_nonneg kept.positive) ?_, min_le_left _ _⟩
    exact add_nonneg tokens (mul_nonneg elapsed kept.steady)

/-- While time passes, the level rises by the tokens that come in at most. -/
theorem Kept.level_le (kept : tb.Kept now) (key : String) (ordered : now ≤ later) :
    tb.level key later ≤ tb.level key now + Go.seconds (later - now) * tb.rate := by
  -- Without a bucket the level is full and stays full.
  have income : 0 ≤ Go.seconds (later - now) * tb.rate :=
    mul_nonneg (Go.seconds_nonneg (by omega)) kept.steady
  unfold level
  cases tb.buckets key with
  | none => exact le_add_of_nonneg_right income
  | some bucket =>
    -- The elapsed time grows by no more than has passed.
    have elapsed : Go.seconds (Go.since later bucket.lastRefill) ≤
        Go.seconds (Go.since now bucket.lastRefill) + Go.seconds (later - now) := by
      rw [← Go.seconds_add]
      exact Go.seconds_mono (Go.since_le_add ordered)
    have more := mul_le_mul_of_nonneg_right elapsed kept.steady
    simp only [refill_tokens]
    rw [min_add]
    apply min_le_min
    · linarith
    · linarith

/-- A bucket that has just been used holds what it was left with. -/
theorem refill_now {bucket : Bucket} (capped : bucket.tokens ≤ tb.capacity)
    (used : bucket.lastRefill = now) : (tb.refill bucket now).tokens = bucket.tokens := by
  -- No time has passed, so that nothing comes in.
  have elapsed : Go.since now bucket.lastRefill = 0 := by
    rw [used]
    simp [Go.since, Go.minDuration, Go.maxDuration]
  rw [refill_tokens, elapsed]
  simpa [Go.seconds] using capped

/-- The bucket that a request uses holds as many tokens as the level says. -/
theorem Kept.refill_bucketOf {clock created : Int} (kept : tb.Kept clock) (key : String)
    (ordered : created ≤ now) :
    (tb.refill (tb.bucketOf key created) now).tokens = tb.level key now := by
  -- A key without a bucket gets one when it is first used.
  unfold level bucketOf
  cases tb.buckets key with
  | none =>
    -- A bucket made a moment ago is full, whatever has come in since.
    have elapsed : 0 ≤ Go.seconds (Go.since now created) * tb.rate :=
      mul_nonneg (Go.seconds_nonneg (Go.since_nonneg ordered)) kept.steady
    simp only [Option.getD_none, refill_tokens]
    exact min_eq_left (le_add_of_nonneg_right elapsed)
  | some bucket => rfl

/-- The tokens that a request leaves: it takes one if there is one. -/
def left (tb : TokenBucket) (key : String) (now : Int) : ℚ :=
  if 1 ≤ tb.level key now then tb.level key now - 1 else tb.level key now

/-- The limiter is the one before, with other buckets and counters. -/
structure SameLimits (tb next : TokenBucket) : Prop where
  rate : next.rate = tb.rate
  capacity : next.capacity = tb.capacity
  bucketTTL : next.bucketTTL = tb.bucketTTL

/-- A request is admitted if there is a token for it, and leaves the bucket of its key. -/
theorem Kept.allow_eq {clock created : Int} (kept : tb.Kept clock) (key : String)
    (ordered : created ≤ now) :
    (tb.allow key created now).2 = decide (1 ≤ tb.level key now) ∧
    (tb.allow key created now).1.buckets =
      Function.update tb.buckets key (some ⟨tb.left key now, now⟩) ∧
    tb.SameLimits (tb.allow key created now).1 := by
  -- Both branches write back the refilled bucket, one of them with a token less.
  have tokens := kept.refill_bucketOf key ordered
  unfold allow left
  rw [← tokens]
  split
  · rename_i enough
    rw [if_pos enough]
    exact ⟨(decide_eq_true enough).symm, rfl, rfl, rfl, rfl⟩
  · rename_i short
    rw [if_neg short]
    exact ⟨(decide_eq_false short).symm, rfl, rfl, rfl, rfl⟩

/-- What a request leaves is within the capacity. -/
theorem Kept.left_mem {clock : Int} (kept : tb.Kept clock) (key : String)
    (ordered : clock ≤ now) :
    0 ≤ tb.left key now ∧ tb.left key now ≤ tb.capacity := by
  -- A token is taken only if there is one.
  have within := kept.level_mem key ordered
  unfold left
  split
  · constructor <;> linarith
  · exact within

/-- A request keeps the buckets within their limits. -/
theorem Kept.allow {clock created : Int} (kept : tb.Kept clock) (key : String)
    (earlier : clock ≤ created) (ordered : created ≤ now) :
    (tb.allow key created now).1.Kept now := by
  -- Only the bucket of the key is written, at the time of the request.
  obtain ⟨_, buckets, rate, capacity, _⟩ := kept.allow_eq key ordered
  have within := kept.left_mem key (le_trans earlier ordered)
  refine ⟨rate ▸ kept.steady, capacity ▸ kept.positive, ?_, ?_⟩
  · intro other bucket found
    rw [buckets] at found
    rw [capacity]
    by_cases same : other = key
    · rw [same, Function.update_self] at found
      cases found
      exact within
    · rw [Function.update_of_ne same] at found
      exact kept.tokens other bucket found
  · intro other bucket found
    rw [buckets] at found
    by_cases same : other = key
    · rw [same, Function.update_self] at found
      cases found
      exact le_refl now
    · rw [Function.update_of_ne same] at found
      exact le_trans (kept.past other bucket found) (le_trans earlier ordered)

/-- A request takes a token of its own key, and none of another. -/
theorem Kept.allow_level {clock created : Int} (kept : tb.Kept clock) (key other : String)
    (earlier : clock ≤ created) (ordered : created ≤ now) :
    (tb.allow key created now).1.level other now =
      if other = key then tb.left key now else tb.level other now := by
  -- The bucket of the key has just been used, and the others were not touched.
  obtain ⟨_, buckets, rate, capacity, _⟩ := kept.allow_eq key ordered
  have within := kept.left_mem key (le_trans earlier ordered)
  by_cases same : other = key
  · rw [if_pos same, level, buckets, same, Function.update_self]
    exact refill_now (by rw [capacity]; exact within.2) rfl
  · rw [if_neg same, level, buckets, Function.update_of_ne same]
    simp only [level, refill, rate, capacity]

/-- A bucket is forgotten when it has not been used for longer than it is kept. -/
theorem cleanup_buckets {key : String} {bucket : Bucket} (found : tb.buckets key = some bucket) :
    (tb.cleanup now).buckets key =
      if Go.since now bucket.lastRefill > tb.bucketTTL then none else some bucket := by
  -- The filter keeps what is not stale.
  simp only [cleanup, found, Option.filter_some]
  by_cases stale : Go.since now bucket.lastRefill > tb.bucketTTL
  · simp [stale]
  · simp [stale]

/-- Buckets that are forgotten are full by then, if they fill up while they are kept. -/
theorem Kept.cleanup_level {clock : Int} (kept : tb.Kept clock)
    (fills : (tb.capacity : ℚ) ≤ tb.rate * Go.seconds (tb.bucketTTL + 1)) (key : String) :
    (tb.cleanup now).level key now = tb.level key now := by
  -- A bucket that is kept is as full as it was.
  cases found : tb.buckets key with
  | none => simp [level, cleanup, found]
  | some bucket =>
    simp only [level, cleanup_buckets found, found]
    by_cases stale : Go.since now bucket.lastRefill > tb.bucketTTL
    · -- A whole nanosecond more than it is kept has passed, and has filled it.
      have elapsed := Go.seconds_mono (Int.add_one_le_of_lt stale)
      have income := mul_le_mul_of_nonneg_right elapsed kept.steady
      have tokens := (kept.tokens key bucket found).1
      simp only [if_pos stale]
      rw [refill_tokens, min_eq_left]
      · rfl
      · linarith
    · simp only [if_neg stale]
      rfl

/-- Forgetting buckets keeps the others within their limits. -/
theorem Kept.cleanup {clock : Int} (kept : tb.Kept clock) (ordered : clock ≤ now) :
    (tb.cleanup now).Kept now := by
  -- What is left was there before.
  have remains {key : String} {bucket : Bucket}
      (found : (tb.cleanup now).buckets key = some bucket) : tb.buckets key = some bucket := by
    simp only [TokenBucket.cleanup, Option.filter_eq_some_iff] at found
    exact found.1
  refine ⟨kept.steady, kept.positive, ?_, ?_⟩
  · intro key bucket found
    exact kept.tokens key bucket (remains found)
  · intro key bucket found
    exact le_trans (kept.past key bucket (remains found)) ordered

end TokenBucket

/-- What happens to a limiter that nobody resets. -/
inductive LimiterEvent where
  -- A request, with its two readings of the clock.
  | allow (key : String) (created now : Int)
  | cleanup (now : Int)
  deriving DecidableEq

/-- A limiter with the latest reading of the clock, and the requests admitted so far. -/
structure Limiting where
  limiter : TokenBucket
  clock : Int
  admitted : List (String × Int)

namespace Limiting

/-- A new limiter. -/
def start (rate : ℚ) (capacity : Int) (now : Int) : Limiting :=
  ⟨newTokenBucket rate capacity, now, []⟩

/-- Events happen one after the other, and the clock never runs backwards. -/
def step (state : Limiting) : LimiterEvent → Option Limiting
  | .allow key created now =>
    if state.clock ≤ created ∧ created ≤ now then
      let (limiter, allowed) := state.limiter.allow key created now
      some ⟨limiter, now, if allowed then (key, now) :: state.admitted else state.admitted⟩
    else none
  | .cleanup now =>
    if state.clock ≤ now then some { state with limiter := state.limiter.cleanup now, clock := now }
    else none

/-- How many requests for a key were admitted between two instants, both included. -/
def admissions (state : Limiting) (key : String) (first last : Int) : Nat :=
  state.admitted.countP fun entry =>
    decide (entry.1 = key ∧ first ≤ entry.2 ∧ entry.2 ≤ last)

/-- The account that a limiter keeps for a key. -/
def account (state : Limiting) (key : String) : Account ℚ where
  clock := state.clock
  level := state.limiter.level key state.clock
  drawn := (state.admitted.filter fun entry => entry.1 = key).map Prod.snd

/-- What was drawn from the account of a key are the requests admitted for it. -/
theorem account_between (state : Limiting) (key : String) (first last : Int) :
    (state.account key).between first last = state.admissions key first last := by
  -- Counting the instants of a key is counting the entries with that key.
  simp only [Account.between, account, admissions, List.countP_map, List.countP_filter]
  congr 1
  funext entry
  simp only [Function.comp_apply, Bool.decide_and]
  rw [Bool.and_comm]

/-- What a limiter has been doing is within the limits it was made with, for every key. -/
structure Sound (rate : ℚ) (capacity : Int) (state : Limiting) : Prop where
  kept : state.limiter.Kept state.clock
  rate_eq : state.limiter.rate = rate
  capacity_eq : state.limiter.capacity = capacity
  ttl_eq : state.limiter.bucketTTL = 5 * Go.minute
  accounts : ∀ key, (state.account key).Sound (capacity : ℚ) (rate / (Go.second : ℚ))

variable {rate : ℚ} {capacity : Int} {state next : Limiting}

/-- Tokens come in at a steady pace, counted in nanoseconds. -/
theorem pace_nonneg (steady : 0 ≤ rate) : 0 ≤ rate / (Go.second : ℚ) :=
  div_nonneg steady (by norm_num [Go.second])

/-- A new limiter is within its limits. -/
theorem start_sound (steady : 0 ≤ rate) (positive : 0 ≤ capacity) (now : Int) :
    (start rate capacity now).Sound rate capacity := by
  -- There are no buckets yet, and nothing has been drawn.
  refine ⟨⟨steady, positive, ?_, ?_⟩, rfl, rfl, rfl, ?_⟩
  · intro key bucket found
    cases found
  · intro key bucket found
    cases found
  · intro key
    exact Account.sound_new (pace_nonneg steady) (Int.cast_nonneg positive) (le_refl _)

/-- The rate of a limiter within its limits is not negative. -/
theorem Sound.steady (sound : state.Sound rate capacity) : 0 ≤ rate := by
  rw [← sound.rate_eq]
  exact sound.kept.steady

/-- Waiting keeps every account within its limits. -/
theorem Sound.wait (sound : state.Sound rate capacity) (key : String) {now : Int}
    (later : state.clock ≤ now) :
    ((state.account key).wait now (state.limiter.level key now)).Sound (capacity : ℚ)
      (rate / (Go.second : ℚ)) := by
  -- The limiter counts in seconds, and the account in nanoseconds.
  have within := sound.kept.level_mem key later
  have risen := sound.kept.level_le key later
  rw [sound.capacity_eq] at within
  rw [sound.rate_eq] at risen
  apply (sound.accounts key).wait (pace_nonneg sound.steady) later within.1 within.2
  calc state.limiter.level key now
      ≤ state.limiter.level key state.clock + Go.seconds (now - state.clock) * rate := risen
    _ = _ := by
      simp only [Go.seconds, account]
      ring

/-- The account of a key after a request: a unit is drawn if the request is admitted. -/
theorem account_allow (kept : state.limiter.Kept state.clock) {key : String} {created now : Int}
    (earlier : state.clock ≤ created) (ordered : created ≤ now)
    (taken : state.step (.allow key created now) = some next) (other : String) :
    next.account other =
      let waited := (state.account other).wait now (state.limiter.level other now)
      if other = key ∧ 1 ≤ state.limiter.level key now then waited.draw else waited := by
  -- The request is admitted exactly when the level is at least one.
  obtain ⟨admits, _, _⟩ := kept.allow_eq key ordered
  have level := kept.allow_level key other earlier ordered
  simp only [step, if_pos (And.intro earlier ordered), Option.some.injEq] at taken
  subst taken
  by_cases enough : 1 ≤ state.limiter.level key now
  · rw [decide_eq_true enough] at admits
    by_cases same : other = key
    · subst same
      simp [account, admits, level, enough, TokenBucket.left, Account.wait, Account.draw]
    · simp [account, admits, level, same, Ne.symm same, Account.wait]
  · -- The request is turned away, and the bucket is as full as it was.
    rw [decide_eq_false enough] at admits
    have unchanged : (state.limiter.allow key created now).1.level other now =
        state.limiter.level other now := by
      rw [level, TokenBucket.left, if_neg enough]
      split
      · rename_i same
        rw [same]
      · rfl
    simp [account, admits, unchanged, enough, Account.wait]

/-- Every step keeps the limits, if buckets fill up while they are kept. -/
theorem step_sound (fills : (capacity : ℚ) ≤ rate * Go.seconds (5 * Go.minute + 1))
    {event : LimiterEvent} (sound : state.Sound rate capacity)
    (taken : state.step event = some next) : next.Sound rate capacity := by
  -- A request waits and perhaps draws, and a cleanup only waits.
  cases event with
  | allow key created now =>
    have times : state.clock ≤ created ∧ created ≤ now := by
      by_contra wrong
      simp [step, wrong] at taken
    have accounts := account_allow sound.kept times.1 times.2 taken
    obtain ⟨_, _, limits⟩ := sound.kept.allow_eq key times.2
    have kept := sound.kept.allow key times.1 times.2
    simp only [step, if_pos times, Option.some.injEq] at taken
    subst taken
    refine ⟨kept, limits.rate.trans sound.rate_eq, limits.capacity.trans sound.capacity_eq,
      limits.bucketTTL.trans sound.ttl_eq, ?_⟩
    intro other
    have waited := sound.wait other (le_trans times.1 times.2)
    rw [accounts other]
    simp only
    split
    · rename_i admitted
      exact waited.draw (pace_nonneg sound.steady) (admitted.1 ▸ admitted.2)
    · exact waited
  | cleanup now =>
    simp only [step] at taken
    split at taken
    · rename_i later
      cases taken
      refine ⟨sound.kept.cleanup later, sound.rate_eq, sound.capacity_eq, sound.ttl_eq, ?_⟩
      intro key
      have waited := sound.wait key later
      rw [← sound.kept.cleanup_level (by
        rw [sound.rate_eq, sound.capacity_eq, sound.ttl_eq]
        exact fills)] at waited
      exact waited
    · cases taken

/-- Within its limits, a limiter keeps to its rate in every interval. -/
theorem Sound.admissions_le (sound : state.Sound rate capacity) (key : String) {first last : Int}
    (ordered : first ≤ last) :
    (state.admissions key first last : ℚ) ≤ capacity + rate * Go.seconds (last - first) := by
  -- The account counts in nanoseconds.
  have within := (sound.accounts key).within first last ordered
  rw [account_between] at within
  calc (state.admissions key first last : ℚ)
      ≤ capacity + rate / (Go.second : ℚ) * ((last - first : Int) : ℚ) := within
    _ = capacity + rate * Go.seconds (last - first) := by
      simp only [Go.seconds]
      ring

/-- The bucket of a key was last used at an instant. -/
def UsedAt (state : Limiting) (key : String) (now : Int) : Prop :=
  ∃ tokens, state.limiter.buckets key = some ⟨tokens, now⟩

/-- Requests for a key at one instant are admitted as long as there are tokens for them. -/
theorem drains (key : String) {now : Int} {requests : Nat}
    (kept : state.limiter.Kept state.clock) (clock : state.clock = now)
    (enough : (requests : ℚ) ≤ state.limiter.level key now) :
    ∃ drained : Limiting,
      exec step state (List.replicate requests (.allow key now now)) = some drained ∧
      drained.limiter.Kept drained.clock ∧ drained.clock = now ∧
      state.limiter.SameLimits drained.limiter ∧
      drained.admitted = List.replicate requests (key, now) ++ state.admitted ∧
      (0 < requests ∨ state.UsedAt key now → drained.UsedAt key now) := by
  -- Each request leaves one token less for those after it.
  induction requests generalizing state with
  | zero =>
    refine ⟨state, rfl, kept, clock, ⟨rfl, rfl, rfl⟩, rfl, ?_⟩
    intro given
    rcases given with none | used
    · cases none
    · exact used
  | succ requests ih =>
    have first : 1 ≤ state.limiter.level key now := by
      push_cast at enough
      have : (0 : ℚ) ≤ requests := Nat.cast_nonneg requests
      linarith
    have times : state.clock ≤ now ∧ now ≤ now := ⟨le_of_eq clock, le_refl now⟩
    obtain ⟨admits, buckets, limits⟩ := kept.allow_eq key times.2
    have level := kept.allow_level key key times.1 times.2
    rw [if_pos rfl, TokenBucket.left, if_pos first] at level
    rw [decide_eq_true first] at admits
    -- One request takes one token, and the others find the rest.
    let after : Limiting := ⟨(state.limiter.allow key now now).1, now, (key, now) :: state.admitted⟩
    have taken : state.step (.allow key now now) = some after := by
      simp [step, times.1, admits, after]
    obtain ⟨drained, ran, still, reached, same, admitted, used⟩ := ih
      (show after.limiter.Kept after.clock from kept.allow key times.1 times.2) rfl (by
        push_cast at enough
        rw [show after.limiter.level key now = state.limiter.level key now - 1 from level]
        linarith)
    refine ⟨drained, ?_, still, reached, ⟨same.rate.trans limits.rate,
      same.capacity.trans limits.capacity, same.bucketTTL.trans limits.bucketTTL⟩, ?_, ?_⟩
    · rw [List.replicate_succ]
      exact exec_cons_eq_some.mpr ⟨after, taken, ran⟩
    · rw [admitted, List.replicate_succ']
      simp [after]
    · intro _
      apply used
      right
      exact ⟨state.limiter.left key now, by simp [after, buckets]⟩

/-- A drained bucket is forgotten before it has filled up, and then drained again. -/
theorem exists_double_draw (steady : 0 ≤ rate) (positive : 1 ≤ capacity) :
    ∃ trace state, exec step (start rate capacity 0) trace = some state ∧
      state.admissions "" 0 (5 * Go.minute + 1) = 2 * capacity.toNat := by
  have whole : ((capacity.toNat : Nat) : ℚ) = capacity := by
    exact_mod_cast Int.toNat_of_nonneg (by omega)
  have sound := start_sound steady (show 0 ≤ capacity by omega) 0
  -- The first requests drain a new bucket.
  obtain ⟨drained, ran, kept, clock, limits, admitted, used⟩ :=
    drains "" sound.kept (show (start rate capacity 0).clock = 0 from rfl) (le_of_eq whole)
  obtain ⟨tokens, found⟩ := used (.inl (by omega))
  -- The bucket is forgotten a nanosecond after its time.
  let later : Int := 5 * Go.minute + 1
  have ordered : drained.clock ≤ later := by
    rw [clock]
    exact (by decide : (0 : Int) ≤ 5 * Go.minute + 1)
  have stale : Go.since later 0 > drained.limiter.bucketTTL := by
    rw [limits.bucketTTL]
    exact (by decide : Go.since (5 * Go.minute + 1) 0 > 5 * Go.minute)
  let forgotten : Limiting := ⟨drained.limiter.cleanup later, later, drained.admitted⟩
  have taken : drained.step (.cleanup later) = some forgotten := by
    simp [step, ordered, forgotten]
  have full : forgotten.limiter.level "" later = capacity := by
    simp only [forgotten, TokenBucket.level, TokenBucket.cleanup_buckets found]
    rw [if_pos stale]
    exact congrArg Int.cast limits.capacity
  obtain ⟨final, again, _, _, _, all, _⟩ :=
    drains "" (show forgotten.limiter.Kept forgotten.clock from kept.cleanup ordered)
      (show forgotten.clock = later from rfl) (le_of_eq (whole.trans full.symm))
  refine ⟨_, final, exec_trans ran (exec_cons_eq_some.mpr ⟨forgotten, taken, again⟩), ?_⟩
  -- All of these requests lie within the interval.
  rw [admissions, all, show forgotten.admitted = drained.admitted from rfl, admitted]
  simp [List.countP_replicate, start, later, Go.minute, Go.second, two_mul]

/--
A token bucket keeps to its rate in every interval, whatever the requests, exactly when a drained
bucket fills up in the time for which it is kept.

Otherwise a bucket is forgotten before it has filled up, and the next request finds a full one.
-/
theorem rate_bounded_iff_fills (steady : 0 ≤ rate) (positive : 1 ≤ capacity) :
    (∀ now trace state, exec step (start rate capacity now) trace = some state →
      ∀ key first last, first ≤ last →
        (state.admissions key first last : ℚ) ≤ capacity + rate * Go.seconds (last - first)) ↔
      (capacity : ℚ) ≤ rate * Go.seconds (5 * Go.minute + 1) := by
  -- A bucket drained twice in an interval must not exceed what the interval allows.
  constructor
  · intro bounded
    obtain ⟨trace, state, ran, twice⟩ := exists_double_draw steady positive
    have bound := bounded 0 trace state ran "" 0 (5 * Go.minute + 1) (by decide)
    have whole : ((capacity.toNat : Nat) : ℚ) = capacity := by
      exact_mod_cast Int.toNat_of_nonneg (by omega)
    rw [twice] at bound
    push_cast [whole] at bound
    rw [sub_zero] at bound
    linarith
  · intro fills now trace state ran key first last ordered
    have sound := exec_invariant (Sound rate capacity)
      (fun _ _ _ sound taken => step_sound fills sound taken)
      (start_sound steady (by omega) now) ran
    exact sound.admissions_le key ordered

/-- Twelve requests come in at the same moment. -/
def burst : List LimiterEvent := List.replicate 12 (.allow "" 0 0)

/-- Of twelve requests at the same moment, ten tokens that come in at one a second admit ten. -/
theorem ten_tokens_keep_to_one_a_second :
    ∃ state, exec step (start 1 10 0) burst = some state ∧ state.admissions "" 0 0 = 10 ∧
      (state.admissions "" 0 0 : ℚ) ≤ (10 : Int) + 1 * Go.seconds (0 - 0) := by
  -- Five minutes are enough for ten tokens.
  have fills : ((10 : Int) : ℚ) ≤ 1 * Go.seconds (5 * Go.minute + 1) := by
    norm_num [Go.seconds, Go.minute, Go.second]
  have ran : exec step (start 1 10 0) burst = some _ := rfl
  exact ⟨_, ran, by decide +kernel,
    (rate_bounded_iff_fills zero_le_one (by decide)).mpr fills 0 burst _ ran "" 0 0 (by decide)⟩

/-- A single token is used, forgotten five minutes later, and used again. -/
def useTwice : List LimiterEvent :=
  [.allow "" 0 0, .cleanup (5 * Go.minute + 1), .allow "" (5 * Go.minute + 1) (5 * Go.minute + 1)]

/-- At one token in a thousand seconds, five minutes are not enough for a second request. -/
theorem forgotten_bucket_exceeds_rate :
    ∃ state, exec step (start (1 / 1000) 1 0) useTwice = some state ∧
      state.admissions "" 0 (5 * Go.minute + 1) = 2 ∧
      ((1 : Int) : ℚ) + 1 / 1000 * Go.seconds (5 * Go.minute + 1 - 0) < 2 := by
  refine ⟨_, rfl, by decide +kernel, ?_⟩
  norm_num [Go.seconds, Go.minute, Go.second]

end Limiting

end Balance
