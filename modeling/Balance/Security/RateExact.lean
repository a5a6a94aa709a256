import Balance.Security.RateBound

/-! A token bucket refuses a request only if it has to, to keep to its rate. -/

namespace Balance

open Machine

namespace TokenBucket

variable {tb : TokenBucket} {now later : Int}

/-- While time passes, the level rises by the tokens that come in, as far as they fit. -/
theorem Kept.level_eq (kept : tb.Kept now) (key : String) (ordered : now ≤ later)
    (recent : ∀ bucket, tb.buckets key = some bucket →
      later - bucket.lastRefill ≤ Go.maxDuration) :
    tb.level key later =
      min (tb.capacity : ℚ) (tb.level key now + Go.seconds (later - now) * tb.rate) := by
  -- Without a bucket the level is full and stays full.
  have income : 0 ≤ Go.seconds (later - now) * tb.rate :=
    mul_nonneg (Go.seconds_nonneg (by omega)) kept.steady
  unfold level
  cases found : tb.buckets key with
  | none =>
    exact (min_eq_left (le_add_of_nonneg_right income)).symm
  | some bucket =>
    -- The time since the last refill is the time until now and what has passed from now on.
    have past := kept.past key bucket found
    have fits := recent bucket found
    have elapsed (instant : Int) (after : now ≤ instant) (before : instant ≤ later) :
        Go.since instant bucket.lastRefill = instant - bucket.lastRefill := by
      unfold Go.since Go.minDuration Go.maxDuration at *
      omega
    have split : Go.seconds (later - bucket.lastRefill) =
        Go.seconds (now - bucket.lastRefill) + Go.seconds (later - now) := by
      rw [← Go.seconds_add]
      congr 1
      omega
    simp only [refill_tokens, elapsed later ordered (le_refl _),
      elapsed now (le_refl _) ordered, split, add_mul]
    rw [← min_add_add_right, ← min_assoc, min_eq_left (le_add_of_nonneg_right income), add_assoc]

end TokenBucket

namespace Limiting

variable {rate : ℚ} {capacity : Int} {state next : Limiting} {origin : Int}

/-- A limiter that has wasted no tokens, since an instant from which it has been in use. -/
structure Greedy (rate : ℚ) (capacity origin : Int) (state : Limiting) : Prop where
  kept : state.limiter.Kept state.clock
  rate_eq : state.limiter.rate = rate
  capacity_eq : state.limiter.capacity = capacity
  begun : origin ≤ state.clock
  recent : ∀ key bucket, state.limiter.buckets key = some bucket → origin ≤ bucket.lastRefill
  past : ∀ entry ∈ state.admitted, entry.2 ≤ state.clock
  accounts : ∀ key, (state.account key).Tight (capacity : ℚ) (rate / (Go.second : ℚ))

/-- A new limiter has wasted nothing. -/
theorem start_greedy (steady : 0 ≤ rate) (positive : 0 ≤ capacity) (now : Int) :
    (start rate capacity now).Greedy rate capacity now := by
  -- There are no buckets yet, so that every key finds a full one.
  refine ⟨(start_sound steady positive now).kept, rfl, rfl, le_refl _, ?_, by simp [start], ?_⟩
  · intro key bucket found
    cases found
  · intro key
    exact Account.tight_of_full (le_refl _)

/-- Waiting wastes nothing, for as long as a duration can hold. -/
theorem Greedy.wait (greedy : state.Greedy rate capacity origin) (key : String) {now : Int}
    (later : state.clock ≤ now) (span : now - origin ≤ Go.maxDuration) :
    ((state.account key).wait now (state.limiter.level key now)).Tight (capacity : ℚ)
      (rate / (Go.second : ℚ)) := by
  -- The limiter counts in seconds, and the account in nanoseconds.
  have level := greedy.kept.level_eq key later fun bucket found => by
    have := greedy.recent key bucket found
    omega
  rw [greedy.capacity_eq, greedy.rate_eq] at level
  have pace : Go.seconds (now - state.clock) * rate =
      rate / (Go.second : ℚ) * ((now - state.clock : Int) : ℚ) := by
    simp only [Go.seconds]
    ring
  apply (greedy.accounts key).wait later
  rw [level, pace]
  exact le_refl _

/-- Every step wastes nothing, for as long as a duration can hold. -/
theorem Greedy.step (greedy : state.Greedy rate capacity origin) {event : LimiterEvent}
    (taken : state.step event = some next) (span : next.clock - origin ≤ Go.maxDuration) :
    next.Greedy rate capacity origin := by
  -- A request waits and perhaps draws, and a cleanup waits and may fill buckets up.
  cases event with
  | allow key created now =>
    have times : state.clock ≤ created ∧ created ≤ now := by
      by_contra wrong
      simp [Limiting.step, wrong] at taken
    have later := le_trans times.1 times.2
    have accounts := account_allow greedy.kept times.1 times.2 taken
    obtain ⟨_, buckets, limits⟩ := greedy.kept.allow_eq key times.2
    have kept := greedy.kept.allow key times.1 times.2
    simp only [Limiting.step, if_pos times, Option.some.injEq] at taken
    subst taken
    refine ⟨kept, limits.rate.trans greedy.rate_eq, limits.capacity.trans greedy.capacity_eq,
      le_trans greedy.begun later, ?_, ?_, ?_⟩
    · intro other bucket found
      dsimp only at found
      rw [buckets] at found
      by_cases same : other = key
      · rw [same, Function.update_self] at found
        cases found
        exact le_trans greedy.begun later
      · rw [Function.update_of_ne same] at found
        exact greedy.recent other bucket found
    · intro entry listed
      dsimp only at listed
      split at listed
      · rcases List.mem_cons.mp listed with rfl | listed
        · exact le_refl _
        · exact le_trans (greedy.past entry listed) later
      · exact le_trans (greedy.past entry listed) later
    · intro other
      have waited := greedy.wait other later span
      rw [accounts other]
      dsimp only
      split
      · exact waited.draw
      · exact waited
  | cleanup now =>
    simp only [Limiting.step] at taken
    split at taken
    case isFalse => cases taken
    case isTrue later =>
      cases taken
      refine ⟨greedy.kept.cleanup later, greedy.rate_eq, greedy.capacity_eq,
        le_trans greedy.begun later, ?_, ?_, ?_⟩
      · intro key bucket found
        exact greedy.recent key bucket (Option.filter_eq_some_iff.mp found).1
      · intro entry listed
        exact le_trans (greedy.past entry listed) later
      · intro key
        -- A bucket that is forgotten leaves a full one, and one that is kept is as it was.
        cases left : (state.limiter.cleanup now).buckets key with
        | none =>
          apply Account.tight_of_full
          simp only [account, TokenBucket.level, left]
          rw [← greedy.capacity_eq]
          exact le_refl _
        | some bucket =>
          have found := (Option.filter_eq_some_iff.mp left).1
          have waited := greedy.wait key later span
          have level : (state.limiter.cleanup now).level key now = state.limiter.level key now := by
            simp only [TokenBucket.level, left, found]
            rfl
          rw [← level] at waited
          exact waited

/-- Every run wastes nothing, for as long as a duration can hold. -/
theorem exec_greedy (steady : 0 ≤ rate) (positive : 0 ≤ capacity) {trace : List LimiterEvent}
    (ran : exec step (start rate capacity origin) trace = some state)
    (span : state.clock - origin ≤ Go.maxDuration) : state.Greedy rate capacity origin := by
  -- The clock does not run backwards, so that it was no later before.
  refine exec_invariant (fun state => state.clock - origin ≤ Go.maxDuration →
    state.Greedy rate capacity origin) ?_ (fun _ => start_greedy steady positive origin) ran span
  intro state event next greedy taken span
  have later : state.clock ≤ next.clock := by
    cases event <;> simp only [step] at taken <;> split at taken <;> cases taken
    case allow.isTrue times => exact le_trans times.1 times.2
    case cleanup.isTrue later => exact later
  exact (greedy (by omega)).step taken span

/-- What was drawn since an instant was drawn between that instant and any later one than now. -/
theorem Greedy.account_since (greedy : state.Greedy rate capacity origin) (key : String)
    {first now : Int} (later : state.clock ≤ now) :
    (state.account key).since first = state.admissions key first now := by
  -- Nothing was admitted later than now.
  simp only [Account.since, account, admissions, List.countP_map, List.countP_filter]
  apply List.countP_congr
  intro entry listed
  have past := le_trans (greedy.past entry listed) later
  simp [past, and_comm]

/-- What a request adds to the admissions until now, if it is admitted. -/
theorem admissions_allow {key : String} {created now first : Int}
    (times : state.clock ≤ created ∧ created ≤ now) (ordered : first ≤ now)
    (granted : (state.limiter.allow key created now).2 = true)
    (taken : state.step (.allow key created now) = some next) :
    next.admissions key first now = state.admissions key first now + 1 := by
  simp only [step, if_pos times, granted, Option.some.injEq] at taken
  subst taken
  simp [admissions, ordered]

/--
A request is refused only if with it more would be admitted, in some interval until now, than the
capacity and the rate allow. If buckets fill up while they are kept, it is refused whenever that
is so.
-/
theorem refused_iff_exceeds_rate (steady : 0 ≤ rate) (positive : 0 ≤ capacity)
    {trace : List LimiterEvent} (ran : exec step (start rate capacity origin) trace = some state)
    {key : String} {created now : Int} (times : state.clock ≤ created ∧ created ≤ now)
    (span : now - origin ≤ Go.maxDuration) :
    ((state.limiter.allow key created now).2 = false →
      ∃ first ≤ now, (capacity : ℚ) + rate * Go.seconds (now - first) <
        (state.admissions key first now : ℚ) + 1) ∧
    ((capacity : ℚ) ≤ rate * Go.seconds (5 * Go.minute + 1) →
      (∃ first ≤ now, (capacity : ℚ) + rate * Go.seconds (now - first) <
        (state.admissions key first now : ℚ) + 1) →
      (state.limiter.allow key created now).2 = false) := by
  have later := le_trans times.1 times.2
  have greedy := exec_greedy steady positive ran (by omega)
  constructor
  · -- Since the bucket was last full, all that came in was used.
    intro refused
    have short : state.limiter.level key now < 1 := by
      rw [(greedy.kept.allow_eq key times.2).1] at refused
      exact not_le.mp (of_decide_eq_false refused)
    obtain ⟨first, ordered, exceeds⟩ := (greedy.wait key later span).exceeds short
    refine ⟨first, ordered, ?_⟩
    rw [← greedy.account_since key later]
    calc (capacity : ℚ) + rate * Go.seconds (now - first)
        = capacity + rate / (Go.second : ℚ) * ((now - first : Int) : ℚ) := by
          simp only [Go.seconds]
          ring
      _ < _ := exceeds
  · -- Admitting it would break the bound that the limiter keeps to.
    rintro fills ⟨first, ordered, exceeds⟩
    by_contra granted
    rw [Bool.not_eq_false] at granted
    have sound := exec_invariant (Sound rate capacity)
      (fun _ _ _ sound taken => step_sound fills sound taken) (start_sound steady positive origin)
      ran
    have taken : state.step (.allow key created now) = some _ := if_pos times
    have bound := (step_sound fills sound taken).admissions_le key ordered
    rw [admissions_allow times ordered granted taken] at bound
    push_cast at bound
    linarith

/-- A third request at one moment is refused by two tokens, and would be one too many. -/
theorem refused_iff_exceeds_rate_third :
    ∃ state, exec step (start 1 2 0) [.allow "" 0 0, .allow "" 0 0] = some state ∧
      (state.limiter.allow "" 0 0).2 = false ∧
      ∃ first ≤ 0, ((2 : Int) : ℚ) + 1 * Go.seconds (0 - first) <
        (state.admissions "" first 0 : ℚ) + 1 := by
  obtain ⟨state, ran, clock, refused⟩ :
      ∃ state, exec step (start 1 2 0) [.allow "" 0 0, .allow "" 0 0] = some state ∧
        state.clock = 0 ∧ (state.limiter.allow "" 0 0).2 = false :=
    ⟨_, rfl, rfl, by decide +kernel⟩
  exact ⟨state, ran, refused,
    (refused_iff_exceeds_rate zero_le_one (by decide) ran ⟨by omega, le_refl _⟩
      (by decide)).1 refused⟩

end Limiting

end Balance
