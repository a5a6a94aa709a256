import Balance.Machine.Answers
import Balance.Security.GuardBound
import Balance.Security.SlidingWindow

/-! Limiters that are asked one after the other, and what a refused request costs them. -/

namespace Balance

open Machine

namespace TokenBucket

variable {tb other : TokenBucket} {key : String} {created now : Int}

/-- Every bucket was refilled at a reading of the clock. -/
def Read (tb : TokenBucket) : Prop :=
  ∀ key bucket, tb.buckets key = some bucket → ∃ reading : Go.Reading,
    bucket.lastRefill = reading.instant

/-- The bucket that a request finds, refilled. -/
def found (tb : TokenBucket) (key : String) (created now : Int) : Bucket :=
  tb.refill (tb.bucketOf key created) now

/-- What a request leaves in a bucket: it takes a token if there is one. -/
def charge (bucket : Bucket) : Bucket :=
  if 1 ≤ bucket.tokens then { bucket with tokens := bucket.tokens - 1 } else bucket

/-- A request is admitted if it finds a token, and leaves the rest. -/
theorem allow_spec (tb : TokenBucket) (key : String) (created now : Int) :
    (tb.allow key created now).2 = decide (1 ≤ (tb.found key created now).tokens) ∧
      (tb.allow key created now).1.buckets =
        Function.update tb.buckets key (some (charge (tb.found key created now))) ∧
      (tb.allow key created now).1.rate = tb.rate ∧
      (tb.allow key created now).1.capacity = tb.capacity := by
  -- Both outcomes write the bucket of the key and a counter.
  unfold allow charge found
  dsimp only
  split
  case isTrue enough => simp [ge_iff_le.mp enough]
  case isFalse short => simp [not_le.mp short]

/-- A bucket is refilled up to the capacity at most. -/
theorem found_tokens_le : (tb.found key created now).tokens ≤ tb.capacity := by
  rw [found, refill_tokens]
  exact min_le_left _ _

/-- What is left in a bucket is no more than was found. -/
theorem charge_tokens_le (bucket : Bucket) : (charge bucket).tokens ≤ bucket.tokens := by
  unfold charge
  split
  · exact sub_le_self _ zero_le_one
  · exact le_refl _

/-- A limiter with another entry for a key finds what is written there, and the rest as before. -/
theorem found_of_update {next : TokenBucket} {entry : Option Bucket}
    (buckets : next.buckets = Function.update tb.buckets key entry) (rate : next.rate = tb.rate)
    (capacity : next.capacity = tb.capacity) (other : String) :
    next.found other created now =
      if other = key then tb.refill (entry.getD ⟨tb.capacity, created⟩) now
      else tb.found other created now := by
  by_cases same : other = key
  · simp [found, bucketOf, refill, buckets, rate, capacity, same]
  · simp [found, bucketOf, refill, buckets, rate, capacity, same]

/-- A refill depends on the rate and the capacity only. -/
theorem refill_congr {bucket : Bucket} (rate : tb.rate = other.rate)
    (capacity : tb.capacity = other.capacity) : tb.refill bucket now = other.refill bucket now := by
  rw [refill, refill, rate, capacity]

/-- A refill that does not fill the bucket is no loss to a later one. -/
theorem refill_refill {bucket : Bucket} {earlier now later : Go.Reading}
    (last : bucket.lastRefill = earlier.instant)
    (short : (tb.refill bucket now.instant).tokens < tb.capacity) :
    tb.refill (tb.refill bucket now.instant) later.instant = tb.refill bucket later.instant := by
  -- Nothing was cut off, so that the two intervals add up.
  have uncut : (tb.refill bucket now.instant).tokens =
      bucket.tokens + Go.seconds (now.instant - earlier.instant) * tb.rate := by
    rw [refill_tokens, last, Go.since_reading] at short ⊢
    exact min_eq_right (le_of_lt ((min_lt_iff.mp short).resolve_left (lt_irrefl _)))
  have whole : Go.seconds (later.instant - earlier.instant) =
      Go.seconds (now.instant - earlier.instant) + Go.seconds (later.instant - now.instant) := by
    rw [← Go.seconds_add]
    congr 1
    omega
  have tokens : (tb.refill (tb.refill bucket now.instant) later.instant).tokens =
      (tb.refill bucket later.instant).tokens := by
    have middle : (tb.refill bucket now.instant).lastRefill = now.instant := rfl
    rw [refill_tokens, uncut, middle, refill_tokens, last, Go.since_reading, Go.since_reading,
      whole]
    congr 1
    ring
  exact congrArg (fun tokens => (⟨tokens, later.instant⟩ : Bucket)) tokens

/-- A request leaves a bucket that was refilled at a reading of the clock. -/
theorem Read.allow (read : tb.Read) (key : String) (created now : Go.Reading) :
    (tb.allow key created.instant now.instant).1.Read := by
  -- The bucket of the key was refilled by this request, and the others are those of before.
  intro other bucket stored
  rw [(tb.allow_spec key created.instant now.instant).2.1] at stored
  by_cases same : other = key
  · subst same
    rw [Function.update_self] at stored
    refine ⟨now, ?_⟩
    rw [← Option.some.inj stored, charge]
    split <;> rfl
  · rw [Function.update_of_ne same] at stored
    exact read other bucket stored

/-- Forgetting a bucket leaves the others. -/
theorem Read.reset (read : tb.Read) (key : String) : (tb.reset key).Read := by
  intro other bucket stored
  by_cases same : other = key
  · subst same
    simp [TokenBucket.reset] at stored
  · exact read other bucket (by simpa [TokenBucket.reset, Function.update_of_ne same] using stored)

/-- A cleanup pass adds no bucket. -/
theorem Read.cleanup (read : tb.Read) (now : Int) : (tb.cleanup now).Read := by
  intro key bucket stored
  exact read key bucket (Option.filter_eq_some_iff.mp stored).1

end TokenBucket

namespace SlidingWindow

variable {sw : SlidingWindow} {key : String}

/-- A limiter with another record for a key counts what is kept there, and the rest as before. -/
theorem counted_of_record {next : SlidingWindow} {kept : List Int}
    (length : next.window = sw.window)
    (record : ∀ other, next.onRecord other = if other = key then kept else sw.onRecord other)
    (other : String) (now : Int) : next.counted other now =
      if other = key then kept.filter fun t => now + Go.wrap64 (-sw.window) < t
      else sw.counted other now := by
  rw [counted, record, length]
  split <;> rfl

/-- If an instant counts at itself, a request that is admitted counts beside those before it. -/
theorem Filed.counted_allow (filed : sw.Filed) (itself : Go.wrap64 (-sw.window) < 0)
    (key : String) (now : Int) :
    ((sw.allow key now).1.counted key now).length =
      (sw.counted key now).length + if (sw.allow key now).2 then 1 else 0 := by
  -- Those that count go on counting at the same instant.
  obtain ⟨_, _, length, outcome⟩ := filed.allow_counted key now
  have again : (sw.counted key now).filter (fun t => now + Go.wrap64 (-sw.window) < t) =
      sw.counted key now := by
    rw [counted, List.filter_filter]
    simp
  have counts : now + Go.wrap64 (-sw.window) < now := by omega
  rcases outcome with ⟨answer, _, record⟩ | ⟨answer, _, record⟩
  · rw [counted_of_record length record, if_pos rfl, List.filter_append, again, answer]
    simp [counts]
  · rw [counted_of_record length record, if_pos rfl, again, answer]
    simp

end SlidingWindow

/--
A limiter of one of the two kinds, in any state that it can get into.

New limiters are in such a state, and calls and cleanup passes lead to no other.
-/
inductive Limiter where
  | tokenBucket (tb : TokenBucket) (read : tb.Read)
  | slidingWindow (sw : SlidingWindow) (filed : sw.Filed)

namespace Limiter

/-- A new token bucket. -/
def newBucket (rate : ℚ) (capacity : Int) : Limiter :=
  .tokenBucket (newTokenBucket rate capacity) nofun

/-- A new sliding window. -/
def newWindow (limit window : Int) : Limiter :=
  .slidingWindow (newSlidingWindow limit window) (SlidingWindow.newSlidingWindow_filed limit window)

/-- Whether a limiter admits a request for a key. -/
def allow (limiter : Limiter) (key : String) (created now : Go.Reading) : Limiter × Bool :=
  match limiter with
  | .tokenBucket tb read =>
    (.tokenBucket (tb.allow key created.instant now.instant).1 (read.allow key created now),
      (tb.allow key created.instant now.instant).2)
  | .slidingWindow sw filed =>
    (.slidingWindow (sw.allow key now.instant).1 (filed.allow_counted key now.instant).1,
      (sw.allow key now.instant).2)

/-- Forgets what a limiter knows of a key. -/
def reset (limiter : Limiter) (key : String) : Limiter :=
  match limiter with
  | .tokenBucket tb read => .tokenBucket (tb.reset key) (read.reset key)
  | .slidingWindow sw filed => .slidingWindow (sw.reset key) (filed.reset key)

/-- A cleanup pass of a limiter, which runs beside the calls. -/
def cleanup (limiter : Limiter) (now : Go.Reading) : Limiter :=
  match limiter with
  | .tokenBucket tb read => .tokenBucket (tb.cleanup now.instant) (read.cleanup now.instant)
  | .slidingWindow sw filed => .slidingWindow (sw.cleanup now.instant) (filed.cleanup now.instant)

end Limiter

/-- A call to a limiter. -/
inductive LimiterCall where
  | allow (key : String) (created now : Go.Reading)
  | reset (key : String)

namespace Limiter

/-- The limiter after a call, and the answer if it has one. -/
def respond (limiter : Limiter) : LimiterCall → Limiter × Option Bool
  | .allow key created now =>
    let called := limiter.allow key created now
    (called.1, some called.2)
  | .reset key => (limiter.reset key, none)

/-- A call can be made at an instant: its readings of the clock do not lie before. -/
def Possible (instant : Int) : LimiterCall → Prop
  | .allow _ created now => instant ≤ created.instant ∧ created.instant ≤ now.instant
  | .reset _ => True

/-- The latest reading of the clock after a call. -/
def advance (instant : Int) : LimiterCall → Int
  | .allow _ _ now => now.instant
  | .reset _ => instant

/-- From an instant on, two limiters answer all calls the same. -/
def Alike (instant : Int) (limiter other : Limiter) : Prop :=
  ∀ calls, Paced Possible advance instant calls →
    answers respond limiter calls = answers respond other calls

/-- A limiter has room for a request: a token, or fewer requests on record than its limit. -/
def Admits (limiter : Limiter) (key : String) (created now : Go.Reading) : Prop :=
  match limiter with
  | .tokenBucket tb _ => 1 ≤ (tb.found key created.instant now.instant).tokens
  | .slidingWindow sw _ => ((sw.counted key now.instant).length : Int) < sw.limit

instance (limiter : Limiter) (key : String) (created now : Go.Reading) :
    Decidable (limiter.Admits key created now) := by
  cases limiter <;> unfold Admits <;> infer_instance

/-- A request is admitted exactly if there is room for it. -/
theorem allow_iff_admits (limiter : Limiter) (key : String) (created now : Go.Reading) :
    (limiter.allow key created now).2 = true ↔ limiter.Admits key created now := by
  -- The room is what each kind of limiter looks at.
  cases limiter with
  | tokenBucket tb read =>
    change (tb.allow key created.instant now.instant).2 = true ↔ _
    rw [(tb.allow_spec key created.instant now.instant).1, decide_eq_true_eq]
    rfl
  | slidingWindow sw filed =>
    obtain ⟨_, _, _, outcome⟩ := filed.allow_counted key now.instant
    rcases outcome with ⟨answer, room, _⟩ | ⟨answer, full, _⟩
    · exact iff_of_true answer room
    · refine iff_of_false ?_ (not_lt.mpr full)
      change ¬ (sw.allow key now.instant).2 = true
      rw [answer]
      exact Bool.false_ne_true

/--
A request leaves a trace in a limiter.

If it is admitted, it takes a token, or is counted in a window long enough for anything to count.
A refused one leaves a trace in a new bucket only, and only if that is big enough for a token:
then a negative rate has drained it between the two readings of the clock.
-/
def Spends (limiter : Limiter) (key : String) (created now : Go.Reading) : Prop :=
  match limiter with
  | .tokenBucket tb _ =>
    1 ≤ (tb.found key created.instant now.instant).tokens ∨ tb.buckets key = none ∧ 1 ≤ tb.capacity
  | .slidingWindow sw _ =>
    ((sw.counted key now.instant).length : Int) < sw.limit ∧ Go.wrap64 (-sw.window) < 0

/-- Limiters of one kind that will find the same from an instant on. -/
inductive Agree (instant : Int) : Limiter → Limiter → Prop
  -- Neither has room for a token.
  | empty {tb tb' : TokenBucket} {read : tb.Read} {read' : tb'.Read} (none : tb.capacity < 1)
      (none' : tb'.capacity < 1) : Agree instant (.tokenBucket tb read) (.tokenBucket tb' read')
  | bucket {tb tb' : TokenBucket} {read : tb.Read} {read' : tb'.Read} (rate : tb.rate = tb'.rate)
      (capacity : tb.capacity = tb'.capacity)
      (finds : ∀ key (created now : Go.Reading), instant ≤ created.instant →
        created.instant ≤ now.instant →
        tb.found key created.instant now.instant = tb'.found key created.instant now.instant) :
      Agree instant (.tokenBucket tb read) (.tokenBucket tb' read')
  | window {sw sw' : SlidingWindow} {filed : sw.Filed} {filed' : sw'.Filed}
      (limit : sw.limit = sw'.limit) (length : sw.window = sw'.window)
      (counts : ∀ key now, instant ≤ now → sw.counted key now = sw'.counted key now) :
      Agree instant (.slidingWindow sw filed) (.slidingWindow sw' filed')

variable {instant : Int}

/-- Token buckets that find the same answer a request the same, and go on finding the same. -/
theorem Agree.allow_bucket {tb tb' : TokenBucket} {read : tb.Read} {read' : tb'.Read}
    (rate : tb.rate = tb'.rate) (capacity : tb.capacity = tb'.capacity)
    (finds : ∀ key (created now : Go.Reading), instant ≤ created.instant →
      created.instant ≤ now.instant →
      tb.found key created.instant now.instant = tb'.found key created.instant now.instant)
    (key : String) {created now : Go.Reading} (later : instant ≤ created.instant)
    (ordered : created.instant ≤ now.instant) :
    ((tokenBucket tb read).allow key created now).2 =
        ((tokenBucket tb' read').allow key created now).2 ∧
      Agree now.instant ((tokenBucket tb read).allow key created now).1
        ((tokenBucket tb' read').allow key created now).1 := by
  -- Both find the same bucket, and leave the same in it.
  obtain ⟨answer, buckets, rates, capacities⟩ := tb.allow_spec key created.instant now.instant
  obtain ⟨answer', buckets', rates', capacities'⟩ := tb'.allow_spec key created.instant now.instant
  have same := finds key created now later ordered
  refine ⟨?_, .bucket ?_ ?_ ?_⟩
  · change (tb.allow key created.instant now.instant).2 =
      (tb'.allow key created.instant now.instant).2
    rw [answer, answer', same]
  · rw [rates, rates', rate]
  · rw [capacities, capacities', capacity]
  · -- Both have put the same into the bucket of the key.
    intro other created' now' later' ordered'
    rw [TokenBucket.found_of_update buckets rates capacities,
      TokenBucket.found_of_update buckets' rates' capacities', same]
    split
    · exact TokenBucket.refill_congr rate capacity
    · exact finds other created' now' (by omega) ordered'

/-- Sliding windows that count the same answer a request the same, and go on counting the same. -/
theorem Agree.allow_window {sw sw' : SlidingWindow} {filed : sw.Filed} {filed' : sw'.Filed}
    (limit : sw.limit = sw'.limit) (length : sw.window = sw'.window)
    (counts : ∀ key now, instant ≤ now → sw.counted key now = sw'.counted key now)
    (key : String) (created : Go.Reading) {now : Go.Reading} (later : instant ≤ now.instant) :
    ((slidingWindow sw filed).allow key created now).2 =
        ((slidingWindow sw' filed').allow key created now).2 ∧
      Agree now.instant ((slidingWindow sw filed).allow key created now).1
        ((slidingWindow sw' filed').allow key created now).1 := by
  obtain ⟨_, limits, lengths, outcome⟩ := filed.allow_counted key now.instant
  obtain ⟨_, limits', lengths', outcome'⟩ := filed'.allow_counted key now.instant
  have same := counts key now.instant later
  -- Both keep the same for the key, with or without the request.
  have agree {kept : List Int}
      (record : ∀ other, (sw.allow key now.instant).1.onRecord other =
        if other = key then kept else sw.onRecord other)
      (record' : ∀ other, (sw'.allow key now.instant).1.onRecord other =
        if other = key then kept else sw'.onRecord other) :
      Agree now.instant ((slidingWindow sw filed).allow key created now).1
        ((slidingWindow sw' filed').allow key created now).1 := by
    refine .window (by rw [limits, limits', limit]) (by rw [lengths, lengths', length]) ?_
    intro other now' later'
    rw [SlidingWindow.counted_of_record lengths record,
      SlidingWindow.counted_of_record lengths' record', length]
    split
    · rfl
    · exact counts other now' (by omega)
  rw [← same, ← limit] at outcome'
  rcases outcome with ⟨answer, room, record⟩ | ⟨answer, full, record⟩
  · rcases outcome' with ⟨answer', _, record'⟩ | ⟨_, full', _⟩
    · exact ⟨answer.trans answer'.symm, agree record record'⟩
    · omega
  · rcases outcome' with ⟨_, room', _⟩ | ⟨answer', _, record'⟩
    · omega
    · exact ⟨answer.trans answer'.symm, agree record record'⟩

/-- Limiters that agree answer a request the same, and go on agreeing. -/
theorem Agree.allow {limiter other : Limiter} (agree : Agree instant limiter other)
    (key : String) {created now : Go.Reading} (later : instant ≤ created.instant)
    (ordered : created.instant ≤ now.instant) :
    (limiter.allow key created now).2 = (other.allow key created now).2 ∧
      Agree now.instant (limiter.allow key created now).1 (other.allow key created now).1 := by
  cases agree with
  | @empty tb tb' _ _ none none' =>
    -- Both refuse, and have no more room than before.
    refine ⟨?_, .empty ?_ ?_⟩
    · change (tb.allow key created.instant now.instant).2 =
        (tb'.allow key created.instant now.instant).2
      rw [TokenBucket.allow_of_capacity_lt none, TokenBucket.allow_of_capacity_lt none']
    · rwa [TokenBucket.allow_capacity]
    · rwa [TokenBucket.allow_capacity]
  | bucket rate capacity finds => exact Agree.allow_bucket rate capacity finds key later ordered
  | window limit length counts =>
    exact Agree.allow_window limit length counts key created (le_trans later ordered)

/-- Limiters that agree go on agreeing when they forget a key. -/
theorem Agree.reset {limiter other : Limiter} (agree : Agree instant limiter other)
    (key : String) : Agree instant (limiter.reset key) (other.reset key) := by
  -- The key starts anew in both, and the other keys are as before.
  cases agree with
  | empty none none' => exact .empty none none'
  | @bucket tb tb' _ _ rate capacity finds =>
    refine .bucket rate capacity ?_
    intro other created now later ordered
    have forgotten (tb : TokenBucket) :
        (tb.reset key).buckets = Function.update tb.buckets key none := rfl
    rw [TokenBucket.found_of_update (forgotten tb) rfl rfl,
      TokenBucket.found_of_update (forgotten tb') rfl rfl, capacity]
    split
    · exact TokenBucket.refill_congr rate capacity
    · exact finds other created now later ordered
  | @window sw sw' _ _ limit length counts =>
    refine .window limit length ?_
    intro other now later
    have cleared (sw : SlidingWindow) : (sw.reset key).window = sw.window := rfl
    rw [SlidingWindow.counted_of_record (cleared sw) (sw.reset_onRecord key),
      SlidingWindow.counted_of_record (cleared sw') (sw'.reset_onRecord key)]
    split
    · rfl
    · exact counts other now later

/-- Limiters that agree answer every call the same, and go on agreeing. -/
theorem Agree.respond {limiter other : Limiter} (agree : Agree instant limiter other)
    (call : LimiterCall) (possible : Possible instant call) :
    (limiter.respond call).2 = (other.respond call).2 ∧
      Agree (advance instant call) (limiter.respond call).1 (other.respond call).1 := by
  cases call with
  | allow key created now =>
    obtain ⟨answer, still⟩ := agree.allow key possible.1 possible.2
    exact ⟨congrArg some answer, still⟩
  | reset key => exact ⟨rfl, agree.reset key⟩

/-- Limiters that agree are not told apart by calls. -/
theorem Agree.alike {limiter other : Limiter} (agree : Agree instant limiter other) :
    Alike instant limiter other :=
  fun _ paced => answers_eq_of_related Agree (fun _ _ _ call agree possible =>
    agree.respond call possible) agree paced

/-- A bucket that refuses a request is only refilled, and will be found as it would have been. -/
theorem agree_allow_bucket {tb : TokenBucket} {read : tb.Read} {key : String}
    {created now : Go.Reading} (unspent : ¬ (tokenBucket tb read).Spends key created now) :
    Agree now.instant (tokenBucket tb read) ((tokenBucket tb read).allow key created now).1 := by
  -- Without room for a token the limiter refuses in any case.
  obtain ⟨refused, kept⟩ := not_or.mp unspent
  by_cases none : tb.capacity < 1
  · exact .empty none (by rwa [TokenBucket.allow_capacity])
  · -- There is room for a token, and so the key has a bucket already.
    obtain ⟨_, buckets, rate, capacity⟩ := tb.allow_spec key created.instant now.instant
    rcases stored : tb.buckets key with _ | bucket
    · exact absurd ⟨stored, not_lt.mp none⟩ kept
    · have found (created now : Int) : tb.found key created now = tb.refill bucket now := by
        rw [TokenBucket.found, TokenBucket.bucketOf, stored, Option.getD_some]
      have short : (tb.refill bucket now.instant).tokens < 1 := by
        rw [← found created.instant]
        exact not_le.mp refused
      have room : (tb.refill bucket now.instant).tokens < tb.capacity :=
        lt_of_lt_of_le short (by exact_mod_cast not_lt.mp none)
      obtain ⟨earlier, last⟩ := read key bucket stored
      refine .bucket rate.symm capacity.symm ?_
      intro other created' now' _ _
      rw [TokenBucket.found_of_update buckets rate capacity, found, TokenBucket.charge,
        if_neg (not_le.mpr short)]
      split
      case isTrue same => rw [Option.getD_some, TokenBucket.refill_refill last room, same, found]
      case isFalse => rfl

/-- A window forgets what no longer counts, and a request that does not count itself. -/
theorem agree_allow_window {sw : SlidingWindow} {filed : sw.Filed} {key : String}
    {created now : Go.Reading} (unspent : ¬ (slidingWindow sw filed).Spends key created now) :
    Agree now.instant (slidingWindow sw filed)
      ((slidingWindow sw filed).allow key created now).1 := by
  obtain ⟨_, limit, length, outcome⟩ := filed.allow_counted key now.instant
  refine .window limit.symm length.symm ?_
  intro other now' later
  -- What is no longer counted now will not be counted later.
  have again : (sw.counted key now.instant).filter (fun t => now' + Go.wrap64 (-sw.window) < t) =
      sw.counted key now' := by
    rw [SlidingWindow.counted, SlidingWindow.counted, List.filter_filter]
    refine List.filter_congr fun t _ => ?_
    simp only [Bool.and_eq_left_iff_imp, decide_eq_true_eq]
    omega
  rcases outcome with ⟨_, room, record⟩ | ⟨_, _, record⟩
  · -- The request was admitted, to a window in which its own instant does not count.
    have uncounted : ¬ now' + Go.wrap64 (-sw.window) < now.instant := by
      have short : ¬ Go.wrap64 (-sw.window) < 0 := fun counts => unspent ⟨room, counts⟩
      omega
    rw [SlidingWindow.counted_of_record length record, List.filter_append, again]
    split
    case isTrue same => simp [same, uncounted]
    case isFalse => rfl
  · rw [SlidingWindow.counted_of_record length record, again]
    split
    case isTrue same => rw [same]
    case isFalse => rfl

/-- A limiter that a request leaves no trace in agrees with what it was. -/
theorem agree_allow {limiter : Limiter} {key : String} {created now : Go.Reading}
    (unspent : ¬ limiter.Spends key created now) :
    Agree now.instant limiter (limiter.allow key created now).1 := by
  cases limiter with
  | tokenBucket tb read => exact agree_allow_bucket unspent
  | slidingWindow sw filed => exact agree_allow_window unspent

/-- How many requests for a key a limiter would admit at once. -/
def budget (key : String) (created now : Go.Reading) : Limiter → Nat
  | .tokenBucket tb _ => ⌊(tb.found key created.instant now.instant).tokens⌋₊
  | .slidingWindow sw _ => (sw.limit - (sw.counted key now.instant).length).toNat

/-- Requests at this instant count in a limiter. -/
def Counts : Limiter → Prop
  | .tokenBucket _ _ => True
  | .slidingWindow sw _ => Go.wrap64 (-sw.window) < 0

end Limiter

namespace TokenBucket

variable {tb : TokenBucket} {key : String} {created now : Int}

/-- After a request a bucket holds at the same instant what the request has left. -/
theorem found_allow (tb : TokenBucket) (key : String) (created now : Int) :
    ((tb.allow key created now).1.found key now now).tokens =
      (charge (tb.found key created now)).tokens := by
  -- No time passes, and what is left is within the capacity.
  obtain ⟨_, buckets, rate, capacity⟩ := tb.allow_spec key created now
  rw [found_of_update buckets rate capacity, if_pos rfl, Option.getD_some]
  refine refill_now (le_trans (charge_tokens_le _) found_tokens_le) ?_
  unfold charge
  split <;> rfl

/-- A token that is taken is one whole token less. -/
theorem floor_charge (bucket : Bucket) : ⌊(charge bucket).tokens⌋₊ = ⌊bucket.tokens⌋₊ - 1 := by
  unfold charge
  split
  case isTrue enough => exact Nat.floor_sub_one bucket.tokens
  case isFalse short =>
    rw [Nat.floor_eq_zero.mpr (not_le.mp short)]

/-- A bucket that is made at this instant holds no less than one that was made before. -/
theorem found_le_found_now : (tb.found key created now).tokens ≤ (tb.found key now now).tokens := by
  -- A bucket that is there is the same for both.
  unfold found bucketOf
  rcases tb.buckets key with _ | bucket
  · -- A new bucket is full.
    rw [Option.getD_none, Option.getD_none, refill_now le_rfl rfl, refill_tokens]
    exact min_le_left _ _
  · rfl

end TokenBucket

namespace Limiter

/-- There is room for a request exactly if something is left of the budget. -/
theorem admits_iff_budget {limiter : Limiter} {key : String} {created now : Go.Reading} :
    limiter.Admits key created now ↔ 0 < limiter.budget key created now := by
  cases limiter with
  | tokenBucket tb read => exact Nat.floor_pos.symm
  | slidingWindow sw filed =>
    simp only [Admits, budget]
    omega

/-- The budget is at its largest if the key gets its bucket at this instant. -/
theorem budget_le_now (limiter : Limiter) (key : String) (created now : Go.Reading) :
    limiter.budget key created now ≤ limiter.budget key now now := by
  cases limiter with
  | tokenBucket tb read => exact Nat.floor_mono TokenBucket.found_le_found_now
  | slidingWindow sw filed => exact le_refl _

/-- A request takes one from the budget, if there is something left. -/
theorem budget_allow {limiter : Limiter} (counts : limiter.Counts) (key : String)
    (created now : Go.Reading) :
    (limiter.allow key created now).1.Counts ∧
      (limiter.allow key created now).1.budget key now now =
        limiter.budget key created now - 1 := by
  -- What is left is looked at right after the request.
  cases limiter with
  | tokenBucket tb read =>
    refine ⟨trivial, ?_⟩
    change ⌊((tb.allow key created.instant now.instant).1.found key now.instant
      now.instant).tokens⌋₊ = ⌊(tb.found key created.instant now.instant).tokens⌋₊ - 1
    rw [TokenBucket.found_allow, TokenBucket.floor_charge]
  | slidingWindow sw filed =>
    obtain ⟨_, limit, length, outcome⟩ := filed.allow_counted key now.instant
    refine ⟨?_, ?_⟩
    · change Go.wrap64 (-(sw.allow key now.instant).1.window) < 0
      rwa [length]
    · -- One more request counts if this one was admitted, and otherwise there was no room.
      change ((sw.allow key now.instant).1.limit -
          ((sw.allow key now.instant).1.counted key now.instant).length).toNat =
        (sw.limit - (sw.counted key now.instant).length).toNat - 1
      rw [limit, filed.counted_allow counts]
      rcases outcome with ⟨answer, _, _⟩ | ⟨answer, full, _⟩
      · rw [answer, if_pos rfl]
        omega
      · rw [answer, if_neg Bool.false_ne_true]
        omega

/-- A request that leaves a trace is made while something is left of the budget, and counts. -/
theorem Spends.counts {limiter : Limiter} {key : String} {created now : Go.Reading}
    (spends : limiter.Spends key created now) :
    limiter.Counts ∧ 0 < limiter.budget key now now := by
  -- The request found room, or a new bucket that time had drained.
  cases limiter with
  | tokenBucket tb read =>
    refine ⟨trivial, ?_⟩
    rcases spends with admitted | ⟨absent, room⟩
    · exact lt_of_lt_of_le (Nat.floor_pos.mpr admitted)
        (budget_le_now (tokenBucket tb read) key created now)
    · -- A bucket made at this instant would be full.
      have full : (tb.found key now.instant now.instant).tokens = tb.capacity := by
        rw [TokenBucket.found, TokenBucket.bucketOf, absent, Option.getD_none,
          TokenBucket.refill_now le_rfl rfl]
      change 0 < ⌊(tb.found key now.instant now.instant).tokens⌋₊
      rw [full]
      exact Nat.floor_pos.mpr (by exact_mod_cast room)
  | slidingWindow sw filed =>
    have room : (slidingWindow sw filed).Admits key now now := spends.1
    exact ⟨spends.2, admits_iff_budget.mp room⟩

/-- A request goes unnoticed in a limiter exactly if it leaves no trace there. -/
theorem alike_allow_iff {limiter : Limiter} {key : String} {created now : Go.Reading} :
    Alike now.instant limiter (limiter.allow key created now).1 ↔
      ¬ limiter.Spends key created now := by
  constructor
  · -- Requests at the same instant tell how much of the budget is left, which is less than it was.
    intro alike spends
    obtain ⟨counts, positive⟩ := spends.counts
    obtain ⟨still, less⟩ := budget_allow counts key created now
    have call (limiter : Limiter) (counts : limiter.Counts) :
        (limiter.respond (.allow key now now)).1.Counts ∧
          ((limiter.respond (.allow key now now)).2 = some true ↔
            0 < limiter.budget key now now) ∧
          (limiter.respond (.allow key now now)).1.budget key now now =
            limiter.budget key now now - 1 := by
      obtain ⟨kept, taken⟩ := budget_allow counts key now now
      refine ⟨kept, ?_, taken⟩
      rw [← admits_iff_budget, ← allow_iff_admits]
      exact Option.some_inj
    have equal := budget_eq_of_answers Counts (budget key now now) call counts still fun count =>
      alike _ (paced_replicate ⟨le_refl _, le_refl _⟩ rfl count)
    have bound := budget_le_now limiter key created now
    omega
  · intro unspent
    exact (agree_allow unspent).alike

end Limiter

/-- Limiters that all have to admit a request. -/
structure CombinedRateLimiter where
  limiters : List Limiter
  nonempty : limiters ≠ []

/-- A combination of at least one limiter. -/
def newCombinedRateLimiter (limiters : List Limiter) : Except String CombinedRateLimiter :=
  if empty : limiters = [] then .error "at least one rate limiter is required"
  else .ok ⟨limiters, empty⟩

/-- Asks limiters one after the other, until one refuses. -/
def allowAll (key : String) (created now : Go.Reading) : List Limiter → List Limiter × Bool
  | [] => ([], true)
  | limiter :: rest =>
    let called := limiter.allow key created now
    if ¬ called.2 then (called.1 :: rest, false)
    else
      let others := allowAll key created now rest
      (called.1 :: others.1, others.2)

/-- The limiters that are asked: those before the first that refuses, and that one. -/
def asked (key : String) (created now : Go.Reading) : List Limiter → List Limiter
  | [] => []
  | limiter :: rest =>
    if limiter.Admits key created now then limiter :: asked key created now rest else [limiter]

section Combination

variable {key : String} {created now : Go.Reading}

/-- Asking limiters leaves as many of them. -/
theorem allowAll_length (limiters : List Limiter) :
    (allowAll key created now limiters).1.length = limiters.length := by
  -- A limiter that was asked is put back in its place.
  induction limiters with
  | nil => rfl
  | cons limiter rest ih =>
    rw [allowAll]
    dsimp only
    split
    · rfl
    · rw [List.length_cons, ih, List.length_cons]

/-- A request goes unnoticed in all limiters exactly if it leaves no trace in those it asks. -/
theorem alike_allowAll_iff (limiters : List Limiter) :
    List.Forall₂ (Limiter.Alike now.instant) limiters (allowAll key created now limiters).1 ↔
      ∀ limiter ∈ asked key created now limiters, ¬ limiter.Spends key created now := by
  induction limiters with
  | nil => simp [allowAll, asked]
  | cons limiter rest ih =>
    rw [allowAll, asked]
    simp only [← limiter.allow_iff_admits key created now]
    cases answer : (limiter.allow key created now).2 with
    | false =>
      -- The others are not asked, and stay as they are.
      have others : List.Forall₂ (Limiter.Alike now.instant) rest rest :=
        List.forall₂_same.mpr fun _ _ _ _ => rfl
      simp only [Bool.false_eq_true, not_false_eq_true, if_true, if_false, List.forall₂_cons,
        Limiter.alike_allow_iff, others, and_true, List.mem_singleton, forall_eq]
    | true =>
      simp only [not_true_eq_false, if_true, if_false, List.forall₂_cons, Limiter.alike_allow_iff,
        ih, List.mem_cons, forall_eq_or_imp]

end Combination

namespace CombinedRateLimiter

/-- Whether all limiters of a combination admit a request. -/
def allow (combined : CombinedRateLimiter) (key : String) (created now : Go.Reading) :
    CombinedRateLimiter × Bool :=
  (⟨(allowAll key created now combined.limiters).1, by
      rw [← List.length_pos_iff_ne_nil, allowAll_length]
      exact List.length_pos_iff_ne_nil.mpr combined.nonempty⟩,
    (allowAll key created now combined.limiters).2)

/--
After a call every limiter of a combination answers all further calls as if it had not been made,
exactly if the call leaves no trace in the limiters that it asks.
-/
theorem call_unnoticed_iff (combined : CombinedRateLimiter) (key : String)
    (created now : Go.Reading) :
    List.Forall₂ (Limiter.Alike now.instant) combined.limiters
        (combined.allow key created now).1.limiters ↔
      ∀ limiter ∈ asked key created now combined.limiters, ¬ limiter.Spends key created now :=
  alike_allowAll_iff combined.limiters

/-- The start of the process. -/
def processStart : Go.Reading := ⟨0, by decide, by decide⟩

/-- Two requests at once but one a minute, of which one has been made. -/
def usedPair : CombinedRateLimiter :=
  (CombinedRateLimiter.allow
    ⟨[Limiter.newBucket 1 2, Limiter.newWindow 1 Go.minute], by simp⟩ "10.0.0.1" processStart
    processStart).1

/-- A request that the second limiter refuses has taken the last token of the first. -/
theorem refused_request_takes_token :
    (usedPair.allow "10.0.0.1" processStart processStart).2 = false ∧
      usedPair.limiters.map
        (fun limiter => (limiter.allow "10.0.0.1" processStart processStart).2) = [true, false] ∧
      (usedPair.allow "10.0.0.1" processStart processStart).1.limiters.map
        (fun limiter => (limiter.allow "10.0.0.1" processStart processStart).2) =
          [false, false] := by
  decide +kernel

end CombinedRateLimiter

end Balance
