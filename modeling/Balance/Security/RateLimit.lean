import Balance.Go.Time
import Mathlib.Logic.Function.Basic

/-! Token buckets, one for each key, with floating-point numbers read as exact. -/

namespace Balance

/-- The tokens of one key, as of the last refill. -/
structure Bucket where
  tokens : ℚ
  lastRefill : Int
  deriving DecidableEq

/-- A limiter that admits a request for each token of its key. -/
structure TokenBucket where
  -- Tokens that come in per second.
  rate : ℚ
  capacity : Int
  buckets : String → Option Bucket
  bucketTTL : Int
  totalRequests : Int
  allowedCount : Int
  blockedCount : Int

/-- A new limiter has no buckets. -/
def newTokenBucket (rate : ℚ) (capacity : Int) : TokenBucket where
  rate := rate
  capacity := capacity
  buckets := fun _ => none
  bucketTTL := 5 * Go.minute
  totalRequests := 0
  allowedCount := 0
  blockedCount := 0

namespace TokenBucket

variable (tb : TokenBucket)

/-- The bucket of a key, or a full one that is made for it. -/
def bucketOf (key : String) (created : Int) : Bucket :=
  (tb.buckets key).getD ⟨tb.capacity, created⟩

/-- The bucket with the tokens that have come in since its last refill, as far as they fit. -/
def refill (bucket : Bucket) (now : Int) : Bucket :=
  let elapsed := Go.seconds (Go.since now bucket.lastRefill)
  let tokens := bucket.tokens + elapsed * tb.rate
  ⟨if tokens > tb.capacity then tb.capacity else tokens, now⟩

/-- Whether a request for a key is admitted, with the two readings of the clock that it takes. -/
def allow (key : String) (created now : Int) : TokenBucket × Bool :=
  let bucket := tb.refill (tb.bucketOf key created) now
  if bucket.tokens ≥ 1 then
    ({ tb with
      buckets := Function.update tb.buckets key (some { bucket with tokens := bucket.tokens - 1 })
      totalRequests := tb.totalRequests + 1
      allowedCount := tb.allowedCount + 1 }, true)
  else
    ({ tb with
      buckets := Function.update tb.buckets key (some bucket)
      totalRequests := tb.totalRequests + 1
      blockedCount := tb.blockedCount + 1 }, false)

/-- Forget the bucket of a key. -/
def reset (key : String) : TokenBucket :=
  { tb with buckets := Function.update tb.buckets key none }

/-- Forget the buckets that have not been used for longer than they are kept. -/
def cleanup (now : Int) : TokenBucket :=
  { tb with
    buckets := fun key => (tb.buckets key).filter fun bucket =>
      decide (¬ Go.since now bucket.lastRefill > tb.bucketTTL) }

end TokenBucket

end Balance
