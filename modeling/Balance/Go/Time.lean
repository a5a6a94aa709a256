import Mathlib.Order.MinMax
import Mathlib.Data.Int.Order.Basic
import Mathlib.Data.Rat.Cast.Order
import Mathlib.Tactic.NormNum
import Mathlib.Tactic.Ring

/-! Instants and durations of Go's time package, both counted in nanoseconds. -/

namespace Go

/-- The instant of an unset `time.Time`, from which all instants are counted. -/
def zeroTime : Int := 0

/-- The shortest duration a signed 64-bit word holds. -/
def minDuration : Int := -2 ^ 63

/-- The longest duration a signed 64-bit word holds. -/
def maxDuration : Int := 2 ^ 63 - 1

/-- One second, the unit in which the source writes its default timeouts. -/
def second : Int := 1000000000

/-- One minute. -/
def minute : Int := 60 * second

/-- The seconds between the zero time and the start of the Unix epoch. -/
def unixEpoch : Int := 62135596800

/-- The Unix time of an instant, in whole seconds. -/
def unix (instant : Int) : Int := instant / second - unixEpoch

/-- A duration in seconds, with fractions read as exact. -/
def seconds (duration : Int) : ℚ := duration / second

/-- The time elapsed at `now` since an instant, clamped to what a duration can hold. -/
def since (now instant : Int) : Int :=
  -- Subtraction of instants saturates instead of wrapping around.
  max minDuration (min maxDuration (now - instant))

/-- No elapsed time exceeds the longest duration. -/
theorem since_le_maxDuration (now instant : Int) : since now instant ≤ maxDuration := by
  -- Both ends of the clamp lie below the upper bound.
  unfold since minDuration maxDuration
  omega

/-- Every duration short of the longest one is exceeded after one more nanosecond. -/
theorem lt_since_add {timeout : Int} (short : timeout < maxDuration) (instant : Int) :
    timeout < since (instant + (max timeout 0 + 1)) instant := by
  -- The difference is positive and at most the upper bound, so the clamp leaves it alone.
  unfold since minDuration maxDuration at *
  omega

/-- A duration that is not negative lasts no negative number of seconds. -/
theorem seconds_nonneg {duration : Int} (nonneg : 0 ≤ duration) : 0 ≤ seconds duration :=
  div_nonneg (Int.cast_nonneg nonneg) (by norm_num [second])

/-- Longer durations last more seconds. -/
theorem seconds_mono {short long : Int} (shorter : short ≤ long) : seconds short ≤ seconds long :=
  div_le_div_of_nonneg_right (Int.cast_le.mpr shorter) (by norm_num [second])

/-- Durations one after the other last the sum of their seconds. -/
theorem seconds_add (first second : Int) :
    seconds (first + second) = seconds first + seconds second := by
  simp only [seconds]
  push_cast
  ring

/-- The time elapsed since an instant in the past is not negative. -/
theorem since_nonneg {now instant : Int} (past : instant ≤ now) : 0 ≤ since now instant := by
  unfold since minDuration maxDuration
  omega

/-- The time elapsed since an instant in the past is the difference at most. -/
theorem since_le_sub {now instant : Int} (past : instant ≤ now) :
    since now instant ≤ now - instant := by
  unfold since minDuration maxDuration
  omega

/-- The time elapsed since an instant never gets less. -/
theorem since_mono {now later : Int} (ordered : now ≤ later) (instant : Int) :
    since now instant ≤ since later instant := by
  unfold since minDuration maxDuration
  omega

/-- No time has elapsed since this instant. -/
theorem since_self (now : Int) : since now now = 0 := by
  unfold since minDuration maxDuration
  omega

/-- More time has elapsed later on, by as much as has passed at most. -/
theorem since_le_add {now later instant : Int} (ordered : now ≤ later) :
    since later instant ≤ since now instant + (later - now) := by
  -- Clamping never widens a difference.
  unfold since minDuration maxDuration
  omega

/--
A reading of the monotonic clock, in nanoseconds since the process was started.

It is kept in a signed 64-bit word, so that two readings are never further apart than a duration
can hold.
-/
structure Reading where
  instant : Int
  nonneg : 0 ≤ instant
  fits : instant ≤ maxDuration

/-- Between two readings the time elapsed is the difference. -/
theorem since_reading (now earlier : Reading) :
    since now.instant earlier.instant = now.instant - earlier.instant := by
  have low := now.nonneg
  have high := now.fits
  have low' := earlier.nonneg
  have high' := earlier.fits
  unfold since minDuration maxDuration at *
  omega

end Go
