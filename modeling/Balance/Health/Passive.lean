import Balance.Backend.Backend
import Balance.Go.Time

/-! Passive health checks: failed requests tracked per backend within a time window. -/

namespace Balance

open Go

/-- The settings of a passive checker that its decision reads, zero standing for the default. -/
structure PassiveCheckerConfig where
  minRequests : Int
  consecutiveFailures : Int
  window : Int
  deriving DecidableEq

/-- The failures tracked for one backend. -/
structure FailureTracker where
  consecutiveFailures : Int
  lastFailureTime : Int
  windowFailures : List Int
  deriving DecidableEq

/-- A passive checker with its trackers, keyed by the pointer of the backend. -/
structure PassiveChecker where
  config : PassiveCheckerConfig
  failures : Nat → Option FailureTracker

/-- A new checker tracks nothing. -/
def newPassiveChecker (config : PassiveCheckerConfig) : PassiveChecker where
  config :=
    { minRequests := if config.minRequests = 0 then 10 else config.minRequests
      consecutiveFailures :=
        if config.consecutiveFailures = 0 then 5 else config.consecutiveFailures
      window := if config.window = 0 then 60 * second else config.window }
  failures := fun _ => none

namespace PassiveChecker

variable (pc : PassiveChecker) (b : Nat)

/-- The tracker of a backend, made on first use. -/
def tracker : FailureTracker :=
  (pc.failures b).getD
    { consecutiveFailures := 0, lastFailureTime := zeroTime, windowFailures := [] }

/-- A successful request ends the run of failures, but empties no window. -/
def recordSuccess : PassiveChecker :=
  { pc with
    failures := Function.update pc.failures b
      (some { pc.tracker b with consecutiveFailures := 0 }) }

/-- Whether the failures tracked are too many in a row or too many in the window. -/
def shouldMarkUnhealthy (tracker : FailureTracker) : Bool :=
  tracker.consecutiveFailures ≥ pc.config.consecutiveFailures ||
    (tracker.windowFailures.length : Int) ≥ pc.config.minRequests

/-- Track a failed request, and decide whether the backend looks unhealthy. -/
def recordFailure (now : Int) : PassiveChecker × Bool :=
  let tracker := pc.tracker b
  -- Failures at or before the start of the window no longer count.
  let cutoff := now - pc.config.window
  let tracker :=
    { consecutiveFailures := tracker.consecutiveFailures + 1
      lastFailureTime := now
      windowFailures := (tracker.windowFailures ++ [now]).filter fun t => t > cutoff }
  ({ pc with failures := Function.update pc.failures b (some tracker) },
    pc.shouldMarkUnhealthy tracker)

/-- Forget the failures of one backend. -/
def reset : PassiveChecker :=
  { pc with failures := Function.update pc.failures b none }

/-- Forget the failures of all backends. -/
def resetAll : PassiveChecker := { pc with failures := fun _ => none }

/-- The failures in a row. -/
def getConsecutiveFailures : Int :=
  match pc.failures b with
  | none => 0
  | some tracker => tracker.consecutiveFailures

/-- The failures in the window that ends now, which is not pruned for that. -/
def getWindowFailures (now : Int) : Nat :=
  match pc.failures b with
  | none => 0
  | some tracker => tracker.windowFailures.countP fun t => t > now - pc.config.window

end PassiveChecker

end Balance
