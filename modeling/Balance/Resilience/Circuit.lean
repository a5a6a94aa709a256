import Balance.Go.Time
import Mathlib.Logic.Basic

/-! The circuit breaker: its three states, its counters, and the two calls around a request. -/

namespace Balance

open Go

/-- The state of a circuit breaker. -/
inductive CircuitState where
  /-- All requests pass through. -/
  | stateClosed
  /-- All requests are rejected until the timeout has elapsed. -/
  | stateOpen
  /-- A limited number of requests tests whether the service has recovered. -/
  | stateHalfOpen
  deriving DecidableEq, Repr

/-- The errors with which a breaker refuses a request. -/
inductive CircuitError where
  /-- The circuit breaker is open. -/
  | errCircuitOpen
  /-- Too many requests in half-open state. -/
  | errTooManyRequests
  deriving DecidableEq, Repr

/-- What a breaker is configured with, zero standing for the default of a field. -/
structure CircuitBreakerConfig where
  name : String
  maxFailures : UInt32
  timeout : Int
  maxConcurrentRequests : UInt32

/-- A circuit breaker, with its atomic words and the transitions its listeners were told. -/
structure CircuitBreaker where
  name : String
  maxFailures : UInt32
  timeout : Int
  halfOpenMaxReqs : UInt32
  state : CircuitState
  failures : UInt32
  successes : UInt32
  consecutiveFails : UInt32
  halfOpenReqs : UInt32
  lastFailTime : Option Int
  stateChangedTime : Int
  totalRequests : UInt64
  totalSuccesses : UInt64
  totalFailures : UInt64
  totalRejected : UInt64
  notified : List (CircuitState × CircuitState)
  deriving DecidableEq

/-- The configuration a new breaker uses once the defaults have replaced zero fields. -/
def CircuitBreakerConfig.withDefaults (config : CircuitBreakerConfig) : CircuitBreakerConfig :=
  { config with
    maxFailures := if config.maxFailures = 0 then 5 else config.maxFailures
    timeout := if config.timeout = 0 then 60 * second else config.timeout
    maxConcurrentRequests :=
      if config.maxConcurrentRequests = 0 then 1 else config.maxConcurrentRequests }

/-- A new breaker is closed and has counted nothing. -/
def newCircuitBreaker (config : CircuitBreakerConfig) (now : Int) : CircuitBreaker where
  name := config.withDefaults.name
  maxFailures := config.withDefaults.maxFailures
  timeout := config.withDefaults.timeout
  halfOpenMaxReqs := config.withDefaults.maxConcurrentRequests
  state := .stateClosed
  failures := 0
  successes := 0
  consecutiveFails := 0
  halfOpenReqs := 0
  -- Nothing is stored here before the first failure.
  lastFailTime := none
  stateChangedTime := now
  totalRequests := 0
  totalSuccesses := 0
  totalFailures := 0
  totalRejected := 0
  notified := []

namespace CircuitBreaker

/-- The last failure, or the zero instant when none was recorded. -/
def getLastFailTime (cb : CircuitBreaker) : Int :=
  cb.lastFailTime.getD zeroTime

/-- Move to a state and tell the listeners, unless the breaker is there already. -/
def setState (cb : CircuitBreaker) (newState : CircuitState) (now : Int) : CircuitBreaker :=
  if cb.state = newState then cb
  else
    { cb with
      state := newState
      stateChangedTime := now
      notified := cb.notified ++ [(cb.state, newState)] }

/-- Whether a request may go ahead: `none` admits it, an error refuses it. -/
def beforeRequest (cb : CircuitBreaker) (now : Int) : CircuitBreaker × Option CircuitError :=
  let cb := { cb with totalRequests := cb.totalRequests + 1 }
  match cb.state with
  | .stateClosed => (cb, none)
  | .stateOpen =>
    -- The request that finds the timeout elapsed becomes the first probe, without taking a slot.
    if since now cb.getLastFailTime > cb.timeout then (cb.setState .stateHalfOpen now, none)
    else ({ cb with totalRejected := cb.totalRejected + 1 }, some .errCircuitOpen)
  | .stateHalfOpen =>
    let current := cb.halfOpenReqs + 1
    let cb := { cb with halfOpenReqs := current }
    if current > cb.halfOpenMaxReqs then
      -- Adding the word of all ones takes the slot back.
      ({ cb with
          halfOpenReqs := cb.halfOpenReqs + ~~~0
          totalRejected := cb.totalRejected + 1 }, some .errTooManyRequests)
    else (cb, none)

/-- Record a success according to the state that was read when the request ended. -/
def onSuccess (cb : CircuitBreaker) (state : CircuitState) (now : Int) : CircuitBreaker :=
  let cb := { cb with totalSuccesses := cb.totalSuccesses + 1 }
  match state with
  | .stateClosed => { cb with failures := 0, consecutiveFails := 0 }
  | .stateHalfOpen =>
    let cb := { cb with successes := cb.successes + 1 }
    -- Half as many successes as the failure threshold close the circuit.
    if cb.successes ≥ cb.maxFailures / 2 then
      { cb.setState .stateClosed now with failures := 0, consecutiveFails := 0, successes := 0 }
    else cb
  | .stateOpen => cb

/-- Record a failure according to the state that was read when the request ended. -/
def onFailure (cb : CircuitBreaker) (state : CircuitState) (now : Int) : CircuitBreaker :=
  let cb :=
    { cb with
      totalFailures := cb.totalFailures + 1
      failures := cb.failures + 1
      consecutiveFails := cb.consecutiveFails + 1
      lastFailTime := some now }
  match state with
  | .stateClosed => if cb.failures ≥ cb.maxFailures then cb.setState .stateOpen now else cb
  -- Any failure while testing goes back to open.
  | .stateHalfOpen => { cb.setState .stateOpen now with successes := 0 }
  | .stateOpen => cb

/-- Record the result of a request, and give a slot back when it ended in half-open state. -/
def afterRequest (cb : CircuitBreaker) (failed : Bool) (now : Int) : CircuitBreaker :=
  let state := cb.state
  let cb := if failed then cb.onFailure state now else cb.onSuccess state now
  if state = .stateHalfOpen then { cb with halfOpenReqs := cb.halfOpenReqs + ~~~0 } else cb

/-- Go back to closed and forget what was counted. -/
def reset (cb : CircuitBreaker) (now : Int) : CircuitBreaker :=
  { cb.setState .stateClosed now with
    failures := 0
    successes := 0
    consecutiveFails := 0
    halfOpenReqs := 0 }

/-- Changing state touches no counter and no setting. -/
theorem setState_eq (cb : CircuitBreaker) (newState : CircuitState) (now : Int) :
    cb.setState newState now =
      { cb with
        state := newState
        stateChangedTime := if cb.state = newState then cb.stateChangedTime else now
        notified :=
          if cb.state = newState then cb.notified else cb.notified ++ [(cb.state, newState)] } := by
  -- When nothing is stored, the breaker was in that state already.
  unfold setState
  split
  · rename_i same
    cases cb
    simpa using same
  · rfl

/-- A slot just taken is given back by adding the word of all ones. -/
theorem add_one_add_ones (slots : UInt32) : slots + 1 + ~~~0 = slots := by
  -- One and the word of all ones add up to zero.
  rw [UInt32.add_assoc, show (1 + ~~~0 : UInt32) = 0 by decide, UInt32.add_zero]

/-- Adding the word of all ones gives back a slot that can be taken again. -/
theorem add_ones_add_one (slots : UInt32) : slots + ~~~0 + 1 = slots := by
  -- The order in which the two are added does not matter.
  rw [UInt32.add_assoc, show (~~~0 + 1 : UInt32) = 0 by decide, UInt32.add_zero]

/-- The settings a breaker never changes. -/
def settings (cb : CircuitBreaker) : UInt32 × Int × UInt32 :=
  (cb.maxFailures, cb.timeout, cb.halfOpenMaxReqs)

/-- Settings are the same when each of them is. -/
theorem settings_eq_iff {cb other : CircuitBreaker} :
    cb.settings = other.settings ↔ cb.maxFailures = other.maxFailures ∧
      cb.timeout = other.timeout ∧ cb.halfOpenMaxReqs = other.halfOpenMaxReqs := by
  simp [settings]

/-- Asking for admission changes no setting. -/
@[simp] theorem beforeRequest_settings (cb : CircuitBreaker) (now : Int) :
    (cb.beforeRequest now).1.settings = cb.settings := by
  -- Every branch rewrites counters or the state only.
  cases at_ : cb.state <;> simp only [beforeRequest, at_, setState_eq] <;> try split
  all_goals rfl

/-- Recording a result changes no setting. -/
@[simp] theorem afterRequest_settings (cb : CircuitBreaker) (failed : Bool) (now : Int) :
    (cb.afterRequest failed now).settings = cb.settings := by
  -- Both outcomes rewrite counters or the state only.
  cases failed <;> cases at_ : cb.state <;>
    simp [afterRequest, onSuccess, onFailure, at_, setState_eq, settings, apply_ite]

/-- A closed breaker admits every request. -/
theorem beforeRequest_closed {cb : CircuitBreaker} (closed : cb.state = .stateClosed) (now : Int) :
    cb.beforeRequest now = ({ cb with totalRequests := cb.totalRequests + 1 }, none) := by
  simp [beforeRequest, closed]

/-- Until the timeout has elapsed, an open breaker refuses. -/
theorem beforeRequest_early {cb : CircuitBreaker} (opened : cb.state = .stateOpen) {now : Int}
    (early : since now cb.getLastFailTime ≤ cb.timeout) :
    cb.beforeRequest now =
      ({ cb with
          totalRequests := cb.totalRequests + 1
          totalRejected := cb.totalRejected + 1 }, some .errCircuitOpen) := by
  -- The comparison of the code is the negation of what is assumed.
  have refused : ¬ since now cb.getLastFailTime > cb.timeout := by omega
  simp [beforeRequest, opened, getLastFailTime] at refused ⊢
  exact refused

/-- Once the timeout has elapsed, an open breaker admits a probe that takes no slot. -/
theorem beforeRequest_probe {cb : CircuitBreaker} (opened : cb.state = .stateOpen) {now : Int}
    (elapsed : cb.timeout < since now cb.getLastFailTime) :
    cb.beforeRequest now =
      ({ cb with
          totalRequests := cb.totalRequests + 1
          state := .stateHalfOpen
          stateChangedTime := now
          notified := cb.notified ++ [(.stateOpen, .stateHalfOpen)] }, none) := by
  -- The breaker is open, so the change of state is a real one.
  simp [beforeRequest, opened, getLastFailTime, setState_eq] at elapsed ⊢
  exact elapsed

/-- A half-open breaker with a free slot hands it out. -/
theorem beforeRequest_slot {cb : CircuitBreaker} (testing : cb.state = .stateHalfOpen)
    (free : cb.halfOpenReqs + 1 ≤ cb.halfOpenMaxReqs) (now : Int) :
    cb.beforeRequest now =
      ({ cb with
          totalRequests := cb.totalRequests + 1
          halfOpenReqs := cb.halfOpenReqs + 1 }, none) := by
  simp [beforeRequest, testing, UInt32.not_lt.mpr free]

/-- A half-open breaker without a free slot refuses and leaves its slot counter alone. -/
theorem beforeRequest_full {cb : CircuitBreaker} (testing : cb.state = .stateHalfOpen)
    (full : cb.halfOpenMaxReqs < cb.halfOpenReqs + 1) (now : Int) :
    cb.beforeRequest now =
      ({ cb with
          totalRequests := cb.totalRequests + 1
          totalRejected := cb.totalRejected + 1 }, some .errTooManyRequests) := by
  -- The slot is taken and given back, which leaves the counter as it was.
  simp only [beforeRequest, testing, full, if_true, add_one_add_ones]

/-- Every request meets exactly one of the five branches above. -/
theorem beforeRequest_branch (cb : CircuitBreaker) (now : Int) :
    cb.state = .stateClosed ∨
    (cb.state = .stateOpen ∧ since now cb.getLastFailTime ≤ cb.timeout) ∨
    (cb.state = .stateOpen ∧ cb.timeout < since now cb.getLastFailTime) ∨
    (cb.state = .stateHalfOpen ∧ cb.halfOpenReqs + 1 ≤ cb.halfOpenMaxReqs) ∨
    (cb.state = .stateHalfOpen ∧ cb.halfOpenMaxReqs < cb.halfOpenReqs + 1) := by
  -- Each state has its own comparison, and the closed one has none.
  cases cb.state with
  | stateClosed => simp
  | stateOpen => simpa using le_or_gt (since now cb.getLastFailTime) cb.timeout
  | stateHalfOpen =>
    by_cases free : cb.halfOpenReqs + 1 ≤ cb.halfOpenMaxReqs
    · simp [free]
    · simp [UInt32.not_le.mp free]

/-- The state a result leaves behind. -/
theorem afterRequest_state (cb : CircuitBreaker) (failed : Bool) (now : Int) :
    (cb.afterRequest failed now).state =
      match cb.state, failed with
      | .stateClosed, true =>
        if cb.failures + 1 ≥ cb.maxFailures then .stateOpen else .stateClosed
      | .stateClosed, false => .stateClosed
      | .stateOpen, _ => .stateOpen
      | .stateHalfOpen, true => .stateOpen
      | .stateHalfOpen, false =>
        if cb.successes + 1 ≥ cb.maxFailures / 2 then .stateClosed else .stateHalfOpen := by
  -- Only the state read before the result was recorded decides the branch.
  cases failed <;> cases at_ : cb.state <;>
    simp [afterRequest, onSuccess, onFailure, at_, setState_eq, apply_ite CircuitBreaker.state]

/-- A result gives a slot back exactly when it finds the breaker half-open. -/
theorem afterRequest_halfOpenReqs (cb : CircuitBreaker) (failed : Bool) (now : Int) :
    (cb.afterRequest failed now).halfOpenReqs =
      if cb.state = .stateHalfOpen then cb.halfOpenReqs + ~~~0 else cb.halfOpenReqs := by
  -- Recording the result itself touches no slot.
  cases failed <;> cases at_ : cb.state <;>
    simp [afterRequest, onSuccess, onFailure, at_, setState_eq,
      apply_ite CircuitBreaker.halfOpenReqs]

/-- Successes are counted in half-open state only, and forgotten when it is left. -/
theorem afterRequest_successes (cb : CircuitBreaker) (failed : Bool) (now : Int) :
    (cb.afterRequest failed now).successes =
      if cb.state = .stateHalfOpen then
        if failed ∨ cb.successes + 1 ≥ cb.maxFailures / 2 then 0 else cb.successes + 1
      else cb.successes := by
  -- The state that was read decides, whichever state it leads to.
  cases failed <;> cases at_ : cb.state <;>
    simp [afterRequest, onSuccess, onFailure, at_, setState_eq, apply_ite CircuitBreaker.successes]

/-- The instant of a failure is remembered in every state. -/
theorem afterRequest_lastFailTime (cb : CircuitBreaker) (now : Int) :
    (cb.afterRequest true now).lastFailTime = some now := by
  -- It is stored before the state is looked at.
  cases at_ : cb.state <;>
    simp [afterRequest, onFailure, at_, setState_eq, apply_ite CircuitBreaker.lastFailTime]

/-- A failure is counted in every state. -/
theorem afterRequest_failures (cb : CircuitBreaker) (now : Int) :
    (cb.afterRequest true now).failures = cb.failures + 1 := by
  -- It is counted before the state is looked at.
  cases at_ : cb.state <;>
    simp [afterRequest, onFailure, at_, setState_eq, apply_ite CircuitBreaker.failures]

end CircuitBreaker

end Balance
