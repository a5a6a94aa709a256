import Balance.Machine.Run
import Balance.Resilience.Circuit

/-! A breaker together with the overlapping requests it has admitted and not yet seen the end of. -/

namespace Balance

open Go Machine

/-- A breaker in use: its clock, how often it has left open, and the requests in flight. -/
structure Traffic where
  breaker : CircuitBreaker
  clock : Int
  /-- How many times the breaker has left the open state. -/
  round : Nat
  /-- For each admitted request that has not ended, the round in which it was admitted. -/
  inFlight : List Nat

/-- One atomic call of a client around its request. -/
inductive CircuitEvent where
  /-- A client asks for admission. -/
  | before (now : Int)
  /-- The request at a position of the list in flight ends, with or without an error. -/
  | after (request : Nat) (failed : Bool) (now : Int)
  deriving DecidableEq, Repr

namespace Traffic

/-- A new breaker without any request. -/
def start (config : CircuitBreakerConfig) (now : Int) : Traffic where
  breaker := newCircuitBreaker config now
  clock := now
  round := 0
  inFlight := []

/-- Ask for admission, and keep track of the request when it is granted. -/
def before (traffic : Traffic) (now : Int) : Traffic :=
  let (cb, refused) := traffic.breaker.beforeRequest now
  -- The request that makes the breaker leave open belongs to the round it begins.
  let round :=
    if traffic.breaker.state = .stateOpen ∧ cb.state ≠ .stateOpen then traffic.round + 1
    else traffic.round
  { breaker := cb
    clock := now
    round := round
    inFlight := if refused = none then traffic.inFlight ++ [round] else traffic.inFlight }

/-- End one request in flight and record its result. -/
def after (traffic : Traffic) (request : Nat) (failed : Bool) (now : Int) : Traffic :=
  { traffic with
    breaker := traffic.breaker.afterRequest failed now
    clock := now
    inFlight := traffic.inFlight.eraseIdx request }

/-- One step of any client, at a time not before the last step. -/
def step (traffic : Traffic) : CircuitEvent → Option Traffic
  | .before now => if traffic.clock ≤ now then some (traffic.before now) else none
  | .after request failed now =>
    if traffic.clock ≤ now ∧ request < traffic.inFlight.length then
      some (traffic.after request failed now)
    else none

/-- A client that asks in time is answered. -/
theorem step_before {traffic next : Traffic} {now : Int} :
    traffic.step (.before now) = some next ↔
      traffic.clock ≤ now ∧ traffic.before now = next := by
  simp [step]

/-- A request that is in flight may end. -/
theorem step_after {traffic next : Traffic} {request : Nat} {failed : Bool} {now : Int} :
    traffic.step (.after request failed now) = some next ↔
      (traffic.clock ≤ now ∧ request < traffic.inFlight.length) ∧
        traffic.after request failed now = next := by
  simp [step]

/-- No step changes a setting of the breaker. -/
theorem step_settings {traffic next : Traffic} {event : CircuitEvent}
    (taken : traffic.step event = some next) :
    next.breaker.settings = traffic.breaker.settings := by
  -- Both calls of the breaker keep its settings.
  cases event with
  | before now =>
    obtain ⟨_, rfl⟩ := step_before.mp taken
    exact traffic.breaker.beforeRequest_settings now
  | after request failed now =>
    obtain ⟨_, rfl⟩ := step_after.mp taken
    exact traffic.breaker.afterRequest_settings failed now

section Before

variable {traffic : Traffic} (now : Int)

/-- Through a closed breaker the request goes in flight. -/
theorem before_closed (closed : traffic.breaker.state = .stateClosed) :
    traffic.before now =
      { breaker :=
          { traffic.breaker with totalRequests := traffic.breaker.totalRequests + 1 }
        clock := now
        round := traffic.round
        inFlight := traffic.inFlight ++ [traffic.round] } := by
  -- Admission leaves the state, and so the round, as it is.
  simp [before, CircuitBreaker.beforeRequest_closed closed, closed]

/-- An open breaker whose timeout has not elapsed turns the request away. -/
theorem before_early (opened : traffic.breaker.state = .stateOpen)
    (early : since now traffic.breaker.getLastFailTime ≤ traffic.breaker.timeout) :
    traffic.before now =
      { traffic with
        breaker :=
          { traffic.breaker with
            totalRequests := traffic.breaker.totalRequests + 1
            totalRejected := traffic.breaker.totalRejected + 1 }
        clock := now } := by
  -- A refused request is not in flight.
  simp [before, CircuitBreaker.beforeRequest_early opened early, opened]

/-- The first request after the timeout opens a new round and goes in flight without a slot. -/
theorem before_probe (opened : traffic.breaker.state = .stateOpen)
    (elapsed : traffic.breaker.timeout < since now traffic.breaker.getLastFailTime) :
    traffic.before now =
      { breaker :=
          { traffic.breaker with
            totalRequests := traffic.breaker.totalRequests + 1
            state := .stateHalfOpen
            stateChangedTime := now
            notified := traffic.breaker.notified ++ [(.stateOpen, .stateHalfOpen)] }
        clock := now
        round := traffic.round + 1
        inFlight := traffic.inFlight ++ [traffic.round + 1] } := by
  -- The breaker leaves open, which begins the next round.
  simp [before, CircuitBreaker.beforeRequest_probe opened elapsed, opened]

/-- A half-open breaker with a free slot lets the request go in flight with that slot. -/
theorem before_slot (testing : traffic.breaker.state = .stateHalfOpen)
    (free : traffic.breaker.halfOpenReqs + 1 ≤ traffic.breaker.halfOpenMaxReqs) :
    traffic.before now =
      { breaker :=
          { traffic.breaker with
            totalRequests := traffic.breaker.totalRequests + 1
            halfOpenReqs := traffic.breaker.halfOpenReqs + 1 }
        clock := now
        round := traffic.round
        inFlight := traffic.inFlight ++ [traffic.round] } := by
  -- The breaker was half-open before, so the round is the same.
  simp [before, CircuitBreaker.beforeRequest_slot testing free, testing]

/-- A half-open breaker without a free slot turns the request away. -/
theorem before_full (testing : traffic.breaker.state = .stateHalfOpen)
    (full : traffic.breaker.halfOpenMaxReqs < traffic.breaker.halfOpenReqs + 1) :
    traffic.before now =
      { traffic with
        breaker :=
          { traffic.breaker with
            totalRequests := traffic.breaker.totalRequests + 1
            totalRejected := traffic.breaker.totalRejected + 1 }
        clock := now } := by
  -- A refused request is not in flight, and its slot was given back.
  simp [before, CircuitBreaker.beforeRequest_full testing full, testing]

end Before

/-- Only a request that finds the breaker half-open can leave it half-open when it ends. -/
theorem after_halfOpen_iff {traffic : Traffic} {request : Nat} {failed : Bool} {now : Int} :
    (traffic.after request failed now).breaker.state = .stateHalfOpen ↔
      traffic.breaker.state = .stateHalfOpen ∧ failed = false ∧
        traffic.breaker.successes + 1 < traffic.breaker.maxFailures / 2 := by
  -- A failure opens the circuit, and enough successes close it.
  simp only [after, CircuitBreaker.afterRequest_state]
  cases failed <;> cases traffic.breaker.state <;> simp [ite_eq_iff]

end Traffic

end Balance
