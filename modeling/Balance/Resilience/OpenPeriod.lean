import Balance.Resilience.CircuitTraffic

/-! How long an open circuit stays shut, while results of earlier requests keep arriving. -/

namespace Balance

open Go Machine

/-- A call of a client, or a reset of the breaker. -/
inductive BreakerEvent where
  | call (event : CircuitEvent)
  | reset (now : Int)
  deriving DecidableEq, Repr

namespace Traffic

/-- Reset the breaker under the requests in flight, which go on. -/
def reset (traffic : Traffic) (now : Int) : Traffic :=
  { traffic with
    breaker := traffic.breaker.reset now
    clock := now
    -- A reset is one of the ways to leave the open state.
    round := if traffic.breaker.state = .stateOpen then traffic.round + 1 else traffic.round }

/-- One step of any client, or a reset, at a time not before the last step. -/
def stepOrReset (traffic : Traffic) : BreakerEvent → Option Traffic
  | .call event => traffic.step event
  | .reset now => if traffic.clock ≤ now then some (traffic.reset now) else none

/-- If the step asks for admission up to an instant, that instant included, it is refused. -/
def ShutUntil (deadline : Int) (traffic : Traffic) : BreakerEvent → Prop
  | .call (.before now) =>
    traffic.clock ≤ now → now ≤ deadline →
      (traffic.breaker.beforeRequest now).2 = some .errCircuitOpen
  | _ => True

/-- The step does not reset the breaker. -/
def NoReset (_ : Traffic) (event : BreakerEvent) : Prop :=
  ∃ call, event = .call call

/--
The circuit opened at an instant, and the timeout counted from there has not elapsed.

Later failures may have moved the instant from which the breaker counts, but only forward.
-/
structure Shut (opened timeout : Int) (traffic : Traffic) : Prop where
  settings : traffic.breaker.timeout = timeout
  later : opened ≤ traffic.clock
  shut : traffic.clock ≤ opened + timeout →
    traffic.breaker.state = .stateOpen ∧ opened ≤ traffic.breaker.getLastFailTime

variable {traffic next : Traffic} {opened timeout : Int}

/-- Until the timeout counted from the opening has elapsed, the breaker takes it for running. -/
theorem Shut.early (shut : Shut opened timeout traffic) {now : Int} (ordered : traffic.clock ≤ now)
    (within : now ≤ opened + timeout) :
    traffic.breaker.state = .stateOpen ∧
      since now traffic.breaker.getLastFailTime ≤ traffic.breaker.timeout := by
  -- The last failure is not before the opening, and the timeout is not negative.
  obtain ⟨settings, later, holds⟩ := shut
  obtain ⟨isOpen, failed⟩ := holds (by omega)
  refine ⟨isOpen, ?_⟩
  unfold since minDuration maxDuration
  omega

/-- A step at a later time leaves the circuit shut for as long as before. -/
theorem Shut.step (shut : Shut opened timeout traffic) {event : CircuitEvent}
    (taken : traffic.step event = some next) : Shut opened timeout next := by
  have same : next.breaker.timeout = traffic.breaker.timeout :=
    (CircuitBreaker.settings_eq_iff.mp (step_settings taken)).2.1
  cases event with
  | before now =>
    obtain ⟨ordered, rfl⟩ := step_before.mp taken
    refine ⟨same.trans shut.settings, shut.later.trans ordered, ?_⟩
    -- Whoever asks before the deadline is refused.
    intro within
    obtain ⟨isOpen, early⟩ := shut.early ordered within
    rw [before_early now isOpen early]
    exact shut.shut (ordered.trans within)
  | after request failed now =>
    obtain ⟨⟨ordered, _⟩, rfl⟩ := step_after.mp taken
    refine ⟨same.trans shut.settings, shut.later.trans ordered, ?_⟩
    -- A late result finds the circuit open, and a failure moves the last failure to now.
    intro within
    obtain ⟨isOpen, failure⟩ := shut.shut (ordered.trans within)
    refine ⟨by simp [after, CircuitBreaker.afterRequest_state, isOpen], ?_⟩
    cases failed with
    | true =>
      simp only [after, CircuitBreaker.getLastFailTime, CircuitBreaker.afterRequest_lastFailTime]
      exact shut.later.trans ordered
    | false =>
      simpa [after, CircuitBreaker.afterRequest, CircuitBreaker.onSuccess, isOpen,
        CircuitBreaker.getLastFailTime] using failure

/-- Only a failure enters the open state, and it is the last failure then. -/
theorem shut_of_entered {event : BreakerEvent} (elsewhere : traffic.breaker.state ≠ .stateOpen)
    (taken : traffic.stepOrReset event = some next) (entered : next.breaker.state = .stateOpen) :
    Shut next.clock next.breaker.timeout next := by
  -- Neither an admission nor a reset nor a success leads there.
  refine ⟨rfl, le_refl _, fun _ => ⟨entered, ?_⟩⟩
  cases event with
  | reset now =>
    simp only [stepOrReset, Option.ite_none_right_eq_some, Option.some.injEq] at taken
    obtain ⟨_, rfl⟩ := taken
    simp [reset, CircuitBreaker.reset, CircuitBreaker.setState_eq] at entered
  | call call =>
    cases call with
    | before now =>
      obtain ⟨_, rfl⟩ := step_before.mp taken
      rcases traffic.breaker.beforeRequest_branch now with
        closed | ⟨isOpen, _⟩ | ⟨isOpen, _⟩ | ⟨testing, free⟩ | ⟨testing, full⟩
      · simp [before_closed now closed, closed] at entered
      · exact absurd isOpen elsewhere
      · exact absurd isOpen elsewhere
      · simp [before_slot now testing free, testing] at entered
      · simp [before_full now testing full, testing] at entered
    | after request failed now =>
      obtain ⟨_, rfl⟩ := step_after.mp taken
      cases failed with
      | true =>
        simp [after, CircuitBreaker.getLastFailTime, CircuitBreaker.afterRequest_lastFailTime]
      | false =>
        -- A success stays in its state or closes the circuit.
        cases at_ : traffic.breaker.state with
        | stateOpen => exact absurd at_ elsewhere
        | stateClosed => simp [after, CircuitBreaker.afterRequest_state, at_] at entered
        | stateHalfOpen =>
          simp [after, CircuitBreaker.afterRequest_state, at_, ite_eq_iff] at entered

/--
From the instant at which a circuit opens, and without a reset, no request is admitted
before the whole timeout has elapsed.

Nothing is assumed about what came before, nor about the requests still in flight.
-/
theorem open_circuit_stays_shut {event : BreakerEvent} {future : List BreakerEvent}
    (elsewhere : traffic.breaker.state ≠ .stateOpen)
    (taken : traffic.stepOrReset event = some next) (entered : next.breaker.state = .stateOpen)
    (noReset : ∀ later ∈ future, ∃ call, later = .call call) :
    Along stepOrReset (ShutUntil (next.clock + next.breaker.timeout)) next future := by
  -- The circuit stays shut step by step, and a shut circuit refuses until the deadline.
  have calls : Along stepOrReset NoReset next future :=
    along_of_forall_mem next fun later member _ => noReset later member
  refine along_of_invariant (Shut next.clock next.breaker.timeout) ?_ ?_
    (shut_of_entered elsewhere taken entered) calls
  · intro state label reached shut given stepped
    rcases given with ⟨call, rfl⟩
    exact shut.step stepped
  · intro state label shut given
    rcases given with ⟨call, rfl⟩
    cases call with
    | before now =>
      intro ordered within
      obtain ⟨isOpen, early⟩ := shut.early ordered within
      rw [CircuitBreaker.beforeRequest_early isOpen early]
    | after request failed now => trivial

/-- A breaker that opens at its first failure refuses a request that comes at the last moment. -/
theorem shut_to_the_last_moment :
    let busy := ((start ⟨"test", 1, 60 * second, 1⟩ 0).before 0).before 0
    let opened := busy.after 0 true second
    busy.stepOrReset (.call (.after 0 true second)) = some opened ∧
      Along stepOrReset (ShutUntil (61 * second)) opened
        [.call (.after 0 true (31 * second)), .call (.before (61 * second))] := by
  -- The second request fails while the circuit is open, which does not make it close any earlier.
  intro busy opened
  have elsewhere : busy.breaker.state ≠ .stateOpen := by
    intro same
    cases same
  have taken : busy.stepOrReset (.call (.after 0 true second)) = some opened := rfl
  exact ⟨taken, open_circuit_stays_shut elsewhere taken rfl (by simp)⟩

end Traffic

end Balance
