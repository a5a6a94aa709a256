import Balance.Machine.Threads
import Balance.Resilience.Circuit

/-! Concurrent calls of one breaker, at the granularity of its atomic loads, stores and adds. -/

namespace Balance

open Go Machine

/-- The atomic accesses that the calls of a breaker are made of. -/
inductive BreakerAccess where
  | addTotalRequests
  /-- The state on which `beforeRequest` decides. -/
  | loadState
  /-- The last failure, from which the timeout is counted. -/
  | loadLastFailTime
  | takeSlot
  | giveSlot
  /-- The count of rejections, after which the call returns its error. -/
  | reject (error : CircuitError)
  /-- The state by which `afterRequest` records the result. -/
  | loadStateAfter (failed : Bool)
  | addTotalSuccesses
  | addSuccesses
  /-- The successes, compared with half the failure threshold. -/
  | loadSuccesses
  | storeSuccesses
  | addTotalFailures
  | addFailures
  | addConsecutiveFails
  | storeLastFailTime
  /-- The failures, compared with their threshold. -/
  | loadFailures
  | storeFailures
  | storeConsecutiveFails
  /-- The state that `setState` is to replace. -/
  | loadOldState (newState : CircuitState)
  | storeState (oldState newState : CircuitState)
  | storeStateChangedTime (oldState newState : CircuitState)
  /-- The call of the listeners. -/
  | notify (oldState newState : CircuitState)
  deriving DecidableEq, Repr

namespace BreakerAccess

/-- The accesses of `onSuccess` in the state that was read. -/
def onSuccess : CircuitState → List BreakerAccess
  | .stateClosed => [addTotalSuccesses, storeFailures, storeConsecutiveFails]
  | .stateHalfOpen => [addTotalSuccesses, addSuccesses, loadSuccesses]
  | .stateOpen => [addTotalSuccesses]

/-- The accesses of `onFailure` in the state that was read. -/
def onFailure (state : CircuitState) : List BreakerAccess :=
  [addTotalFailures, addFailures, addConsecutiveFails, storeLastFailTime] ++
    match state with
    | .stateClosed => [loadFailures]
    | .stateHalfOpen => [loadOldState .stateOpen, storeSuccesses]
    | .stateOpen => []

/-- One access at a time, and the accesses it leads to before all others that are left. -/
def perform (cb : CircuitBreaker) (now : Int) : BreakerAccess → CircuitBreaker × List BreakerAccess
  | addTotalRequests => ({ cb with totalRequests := cb.totalRequests + 1 }, [])
  | loadState =>
    (cb, match cb.state with
      | .stateClosed => []
      | .stateOpen => [loadLastFailTime]
      | .stateHalfOpen => [takeSlot])
  | loadLastFailTime =>
    (cb, if since now cb.getLastFailTime > cb.timeout then [loadOldState .stateHalfOpen]
      else [reject .errCircuitOpen])
  | takeSlot =>
    ({ cb with halfOpenReqs := cb.halfOpenReqs + 1 },
      if cb.halfOpenReqs + 1 > cb.halfOpenMaxReqs then [giveSlot, reject .errTooManyRequests]
      else [])
  | giveSlot => ({ cb with halfOpenReqs := cb.halfOpenReqs + ~~~0 }, [])
  | reject _ => ({ cb with totalRejected := cb.totalRejected + 1 }, [])
  | loadStateAfter failed =>
    -- The slot is given back last, if the state that was read is half-open.
    (cb, (if failed then onFailure cb.state else onSuccess cb.state) ++
      if cb.state = .stateHalfOpen then [giveSlot] else [])
  | addTotalSuccesses => ({ cb with totalSuccesses := cb.totalSuccesses + 1 }, [])
  | addSuccesses => ({ cb with successes := cb.successes + 1 }, [])
  | loadSuccesses =>
    (cb, if cb.successes ≥ cb.maxFailures / 2 then
        [loadOldState .stateClosed, storeFailures, storeConsecutiveFails, storeSuccesses]
      else [])
  | storeSuccesses => ({ cb with successes := 0 }, [])
  | addTotalFailures => ({ cb with totalFailures := cb.totalFailures + 1 }, [])
  | addFailures => ({ cb with failures := cb.failures + 1 }, [])
  | addConsecutiveFails => ({ cb with consecutiveFails := cb.consecutiveFails + 1 }, [])
  | storeLastFailTime => ({ cb with lastFailTime := some now }, [])
  | loadFailures => (cb, if cb.failures ≥ cb.maxFailures then [loadOldState .stateOpen] else [])
  | storeFailures => ({ cb with failures := 0 }, [])
  | storeConsecutiveFails => ({ cb with consecutiveFails := 0 }, [])
  | loadOldState newState =>
    (cb, if cb.state = newState then [] else [storeState cb.state newState])
  | storeState oldState newState =>
    ({ cb with state := newState }, [storeStateChangedTime oldState newState])
  | storeStateChangedTime oldState newState =>
    ({ cb with stateChangedTime := now }, [notify oldState newState])
  | notify oldState newState => ({ cb with notified := cb.notified ++ [(oldState, newState)] }, [])

end BreakerAccess

/-- Where a goroutine stands in its call of `Execute`. -/
inductive BreakerFrame where
  /-- No call is in progress; the last one was refused with the error, if there is one. -/
  | idle (refused : Option CircuitError)
  | beforeRequest (accesses : List BreakerAccess)
  /-- The request was admitted and is under way. -/
  | request
  | afterRequest (accesses : List BreakerAccess)
  deriving DecidableEq, Repr

/-- What the callers, the clock and the scheduler decide at a step. -/
inductive BreakerChoice where
  | execute
  | finish (failed : Bool)
  | run (now : Int)
  deriving DecidableEq, Repr

namespace BreakerFrame

/-- In `beforeRequest` with these accesses left: without any, the request is admitted. -/
def asking : List BreakerAccess → BreakerFrame
  | [] => request
  | accesses => beforeRequest accesses

/-- In `afterRequest` with these accesses left: without any, the call is over. -/
def recording : List BreakerAccess → BreakerFrame
  | [] => idle none
  | accesses => afterRequest accesses

/-- The accesses a goroutine has still to make, as far as it is known. -/
def accesses : BreakerFrame → List BreakerAccess
  | idle _ | request => []
  | beforeRequest accesses | afterRequest accesses => accesses

@[simp] theorem asking_accesses (left : List BreakerAccess) : (asking left).accesses = left := by
  cases left <;> rfl

@[simp] theorem recording_accesses (left : List BreakerAccess) :
    (recording left).accesses = left := by
  cases left <;> rfl

end BreakerFrame

namespace CircuitBreaker

/-- The next step of one goroutine. -/
def advance (cb : CircuitBreaker) :
    BreakerFrame → BreakerChoice → Option (CircuitBreaker × BreakerFrame)
  | .idle _, .execute => some (cb, .beforeRequest [.addTotalRequests, .loadState])
  | .request, .finish failed => some (cb, .afterRequest [.loadStateAfter failed])
  | .beforeRequest [.reject error], .run now =>
    some ((BreakerAccess.perform cb now (.reject error)).1, .idle (some error))
  | .beforeRequest (access :: rest), .run now =>
    let (cb, more) := access.perform cb now
    some (cb, .asking (more ++ rest))
  | .afterRequest (access :: rest), .run now =>
    let (cb, more) := access.perform cb now
    some (cb, .recording (more ++ rest))
  | _, _ => none

/-- Left alone, a goroutine gets from one place to another. -/
def Reaches (now : Int) (here there : CircuitBreaker × BreakerFrame) : Prop :=
  ∃ steps, Threads.solo advance here (List.replicate steps (.run now)) = some there

variable {cb next : CircuitBreaker} {now : Int}

/-- A goroutine that gets somewhere goes on from there. -/
theorem Reaches.trans {first second third : CircuitBreaker × BreakerFrame}
    (left : Reaches now first second) (right : Reaches now second third) :
    Reaches now first third := by
  -- The numbers of steps add up.
  obtain ⟨steps, ran⟩ := left
  obtain ⟨more, later⟩ := right
  refine ⟨steps + more, ?_⟩
  rw [List.replicate_add]
  exact exec_trans ran later

/-- A goroutine in `beforeRequest` compares what it has loaded and goes on accordingly. -/
theorem reaches_asking {access : BreakerAccess} {more rest : List BreakerAccess}
    (performed : access.perform cb now = (next, more)) (returns : ∀ error, access ≠ .reject error) :
    Reaches now (cb, .asking (access :: rest)) (next, .asking (more ++ rest)) := by
  -- Only a rejection would end the call.
  refine ⟨1, ?_⟩
  cases access with
  | reject error => exact absurd rfl (returns error)
  | _ =>
    simp only [Threads.solo, List.replicate, exec_cons, exec_nil, BreakerFrame.asking, advance,
      performed, Option.bind_some]

/-- A goroutine in `afterRequest` compares what it has loaded and goes on accordingly. -/
theorem reaches_recording {access : BreakerAccess} {more rest : List BreakerAccess}
    (performed : access.perform cb now = (next, more)) :
    Reaches now (cb, .recording (access :: rest)) (next, .recording (more ++ rest)) := by
  refine ⟨1, ?_⟩
  simp only [Threads.solo, List.replicate, exec_cons, exec_nil, BreakerFrame.recording, advance,
    performed, Option.bind_some]

/-- The first two accesses count the request and load the state, which leads to the next. -/
theorem reaches_loaded {accesses : List BreakerAccess}
    (leads : (BreakerAccess.perform cb now .loadState).2 = accesses) :
    Reaches now (cb, .beforeRequest [.addTotalRequests, .loadState])
      ({ cb with totalRequests := cb.totalRequests + 1 }, .asking accesses) := by
  -- Counting the request does not change the state.
  have loaded : Reaches now (cb, .beforeRequest [.addTotalRequests, .loadState])
      ({ cb with totalRequests := cb.totalRequests + 1 },
        .asking ((BreakerAccess.perform cb now .loadState).2 ++ [])) := ⟨2, rfl⟩
  rwa [List.append_nil, leads] at loaded

/-- Left alone, a goroutine is admitted or refused as by the whole of `beforeRequest`. -/
theorem reaches_beforeRequest (cb : CircuitBreaker) (now : Int) :
    Reaches now (cb, .beforeRequest [.addTotalRequests, .loadState])
      ((cb.beforeRequest now).1,
        match (cb.beforeRequest now).2 with
        | none => .request
        | some error => .idle (some error)) := by
  -- The state that is loaded decides about the next access, and that one about the rest.
  let counted := { cb with totalRequests := cb.totalRequests + 1 }
  rcases cb.beforeRequest_branch now with
    closed | ⟨opened, early⟩ | ⟨opened, elapsed⟩ | ⟨testing, free⟩ | ⟨testing, full⟩
  · have leads : (BreakerAccess.perform cb now .loadState).2 = [] := by
      simp only [BreakerAccess.perform, closed]
    rw [beforeRequest_closed closed]
    exact reaches_loaded leads
  · have refused : BreakerAccess.perform counted now .loadLastFailTime =
        (counted, [.reject .errCircuitOpen]) := Prod.ext rfl (if_neg (Int.not_lt.mpr early))
    have leads : (BreakerAccess.perform cb now .loadState).2 = [.loadLastFailTime] := by
      simp only [BreakerAccess.perform, opened]
    rw [beforeRequest_early opened early]
    refine (reaches_loaded leads).trans ?_
    exact (reaches_asking refused (by simp)).trans ⟨1, rfl⟩
  · have admitted : BreakerAccess.perform counted now .loadLastFailTime =
        (counted, [.loadOldState .stateHalfOpen]) := Prod.ext rfl (if_pos elapsed)
    have leads : (BreakerAccess.perform cb now .loadState).2 = [.loadLastFailTime] := by
      simp only [BreakerAccess.perform, opened]
    rw [beforeRequest_probe opened elapsed]
    refine (reaches_loaded leads).trans ?_
    refine (reaches_asking admitted (by simp)).trans ?_
    cases cb
    cases opened
    exact ⟨4, rfl⟩
  · have taken : BreakerAccess.perform counted now .takeSlot =
        ({ counted with halfOpenReqs := counted.halfOpenReqs + 1 }, []) :=
      Prod.ext rfl (if_neg (UInt32.not_lt.mpr free))
    have leads : (BreakerAccess.perform cb now .loadState).2 = [.takeSlot] := by
      simp only [BreakerAccess.perform, testing]
    rw [beforeRequest_slot testing free]
    refine (reaches_loaded leads).trans ?_
    exact reaches_asking taken (by simp)
  · have taken : BreakerAccess.perform counted now .takeSlot =
        ({ counted with halfOpenReqs := counted.halfOpenReqs + 1 },
          [.giveSlot, .reject .errTooManyRequests]) := Prod.ext rfl (if_pos full)
    -- The slot that was one too many is given back before the call is refused.
    have given := add_one_add_ones cb.halfOpenReqs
    have leads : (BreakerAccess.perform cb now .loadState).2 = [.takeSlot] := by
      simp only [BreakerAccess.perform, testing]
    rw [beforeRequest_full testing full]
    refine (reaches_loaded leads).trans ?_
    refine (reaches_asking taken (by simp)).trans ⟨2, ?_⟩
    simp only [Threads.solo, List.replicate, exec_cons, exec_nil, BreakerFrame.asking, advance,
      BreakerAccess.perform, Option.bind_some, List.nil_append, List.append_nil, counted, given]

/-- Left alone, a goroutine counts its failure against the threshold of a closed breaker. -/
theorem reaches_afterRequest_closed (closed : cb.state = .stateClosed) (now : Int) :
    Reaches now (cb, .afterRequest [.loadStateAfter true])
      (cb.afterRequest true now, .idle none) := by
  -- Five accesses lead to the count of failures, which decides whether the breaker opens.
  let counted : CircuitBreaker :=
    { cb with
      totalFailures := cb.totalFailures + 1
      failures := cb.failures + 1
      consecutiveFails := cb.consecutiveFails + 1
      lastFailTime := some now }
  have read : Reaches now (cb, .afterRequest [.loadStateAfter true])
      (counted, .recording [.loadFailures]) := by
    cases cb
    cases closed
    exact ⟨5, rfl⟩
  by_cases enough : cb.maxFailures ≤ cb.failures + 1
  · have compared : BreakerAccess.perform counted now .loadFailures =
        (counted, [.loadOldState .stateOpen]) := Prod.ext rfl (if_pos enough)
    have after : cb.afterRequest true now = counted.setState .stateOpen now := by
      simp [afterRequest, onFailure, closed, enough, counted]
    rw [after]
    refine read.trans ((reaches_recording compared).trans ?_)
    cases cb
    cases closed
    exact ⟨4, rfl⟩
  · have compared : BreakerAccess.perform counted now .loadFailures = (counted, []) :=
      Prod.ext rfl (if_neg enough)
    have after : cb.afterRequest true now = counted := by
      simp [afterRequest, onFailure, closed, enough, counted]
    rw [after]
    exact read.trans (reaches_recording compared)

/-- Left alone, a goroutine counts its success for a breaker under test, and gives its slot back. -/
theorem reaches_afterRequest_halfOpen (testing : cb.state = .stateHalfOpen) (now : Int) :
    Reaches now (cb, .afterRequest [.loadStateAfter false])
      (cb.afterRequest false now, .idle none) := by
  -- Three accesses lead to the count of successes, which decides whether the breaker closes.
  let counted : CircuitBreaker :=
    { cb with totalSuccesses := cb.totalSuccesses + 1, successes := cb.successes + 1 }
  have read : Reaches now (cb, .afterRequest [.loadStateAfter false])
      (counted, .recording [.loadSuccesses, .giveSlot]) := by
    cases cb
    cases testing
    exact ⟨3, rfl⟩
  by_cases enough : cb.maxFailures / 2 ≤ cb.successes + 1
  · have compared : BreakerAccess.perform counted now .loadSuccesses =
        (counted, [.loadOldState .stateClosed, .storeFailures, .storeConsecutiveFails,
          .storeSuccesses]) := Prod.ext rfl (if_pos enough)
    refine read.trans ((reaches_recording compared).trans ?_)
    have after : cb.afterRequest false now =
        { counted.setState .stateClosed now with
          failures := 0
          consecutiveFails := 0
          successes := 0
          halfOpenReqs := cb.halfOpenReqs + ~~~0 } := by
      simp [afterRequest, onSuccess, testing, enough, counted, setState_eq]
    rw [after]
    cases cb
    cases testing
    exact ⟨8, rfl⟩
  · have compared : BreakerAccess.perform counted now .loadSuccesses = (counted, []) :=
      Prod.ext rfl (if_neg enough)
    have after : cb.afterRequest false now =
        { counted with halfOpenReqs := cb.halfOpenReqs + ~~~0 } := by
      simp [afterRequest, onSuccess, testing, enough, counted]
    rw [after]
    exact read.trans ((reaches_recording compared).trans ⟨1, rfl⟩)

/-- Left alone, a goroutine records its result as by the whole of `afterRequest`. -/
theorem reaches_afterRequest (cb : CircuitBreaker) (failed : Bool) (now : Int) :
    Reaches now (cb, .afterRequest [.loadStateAfter failed])
      (cb.afterRequest failed now, .idle none) := by
  -- The state that is read decides about the accesses, and in two cases a threshold as well.
  cases read : cb.state with
  | stateOpen =>
    cases failed with
    | false =>
      cases cb
      cases read
      exact ⟨2, rfl⟩
    | true =>
      cases cb
      cases read
      exact ⟨5, rfl⟩
  | stateClosed =>
    cases failed with
    | false =>
      cases cb
      cases read
      exact ⟨4, rfl⟩
    | true => exact reaches_afterRequest_closed read now
  | stateHalfOpen =>
    cases failed with
    | false => exact reaches_afterRequest_halfOpen read now
    | true =>
      cases cb
      cases read
      exact ⟨11, rfl⟩

end CircuitBreaker

/-- The transitions that the state machine of a breaker has. -/
def CircuitState.legal : CircuitState → CircuitState → Bool
  | .stateClosed, .stateOpen => true
  | .stateOpen, .stateHalfOpen => true
  | .stateHalfOpen, .stateOpen => true
  | .stateHalfOpen, .stateClosed => true
  | _, _ => false

namespace BreakerAccess

/-- The transition that `setState` is carrying out with an access. -/
def transition : BreakerAccess → Option (CircuitState × CircuitState)
  | storeState oldState newState => some (oldState, newState)
  | storeStateChangedTime oldState newState => some (oldState, newState)
  | notify oldState newState => some (oldState, newState)
  | _ => none

/-- The transition that `setState` decides on with an access. -/
def leadsTo (cb : CircuitBreaker) : BreakerAccess → Option (CircuitState × CircuitState)
  | loadOldState newState => if cb.state = newState then none else some (cb.state, newState)
  | _ => none

/-- An access that reports no transition, carries out none and decides on none changes nothing. -/
theorem perform_unmoved {cb : CircuitBreaker} {now : Int} {access : BreakerAccess}
    (reported : (access.perform cb now).1.notified = cb.notified)
    (after : (access.perform cb now).2.filterMap transition = [])
    (carried : access.transition = none) (decided : access.leadsTo cb = none)
    (pair : CircuitState × CircuitState) :
    (pair ∈ (access.perform cb now).1.notified ∨
        pair ∈ (access.perform cb now).2.filterMap transition) ↔
      pair ∈ cb.notified ∨ pair ∈ access.transition ∨ pair ∈ access.leadsTo cb := by
  simp [reported, after, carried, decided]

/-- A transition is carried out until it is reported, and begins with the load of the old state. -/
theorem perform_transition (cb : CircuitBreaker) (now : Int) (access : BreakerAccess)
    (pair : CircuitState × CircuitState) :
    (pair ∈ (access.perform cb now).1.notified ∨
        pair ∈ (access.perform cb now).2.filterMap transition) ↔
      pair ∈ cb.notified ∨ pair ∈ access.transition ∨ pair ∈ access.leadsTo cb := by
  -- Only `setState` has to do with transitions, and the other accesses at most lead up to it.
  cases access with
  | loadState =>
    refine perform_unmoved rfl ?_ rfl rfl pair
    rw [perform]
    cases cb.state <;> rfl
  | loadStateAfter failed =>
    refine perform_unmoved rfl ?_ rfl rfl pair
    rw [perform]
    cases failed <;> cases cb.state <;> rfl
  | loadLastFailTime =>
    refine perform_unmoved rfl ?_ rfl rfl pair
    rw [perform]
    split <;> rfl
  | takeSlot =>
    refine perform_unmoved rfl ?_ rfl rfl pair
    rw [perform]
    split <;> rfl
  | loadSuccesses =>
    refine perform_unmoved rfl ?_ rfl rfl pair
    rw [perform]
    split <;> rfl
  | loadFailures =>
    refine perform_unmoved rfl ?_ rfl rfl pair
    rw [perform]
    split <;> rfl
  | loadOldState newState =>
    by_cases same : cb.state = newState
    · simp [perform, transition, leadsTo, same]
    · simp [perform, transition, leadsTo, same, eq_comm]
  | storeState oldState newState => simp [perform, transition, leadsTo, eq_comm]
  | storeStateChangedTime oldState newState => simp [perform, transition, leadsTo, eq_comm]
  | notify oldState newState => simp [perform, transition, leadsTo, eq_comm]
  | giveSlot => simp [perform, transition, leadsTo]
  | _ => exact perform_unmoved rfl rfl rfl rfl pair

end BreakerAccess

/-- Any number of goroutines over one breaker. -/
abbrev CircuitRace := Threads CircuitBreaker BreakerFrame

namespace CircuitRace

/-- A new breaker that nobody is using yet. -/
def start (config : CircuitBreakerConfig) (now : Int) : CircuitRace :=
  ⟨newCircuitBreaker config now, fun _ => .idle none⟩

/-- One goroutine takes a step. -/
abbrev step : CircuitRace → Nat × BreakerChoice → Option CircuitRace :=
  Threads.step CircuitBreaker.advance

/-- No goroutine is inside one of the breaker's own functions. -/
def Quiescent (race : CircuitRace) : Prop := ∀ thread, (race.frame thread).accesses = []

/-- The access a goroutine makes with a step, if it makes one. -/
def access (race : CircuitRace) (label : Nat × BreakerChoice) : Option BreakerAccess :=
  match label.2 with
  | .run _ => (race.frame label.1).accesses.head?
  | _ => none

/-- The transition that `setState` decides on with a step. -/
def decides (race : CircuitRace) (label : Nat × BreakerChoice) :
    Option (CircuitState × CircuitState) :=
  (race.access label).bind fun access => access.leadsTo race.shared

/-- If `setState` loads the old state, then that state may be followed by the new one. -/
def LoadsLegal (race : CircuitRace) (label : Nat × BreakerChoice) : Prop :=
  ∀ newState, race.access label = some (.loadOldState newState) →
    race.shared.state = newState ∨ race.shared.state.legal newState

/-- If `setState` stores the new state, then no other goroutine has left the old one meanwhile. -/
def StoresUndisturbed (race : CircuitRace) (label : Nat × BreakerChoice) : Prop :=
  ∀ oldState newState, race.access label = some (.storeState oldState newState) →
    race.shared.state = oldState ∨ race.shared.state = newState

/-- If the step changes the state, then it does so legally. -/
def MovesLegally (race : CircuitRace) (label : Nat × BreakerChoice) : Prop :=
  ∀ next, race.step label = some next →
    next.shared.state = race.shared.state ∨ race.shared.state.legal next.shared.state

/-- The transition has been reported, or a goroutine is carrying it out. -/
def Announced (race : CircuitRace) (pair : CircuitState × CircuitState) : Prop :=
  pair ∈ race.shared.notified ∨
    ∃ thread, pair ∈ (race.frame thread).accesses.filterMap BreakerAccess.transition

/-- Whatever has been reported or will be is legal. -/
def Lawful (race : CircuitRace) : Prop := ∀ pair, race.Announced pair → pair.1.legal pair.2

variable {race next : CircuitRace} {label : Nat × BreakerChoice}

/-- A step begins one half of a call, or makes the next access of it. -/
theorem step_access (taken : race.step label = some next) :
    (race.access label = none ∧ next.shared = race.shared ∧
        (race.frame label.1).accesses = [] ∧
        (next.frame label.1).accesses.filterMap BreakerAccess.transition = []) ∨
      ∃ now access rest, race.access label = some access ∧
        (race.frame label.1).accesses = access :: rest ∧
        next.shared = (access.perform race.shared now).1 ∧
        (next.frame label.1).accesses = (access.perform race.shared now).2 ++ rest := by
  -- The cases follow the definition of a step.
  obtain ⟨thread, choice⟩ := label
  obtain ⟨cb, frame, advanced, rfl⟩ := Threads.step_eq_some.mp taken
  simp only [access, Function.update_self]
  generalize race.frame thread = place at advanced ⊢
  unfold CircuitBreaker.advance at advanced
  split at advanced
  · cases advanced
    exact .inl ⟨rfl, rfl, rfl, rfl⟩
  · cases advanced
    exact .inl ⟨rfl, rfl, rfl, rfl⟩
  · rename_i error now
    cases advanced
    exact .inr ⟨now, .reject error, [], rfl, rfl, rfl, rfl⟩
  · rename_i access rest now _
    cases advanced
    exact .inr ⟨now, access, rest, rfl, rfl, rfl, BreakerFrame.asking_accesses _⟩
  · rename_i access rest now
    cases advanced
    exact .inr ⟨now, access, rest, rfl, rfl, rfl, BreakerFrame.recording_accesses _⟩
  · cases advanced

/-- A step leaves the accesses of other goroutines alone. -/
theorem step_other (taken : race.step label = some next) {thread : Nat}
    (other : thread ≠ label.1) : next.frame thread = race.frame thread := by
  obtain ⟨cb, frame, _, rfl⟩ := Threads.step_eq_some.mp taken
  simp only [Function.update_of_ne other]

/-- A transition is announced in the reports, by one goroutine, or by any of the others. -/
theorem announced_iff (race : CircuitRace) (thread : Nat) (pair : CircuitState × CircuitState) :
    race.Announced pair ↔ pair ∈ race.shared.notified ∨
      pair ∈ (race.frame thread).accesses.filterMap BreakerAccess.transition ∨
      ∃ other, other ≠ thread ∧
        pair ∈ (race.frame other).accesses.filterMap BreakerAccess.transition := by
  -- Whoever carries it out is the one goroutine or another.
  unfold Announced
  constructor
  · intro given
    rcases given with reported | ⟨other, carried⟩
    · exact .inl reported
    · by_cases own : other = thread
      · exact .inr (.inl (own ▸ carried))
      · exact .inr (.inr ⟨other, own, carried⟩)
  · intro given
    rcases given with reported | own | ⟨other, _, carried⟩
    · exact .inl reported
    · exact .inr ⟨thread, own⟩
    · exact .inr ⟨other, carried⟩

/-- What is announced after a step was announced before, or is what the step has decided on. -/
theorem step_announced (taken : race.step label = some next)
    (pair : CircuitState × CircuitState) :
    next.Announced pair ↔ race.Announced pair ∨ pair ∈ race.decides label := by
  have others : (∃ other, other ≠ label.1 ∧
        pair ∈ (next.frame other).accesses.filterMap BreakerAccess.transition) ↔
      ∃ other, other ≠ label.1 ∧
        pair ∈ (race.frame other).accesses.filterMap BreakerAccess.transition := by
    apply exists_congr
    intro other
    apply and_congr_right
    intro differs
    rw [step_other taken differs]
  rw [announced_iff next label.1, announced_iff race label.1, others]
  rcases step_access taken with
    ⟨idle, shared, before, after⟩ | ⟨now, access, rest, made, before, shared, after⟩
  · -- A call begins, and nothing is decided.
    simp [decides, idle, shared, before, after]
  · -- The access carries its transition on or reports it, and may decide on another one.
    have performed := access.perform_transition race.shared now pair
    have first : pair ∈ (access :: rest).filterMap BreakerAccess.transition ↔
        pair ∈ access.transition ∨ pair ∈ rest.filterMap BreakerAccess.transition := by
      cases carried : access.transition <;> simp [carried, eq_comm]
    rw [shared, before, after, first, List.filterMap_append, List.mem_append, decides, made,
      Option.bind_some]
    -- On both sides stand the same alternatives, in another order.
    rw [← or_assoc, ← or_assoc, performed]
    simp only [or_assoc, or_left_comm, or_comm]

/-- A load is legal exactly when the transition decided on with it is. -/
theorem loadsLegal_iff (race : CircuitRace) (label : Nat × BreakerChoice) :
    race.LoadsLegal label ↔ ∀ pair ∈ race.decides label, pair.1.legal pair.2 := by
  unfold LoadsLegal decides
  constructor
  · intro loads pair decided
    obtain ⟨access, made, leads⟩ := Option.bind_eq_some_iff.mp decided
    cases access with
    | loadOldState newState =>
      simp only [BreakerAccess.leadsTo, Option.ite_none_left_eq_some, Option.some.injEq] at leads
      obtain ⟨differs, rfl⟩ := leads
      exact (loads newState made).resolve_left differs
    | _ => cases leads
  · intro legal newState made
    by_cases same : race.shared.state = newState
    · exact .inl same
    · refine .inr (legal (race.shared.state, newState) ?_)
      simp [made, BreakerAccess.leadsTo, same]

/-- Whether a load is legal shows in what is decided with it. -/
instance (race : CircuitRace) (label : Nat × BreakerChoice) : Decidable (race.LoadsLegal label) :=
  decidable_of_iff (∀ pair ∈ race.decides label, pair.1.legal pair.2)
    (loadsLegal_iff race label).symm

/-- A step keeps the law exactly when it decides on no illegal transition. -/
theorem step_lawful (taken : race.step label = some next) :
    next.Lawful ↔ race.Lawful ∧ race.LoadsLegal label := by
  -- All that is announced anew is the transition decided on.
  rw [loadsLegal_iff]
  simp only [Lawful, step_announced taken]
  constructor
  · intro legal
    exact ⟨fun pair before => legal pair (.inl before),
      fun pair decided => legal pair (.inr decided)⟩
  · intro given pair announced
    rcases announced with before | decided
    · exact given.1 pair before
    · exact given.2 pair decided

/-- A goroutine that finds the old state still there moves the breaker legally. -/
theorem Lawful.movesLegally (lawful : race.Lawful) (undisturbed : race.StoresUndisturbed label) :
    race.MovesLegally label := by
  -- Only one access stores to the state, and its transition is announced.
  intro next taken
  rcases step_access taken with
    ⟨_, shared, _, _⟩ | ⟨now, access, rest, made, before, shared, _⟩
  · exact .inl (by rw [shared])
  · rw [shared]
    cases access with
    | storeState oldState newState =>
      have legal : oldState.legal newState := by
        apply lawful (oldState, newState)
        refine .inr ⟨label.1, ?_⟩
        simp [before, BreakerAccess.transition]
      rcases undisturbed oldState newState made with still | already
      · exact .inr (by rw [still]; exact legal)
      · exact .inl already.symm
    | _ => simp [BreakerAccess.perform]

/--
Every transition that concurrent calls report is legal exactly when each `setState` loads a state
that may be followed by the new one: the breaker has not been opened since the call that closes it
read half-open, and has not been closed since the call that probes it read open.

If moreover nobody changes the state between that load and the store, then the state itself only
ever moves along legal transitions.
-/
theorem reports_legal_iff_loads_legal (config : CircuitBreakerConfig) (now : Int)
    (trace : List (Nat × BreakerChoice)) (final : CircuitRace)
    (ran : exec step (start config now) trace = some final) :
    (final.Quiescent →
      ((∀ pair ∈ final.shared.notified, pair.1.legal pair.2) ↔
        Along step LoadsLegal (start config now) trace)) ∧
    (Along step LoadsLegal (start config now) trace →
      (∀ pair ∈ final.shared.notified, pair.1.legal pair.2) ∧
      (Along step StoresUndisturbed (start config now) trace →
        Along step MovesLegally (start config now) trace)) := by
  -- Once all calls have returned, what was decided on has been reported.
  have initially : (start config now).Lawful := by
    intro pair announced
    rcases announced with reported | ⟨thread, carried⟩
    · cases reported
    · cases carried
  have decided : final.Lawful ↔ Along step LoadsLegal (start config now) trace := by
    rw [exec_iff_along (fun _ _ _ taken => step_lawful taken) ran]
    exact and_iff_right initially
  refine ⟨?_, ?_⟩
  · intro quiescent
    rw [← decided]
    constructor
    · intro legal pair announced
      rcases announced with reported | ⟨thread, carried⟩
      · exact legal pair reported
      · simp [quiescent thread] at carried
    · intro lawful pair reported
      exact lawful pair (.inl reported)
  · intro loads
    refine ⟨fun pair reported => decided.mpr loads pair (.inl reported), ?_⟩
    intro undisturbed
    refine along_of_invariant Lawful ?_ ?_ initially ((along_and _ _).mpr ⟨loads, undisturbed⟩)
    · intro race label next lawful given taken
      exact (step_lawful taken).mpr ⟨lawful, given.1⟩
    · intro race label lawful given
      exact lawful.movesLegally given.2

/-- The settings of a breaker that opens at its second failure and closes at its first success. -/
def twoFailures : CircuitBreakerConfig := ⟨"test", 2, second, 2⟩

/-- A goroutine asks for admission and makes a number of accesses. -/
def asks (thread : Nat) (now : Int) (accesses : Nat) : List (Nat × BreakerChoice) :=
  (thread, .execute) :: List.replicate accesses (thread, .run now)

/-- The request of a goroutine ends, and it makes a number of accesses to record the result. -/
def ends (thread : Nat) (failed : Bool) (now : Int) (accesses : Nat) :
    List (Nat × BreakerChoice) :=
  (thread, .finish failed) :: List.replicate accesses (thread, .run now)

/-- Two failures open the circuit, and two requests are let in after the timeout. -/
def twoProbes : List (Nat × BreakerChoice) :=
  asks 0 0 2 ++ ends 0 true 0 6 ++ asks 0 0 2 ++ ends 0 true 0 10 ++
    asks 0 (2 * second) 7 ++ asks 1 (2 * second) 3

/-- A probe that fails after another one has closed the circuit leads to legal transitions only. -/
theorem probes_in_turn_report_legally :
    ∃ final, exec step (start twoFailures 0)
        (twoProbes ++ ends 0 false (3 * second) 12 ++ ends 1 true (3 * second) 6) = some final ∧
      ∀ pair ∈ final.shared.notified, pair.1.legal pair.2 := by
  -- Each goroutine records its result without interruption.
  have ran : exec step (start twoFailures 0)
      (twoProbes ++ ends 0 false (3 * second) 12 ++ ends 1 true (3 * second) 6) = some _ := rfl
  have loads : Along step LoadsLegal (start twoFailures 0)
      (twoProbes ++ ends 0 false (3 * second) 12 ++ ends 1 true (3 * second) 6) := by
    decide
  exact ⟨_, ran, ((reports_legal_iff_loads_legal twoFailures 0 _ _ ran).2 loads).1⟩

/--
One probe succeeds and another fails at the same time, and the circuit jumps from open to closed.

The success has read half-open and counted enough successes before the failure opens the circuit.
-/
theorem racing_probes_jump_to_closed :
    ∃ final, exec step (start twoFailures 0)
        (twoProbes ++ ends 0 false (3 * second) 4 ++ ends 1 true (3 * second) 11 ++
          List.replicate 8 (0, .run (3 * second))) = some final ∧
      final.Quiescent ∧ final.shared.state = .stateClosed ∧
      final.shared.notified =
        [(.stateClosed, .stateOpen), (.stateOpen, .stateHalfOpen), (.stateHalfOpen, .stateOpen),
          (.stateOpen, .stateClosed)] := by
  -- The schedule evaluates, with both goroutines back at its end.
  refine ⟨_, rfl, ?_, rfl, rfl⟩
  intro thread
  rcases thread with _ | _ | thread <;> rfl

end CircuitRace

end Balance
