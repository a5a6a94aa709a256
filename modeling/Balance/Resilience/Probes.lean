import Balance.Resilience.HalfOpen

/-! Whether a circuit that closes again was tested by requests of its own half-open period. -/

namespace Balance

open Go Machine

/-- A breaker in use, with the number of successes that prove its recovery. -/
structure Recovery where
  traffic : Traffic
  /-- Successes since the breaker last left open, of requests admitted since then. -/
  proved : Nat

namespace Recovery

/-- A new breaker has nothing to recover from. -/
def start (config : CircuitBreakerConfig) (now : Int) : Recovery := ⟨Traffic.start config now, 0⟩

/-- The request that ends was admitted since the breaker last left open. -/
def Current (recovery : Recovery) (request : Nat) : Prop :=
  recovery.traffic.inFlight[request]? = some recovery.traffic.round

instance (recovery : Recovery) (request : Nat) : Decidable (recovery.Current request) :=
  inferInstanceAs (Decidable (_ = _))

/-- The successes that count after a step. -/
def provedAfter (recovery : Recovery) (next : Traffic) : CircuitEvent → Nat
  -- Whoever makes the breaker leave open starts the count anew.
  | .before _ => if next.round = recovery.traffic.round then recovery.proved else 0
  | .after request failed _ =>
    if failed = false ∧ recovery.Current request then recovery.proved + 1 else recovery.proved

/-- One step of any client. -/
def step (recovery : Recovery) (event : CircuitEvent) : Option Recovery :=
  (recovery.traffic.step event).map fun next => ⟨next, recovery.provedAfter next event⟩

/-- The successes without which a half-open circuit must not close. -/
def needed (recovery : Recovery) : Nat := max 1 (recovery.traffic.breaker.maxFailures.toNat / 2)

/-- If the step closes a half-open circuit, enough successes have proved the recovery. -/
def ClosesProved (recovery : Recovery) (event : CircuitEvent) : Prop :=
  ∀ next, recovery.step event = some next → recovery.traffic.breaker.state = .stateHalfOpen →
    next.traffic.breaker.state = .stateClosed → recovery.needed ≤ next.proved

/-- No request admitted before the breaker last left open succeeds while it is half-open. -/
def NoLateSuccess (recovery : Recovery) : CircuitEvent → Prop
  | .before _ => True
  | .after request failed _ =>
    recovery.traffic.breaker.state = .stateHalfOpen → failed = false → recovery.Current request

/-- Every success that the breaker has counted proves the recovery. -/
structure Counted (recovery : Recovery) : Prop where
  testing : recovery.traffic.breaker.state = .stateHalfOpen →
    recovery.traffic.breaker.successes.toNat ≤ recovery.proved
  elsewhere : recovery.traffic.breaker.state ≠ .stateHalfOpen →
    recovery.traffic.breaker.successes = 0

variable {recovery next : Recovery} {event : CircuitEvent}

/-- A step is a step of the traffic, with the count brought up to date. -/
theorem step_eq_some :
    recovery.step event = some next ↔
      ∃ traffic, recovery.traffic.step event = some traffic ∧
        next = ⟨traffic, recovery.provedAfter traffic event⟩ := by
  -- The count follows the traffic and never stands in its way.
  simp only [step, Option.map_eq_some_iff]
  constructor
  · intro given
    rcases given with ⟨traffic, taken, rfl⟩
    exact ⟨traffic, taken, rfl⟩
  · intro given
    rcases given with ⟨traffic, taken, rfl⟩
    exact ⟨traffic, taken, rfl⟩

/-- One more success is at most one more, even where the counter wraps around. -/
theorem toNat_add_one_le (successes : UInt32) : (successes + 1).toNat ≤ successes.toNat + 1 := by
  rw [UInt32.toNat_add]
  exact Nat.mod_le _ _

/-- As long as no late success comes in, only proofs of recovery are counted. -/
theorem Counted.step (counted : Counted recovery) (given : recovery.NoLateSuccess event)
    (taken : recovery.step event = some next) : Counted next := by
  obtain ⟨traffic, moved, rfl⟩ := step_eq_some.mp taken
  cases event with
  | before now =>
    obtain ⟨_, rfl⟩ := Traffic.step_before.mp moved
    -- An admission counts nothing, and the one that begins a test finds nothing counted.
    rcases recovery.traffic.breaker.beforeRequest_branch now with
      closed | ⟨opened, early⟩ | ⟨opened, elapsed⟩ | ⟨testing, free⟩ | ⟨testing, full⟩
    · have none := counted.elsewhere (by simp [closed])
      constructor <;> simp [Traffic.before_closed now closed, closed, none]
    · have none := counted.elsewhere (by simp [opened])
      constructor <;> simp [Traffic.before_early now opened early, opened, none]
    · have none := counted.elsewhere (by simp [opened])
      constructor <;> simp [Traffic.before_probe now opened elapsed, none]
    · have some := counted.testing testing
      constructor <;> simp [Traffic.before_slot now testing free, testing, provedAfter, some]
    · have some := counted.testing testing
      constructor <;> simp [Traffic.before_full now testing full, testing, provedAfter, some]
  | after request failed now =>
    obtain ⟨_, rfl⟩ := Traffic.step_after.mp moved
    constructor
    · -- The circuit stays half-open only after a success, which is not a late one.
      intro still
      obtain ⟨testing, rfl, short⟩ := Traffic.after_halfOpen_iff.mp still
      have before := counted.testing testing
      have current := given testing rfl
      have more := toNat_add_one_le recovery.traffic.breaker.successes
      simp only [Traffic.after, CircuitBreaker.afterRequest_successes, testing, provedAfter,
        current, UInt32.not_le.mpr short, if_true, if_false, ge_iff_le, Bool.false_eq_true,
        false_or, and_self]
      omega
    · -- Leaving the half-open state forgets the count.
      intro left
      rw [Ne, Traffic.after_halfOpen_iff] at left
      simp only [Traffic.after, CircuitBreaker.afterRequest_successes]
      by_cases testing : recovery.traffic.breaker.state = .stateHalfOpen
      · rw [if_pos testing, if_pos]
        by_contra short
        simp only [not_or, Bool.not_eq_true, UInt32.not_le] at short
        exact left ⟨testing, short⟩
      · rw [if_neg testing]
        exact counted.elsewhere testing

/-- Where only proofs of recovery are counted, enough of them have been when the circuit closes. -/
theorem Counted.closesProved (counted : Counted recovery) (given : recovery.NoLateSuccess event) :
    recovery.ClosesProved event := by
  intro next taken testing closes
  obtain ⟨traffic, moved, rfl⟩ := step_eq_some.mp taken
  cases event with
  | before now =>
    -- Asking for admission never closes a half-open circuit.
    obtain ⟨_, rfl⟩ := Traffic.step_before.mp moved
    rcases recovery.traffic.breaker.beforeRequest_branch now with
      closed | ⟨opened, _⟩ | ⟨opened, _⟩ | ⟨_, free⟩ | ⟨_, full⟩
    · simp [closed] at testing
    · simp [opened] at testing
    · simp [opened] at testing
    · simp [Traffic.before_slot now testing free, testing] at closes
    · simp [Traffic.before_full now testing full, testing] at closes
  | after request failed now =>
    obtain ⟨_, rfl⟩ := Traffic.step_after.mp moved
    cases failed with
    | true => simp [Traffic.after, CircuitBreaker.afterRequest_state, testing] at closes
    | false =>
      -- The success that closes the circuit is itself a proof.
      have before := counted.testing testing
      have more := toNat_add_one_le recovery.traffic.breaker.successes
      have enough : recovery.traffic.breaker.maxFailures / 2 ≤
          recovery.traffic.breaker.successes + 1 := by
        simpa [Traffic.after, CircuitBreaker.afterRequest_state, testing, ite_eq_iff] using closes
      rw [UInt32.le_iff_toNat_le, UInt32.toNat_div] at enough
      simp only [needed, provedAfter, given testing rfl, and_self, if_true]
      simp only [UInt32.reduceToNat] at enough
      omega

/-- A closed circuit lets any number of requests in, some of which have failed. -/
structure Admitting (requests failures : Nat) (recovery : Recovery) : Prop where
  closed : recovery.traffic.breaker.state = .stateClosed
  inFlight : recovery.traffic.inFlight = List.replicate requests 0
  round : recovery.traffic.round = 0
  failed : recovery.traffic.breaker.failures.toNat = failures
  successes : recovery.traffic.breaker.successes = 0
  unproved : recovery.proved = 0

/-- The circuit has just opened for the first time, with requests still in flight. -/
structure Tripped (requests : Nat) (recovery : Recovery) : Prop where
  opened : recovery.traffic.breaker.state = .stateOpen
  failed : recovery.traffic.breaker.lastFailTime = some recovery.traffic.clock
  inFlight : recovery.traffic.inFlight = List.replicate requests 0
  round : recovery.traffic.round = 0
  successes : recovery.traffic.breaker.successes = 0
  unproved : recovery.proved = 0

/-- The circuit is half-open and has counted successes, none of which proves anything. -/
structure Misled (requests successes : Nat) (recovery : Recovery) : Prop where
  testing : recovery.traffic.breaker.state = .stateHalfOpen
  inFlight : recovery.traffic.inFlight = List.replicate requests 0 ++ [1]
  round : recovery.traffic.round = 1
  successes : recovery.traffic.breaker.successes.toNat = successes
  unproved : recovery.proved = 0

/-- Any number of requests are in flight through a new breaker before one of them ends. -/
theorem start_admitting (config : CircuitBreakerConfig) (now : Int) (requests : Nat) :
    ∃ trace reached, exec step (start config now) trace = some reached ∧
      reached.traffic.breaker.settings = (Traffic.start config now).breaker.settings ∧
      Admitting requests 0 reached := by
  -- A closed circuit admits one after the other.
  induction requests with
  | zero => exact ⟨[], start config now, rfl, rfl, rfl, rfl, rfl, rfl, rfl, rfl⟩
  | succ requests ih =>
    obtain ⟨trace, reached, ran, kept, admitting⟩ := ih
    obtain ⟨closed, inFlight, round, failed, successes, unproved⟩ := admitting
    let clock := reached.traffic.clock
    refine ⟨trace ++ [.before clock], ⟨reached.traffic.before clock, 0⟩, exec_trans ran ?_, ?_, ?_⟩
    · simp [step, Traffic.step, clock, provedAfter, unproved]
    · exact (reached.traffic.breaker.beforeRequest_settings clock).trans kept
    · rw [Traffic.before_closed clock closed]
      exact ⟨closed, by simp [inFlight, round, List.replicate_succ'], round, failed, successes, rfl⟩

/-- A failure counts one more, and opens the circuit at the threshold. -/
theorem Admitting.fail {requests failures : Nat}
    (admitting : Admitting (requests + 1) failures recovery)
    (below : failures < recovery.traffic.breaker.maxFailures.toNat) :
    ∃ event reached, recovery.step event = some reached ∧
      reached.traffic.breaker.settings = recovery.traffic.breaker.settings ∧
      if failures + 1 = recovery.traffic.breaker.maxFailures.toNat then Tripped requests reached
      else Admitting requests (failures + 1) reached := by
  -- The counter stays below the threshold, so adding one does not wrap around.
  obtain ⟨closed, inFlight, round, failed, successes, unproved⟩ := admitting
  have bound := recovery.traffic.breaker.maxFailures.toNat_lt
  have counted : (recovery.traffic.breaker.failures + 1).toNat = failures + 1 := by
    rw [UInt32.toNat_add, failed]
    exact Nat.mod_eq_of_lt (by simp only [UInt32.toNat_one]; omega)
  let clock := recovery.traffic.clock
  have fewer : (recovery.traffic.after 0 true clock).inFlight = List.replicate requests 0 := by
    simp [Traffic.after, inFlight, List.replicate_succ]
  have kept : (recovery.traffic.after 0 true clock).breaker.successes = 0 := by
    simp [Traffic.after, CircuitBreaker.afterRequest_successes, closed, successes]
  refine ⟨.after 0 true clock, ⟨recovery.traffic.after 0 true clock, 0⟩, ?_, ?_, ?_⟩
  · simp [step, Traffic.step, clock, provedAfter, unproved, inFlight]
  · exact recovery.traffic.breaker.afterRequest_settings true clock
  · split
    · rename_i reached
      have opens :
          recovery.traffic.breaker.maxFailures ≤ recovery.traffic.breaker.failures + 1 := by
        rw [UInt32.le_iff_toNat_le]
        omega
      refine ⟨?_, CircuitBreaker.afterRequest_lastFailTime _ _, fewer, round, kept, rfl⟩
      simp [Traffic.after, CircuitBreaker.afterRequest_state, closed, opens]
    · rename_i short
      have stays : ¬ recovery.traffic.breaker.maxFailures ≤
          recovery.traffic.breaker.failures + 1 := by
        rw [UInt32.le_iff_toNat_le]
        omega
      refine ⟨?_, fewer, round, ?_, kept, rfl⟩
      · simp [Traffic.after, CircuitBreaker.afterRequest_state, closed, stays]
      · simpa [Traffic.after, CircuitBreaker.afterRequest_failures] using counted

/-- Enough failures open the circuit, whatever else is in flight. -/
theorem Admitting.trips {requests : Nat} (remaining : Nat) :
    ∀ {failures : Nat} {recovery : Recovery},
      Admitting (requests + remaining + 1) failures recovery →
      failures + remaining + 1 = recovery.traffic.breaker.maxFailures.toNat →
      ∃ trace reached, exec step recovery trace = some reached ∧
        reached.traffic.breaker.settings = recovery.traffic.breaker.settings ∧
        Tripped requests reached := by
  -- The induction is on the failures still missing after the next one.
  induction remaining with
  | zero =>
    intro failures recovery admitting missing
    obtain ⟨event, reached, taken, kept, tripped⟩ := admitting.fail (by omega)
    rw [if_pos (by omega)] at tripped
    exact ⟨[event], reached, by simp [taken], kept, tripped⟩
  | succ remaining ih =>
    intro failures recovery admitting missing
    obtain ⟨event, reached, taken, kept, counting⟩ := admitting.fail (by omega)
    rw [if_neg (by omega)] at counting
    have same : reached.traffic.breaker.maxFailures = recovery.traffic.breaker.maxFailures :=
      (CircuitBreaker.settings_eq_iff.mp kept).1
    obtain ⟨trace, final, ran, still, tripped⟩ := ih counting (by rw [same]; omega)
    exact ⟨event :: trace, final, by simp [taken, ran], still.trans kept, tripped⟩

/-- Once the timeout has elapsed, a probe begins a test beside the requests of before. -/
theorem Tripped.probe {requests : Nat} (tripped : Tripped requests recovery)
    (finite : recovery.traffic.breaker.timeout < maxDuration) :
    ∃ event reached, recovery.step event = some reached ∧
      reached.traffic.breaker.settings = recovery.traffic.breaker.settings ∧
      Misled requests 0 reached := by
  -- One nanosecond more than the timeout is enough.
  obtain ⟨opened, failed, inFlight, round, successes, unproved⟩ := tripped
  let later := recovery.traffic.clock + (max recovery.traffic.breaker.timeout 0 + 1)
  have elapsed : recovery.traffic.breaker.timeout <
      since later recovery.traffic.breaker.getLastFailTime := by
    rw [CircuitBreaker.getLastFailTime, failed]
    exact lt_since_add finite recovery.traffic.clock
  have probed := Traffic.before_probe later opened elapsed
  refine ⟨.before later, ⟨recovery.traffic.before later, 0⟩, ?_, ?_, ?_⟩
  · rw [step_eq_some]
    refine ⟨_, Traffic.step_before.mpr ⟨by omega, rfl⟩, ?_⟩
    simp [provedAfter, probed]
  · exact recovery.traffic.breaker.beforeRequest_settings later
  · rw [probed]
    exact ⟨rfl, by simp [inFlight, round], by simp [round], by simp [successes], rfl⟩

/-- A late success is counted like any other, proves nothing, and may close the circuit. -/
theorem Misled.succeed {requests successes : Nat}
    (misled : Misled (requests + 1) successes recovery) (short : successes < recovery.needed) :
    ∃ event reached, recovery.step event = some reached ∧
      reached.traffic.breaker.settings = recovery.traffic.breaker.settings ∧
      reached.proved = 0 ∧
      if successes + 1 = recovery.needed then reached.traffic.breaker.state = .stateClosed
      else Misled requests (successes + 1) reached := by
  -- The counter stays below the threshold, so adding one does not wrap around.
  obtain ⟨testing, inFlight, round, counter, unproved⟩ := misled
  have bound := recovery.traffic.breaker.maxFailures.toNat_lt
  have limit : recovery.needed = max 1 (recovery.traffic.breaker.maxFailures.toNat / 2) := rfl
  have counted : (recovery.traffic.breaker.successes + 1).toNat = successes + 1 := by
    rw [UInt32.toNat_add, counter]
    exact Nat.mod_eq_of_lt (by simp only [UInt32.toNat_one]; omega)
  have threshold : recovery.traffic.breaker.maxFailures / 2 ≤
      recovery.traffic.breaker.successes + 1 ↔ successes + 1 = recovery.needed := by
    rw [UInt32.le_iff_toNat_le, UInt32.toNat_div, counted]
    simp only [UInt32.reduceToNat]
    omega
  let clock := recovery.traffic.clock
  refine ⟨.after 0 false clock, ⟨recovery.traffic.after 0 false clock, 0⟩, ?_, ?_, rfl, ?_⟩
  · rw [step_eq_some]
    refine ⟨_, Traffic.step_after.mpr ⟨⟨le_refl _, by simp [inFlight]⟩, rfl⟩, ?_⟩
    simp [provedAfter, Current, inFlight, round, unproved, List.replicate_succ]
  · exact recovery.traffic.breaker.afterRequest_settings false clock
  · split
    · rename_i enough
      simp [Traffic.after, CircuitBreaker.afterRequest_state, testing, threshold.mpr enough]
    · rename_i more
      have below : ¬ recovery.traffic.breaker.maxFailures / 2 ≤
          recovery.traffic.breaker.successes + 1 := fun enough => more (threshold.mp enough)
      refine ⟨?_, ?_, round, ?_, rfl⟩
      · simp [Traffic.after, CircuitBreaker.afterRequest_state, testing, below]
      · simp [Traffic.after, inFlight, List.replicate_succ]
      · simpa [Traffic.after, CircuitBreaker.afterRequest_successes, testing, below] using counted

/-- Late successes close the circuit without a single proof of recovery. -/
theorem Misled.closes (remaining : Nat) :
    ∀ {successes : Nat} {recovery : Recovery}, Misled (remaining + 1) successes recovery →
      successes + remaining + 1 = recovery.needed →
      ∃ trace reached event, exec step recovery trace = some reached ∧
        ¬ reached.ClosesProved event := by
  -- The induction is on the successes still missing after the next one.
  induction remaining with
  | zero =>
    intro successes recovery misled missing
    obtain ⟨event, reached, taken, kept, unproved, closed⟩ := misled.succeed (by omega)
    rw [if_pos (by omega)] at closed
    refine ⟨[], recovery, event, rfl, ?_⟩
    intro proves
    have enough := proves reached taken misled.testing closed
    omega
  | succ remaining ih =>
    intro successes recovery misled missing
    obtain ⟨event, reached, taken, kept, _, still⟩ := misled.succeed (by omega)
    rw [if_neg (by omega)] at still
    have same : reached.needed = recovery.needed := by
      rw [needed, needed, (CircuitBreaker.settings_eq_iff.mp kept).1]
    obtain ⟨trace, final, last, ran, unproved⟩ := ih still (by rw [same]; omega)
    exact ⟨event :: trace, final, last, by simp [taken, ran], unproved⟩

/-- Where the timeout can elapse, late successes can close a circuit that nothing has tested. -/
theorem start_misled (config : CircuitBreakerConfig) (now : Int)
    (finite : config.withDefaults.timeout < maxDuration) :
    ∃ trace recovery event, exec step (start config now) trace = some recovery ∧
      ¬ recovery.ClosesProved event := by
  -- Enough requests for the successes and for the failures are admitted before the circuit opens.
  have positive := Traffic.start_maxFailures_pos config now
  obtain ⟨admitting, first, admitted, kept₁, loaded⟩ := start_admitting config now
    ((start config now).needed + ((Traffic.start config now).breaker.maxFailures.toNat - 1) + 1)
  have failures : first.traffic.breaker.maxFailures =
      (Traffic.start config now).breaker.maxFailures := (CircuitBreaker.settings_eq_iff.mp kept₁).1
  obtain ⟨failing, second, failed, kept₂, tripped⟩ := loaded.trips _ (by rw [failures]; omega)
  have kept := kept₂.trans kept₁
  obtain ⟨probe, third, probed, kept₃, misled⟩ := tripped.probe (by
    rw [(CircuitBreaker.settings_eq_iff.mp kept).2.1]
    exact finite)
  have same : third.needed = (start config now).needed := by
    rw [needed, needed, (CircuitBreaker.settings_eq_iff.mp (kept₃.trans kept)).1]
    rfl
  have some : 1 ≤ (start config now).needed := le_max_left _ _
  rw [← Nat.sub_add_cancel some] at misled
  obtain ⟨succeeding, last, event, succeeded, unproved⟩ := misled.closes _ (by omega)
  refine ⟨admitting ++ (failing ++ probe :: succeeding), last, event, ?_, unproved⟩
  refine exec_trans admitted (exec_trans failed ?_)
  simp [probed, succeeded]

/-- Where the timeout never elapses, there is no half-open circuit that could close. -/
theorem closesProved_of_endless {config : CircuitBreakerConfig} {now : Int}
    (endless : maxDuration ≤ config.withDefaults.timeout) {trace : List CircuitEvent}
    (ran : exec step (start config now) trace = some recovery) : recovery.ClosesProved event := by
  -- The run is one of the breaker, which never becomes half-open.
  obtain ⟨traffic, reached, rfl⟩ := exec_simulation
    (fun recovery traffic => recovery.traffic = traffic)
    (fun recovery traffic event next same taken => by
      obtain ⟨moved, stepped, rfl⟩ := step_eq_some.mp taken
      exact ⟨moved, same ▸ stepped, rfl⟩) rfl ran
  intro next _ testing
  exact absurd testing (Traffic.not_halfOpen_of_endless endless rfl reached)

/--
Recovery is proved by probes in every run exactly when the timeout can never elapse.

In a single run it is, if no request from before the breaker last left open succeeds while
the breaker is half-open: the result of such a request is taken for that of a probe.
-/
theorem closesProved_of_no_late_success (config : CircuitBreakerConfig) (now : Int) :
    ((∀ trace recovery, exec step (start config now) trace = some recovery →
        ∀ event, recovery.ClosesProved event) ↔ maxDuration ≤ config.withDefaults.timeout) ∧
    ∀ trace, Along step NoLateSuccess (start config now) trace →
      Along step ClosesProved (start config now) trace := by
  -- A test that can begin at all can be passed by requests from before it.
  refine ⟨⟨?_, ?_⟩, ?_⟩
  · intro always
    by_contra finite
    obtain ⟨trace, recovery, event, ran, unproved⟩ := start_misled config now (not_le.mp finite)
    exact unproved (always trace recovery ran event)
  · intro endless trace recovery ran event
    exact closesProved_of_endless endless ran
  · intro trace given
    exact along_of_invariant Counted (fun _ _ _ counted given taken => counted.step given taken)
      (fun _ _ counted given => counted.closesProved given)
      ⟨by simp [start, Traffic.start, newCircuitBreaker], fun _ => rfl⟩ given

/--
A request from before the opening closes the circuit with the probe still in flight.

With a threshold of two failures, one success is enough.
-/
theorem late_success_closes_circuit :
    ∃ recovery next, exec step (start ⟨"test", 2, second / 10, 1⟩ 0)
        [.before 0, .before 0, .before 0, .after 0 true 0, .after 0 true 0, .before second] =
          some recovery ∧
      recovery.traffic.breaker.state = .stateHalfOpen ∧ recovery.traffic.inFlight = [0, 1] ∧
      recovery.step (.after 0 false second) = some next ∧
      next.traffic.breaker.state = .stateClosed ∧ next.proved = 0 ∧
      ¬ recovery.ClosesProved (.after 0 false second) := by
  -- The run evaluates, and its last success is of a request admitted in the closed state.
  refine ⟨_, _, rfl, rfl, rfl, rfl, rfl, rfl, ?_⟩
  intro proves
  exact absurd (proves _ rfl rfl rfl) (by decide)

end Recovery

end Balance
