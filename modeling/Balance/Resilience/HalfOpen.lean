import Balance.Resilience.CircuitTraffic

/-! Half-open slots: when a breaker gets stuck without them, and how many requests they let in. -/

namespace Balance

open Go Machine

namespace Traffic

/-- Nothing is in flight, nothing was counted but failures, and the circuit is still closed. -/
structure Counting (failures : Nat) (traffic : Traffic) : Prop where
  closed : traffic.breaker.state = .stateClosed
  failed : traffic.breaker.failures.toNat = failures
  idle : traffic.inFlight = []
  slots : traffic.breaker.halfOpenReqs = 0
  successes : traffic.breaker.successes = 0

/-- The circuit has just opened with nothing in flight and a given reading of the slot counter. -/
structure Resting (slots : UInt32) (traffic : Traffic) : Prop where
  opened : traffic.breaker.state = .stateOpen
  failed : traffic.breaker.lastFailTime = some traffic.clock
  idle : traffic.inFlight = []
  slots : traffic.breaker.halfOpenReqs = slots
  successes : traffic.breaker.successes = 0

/-- The circuit is half-open and all requests in flight belong to the current round. -/
structure Testing (slots : UInt32) (requests : Nat) (traffic : Traffic) : Prop where
  testing : traffic.breaker.state = .stateHalfOpen
  inFlight : traffic.inFlight = List.replicate requests traffic.round
  slots : traffic.breaker.halfOpenReqs = slots
  successes : traffic.breaker.successes = 0

/-- A new breaker has counted no failure. -/
theorem start_counting (config : CircuitBreakerConfig) (now : Int) :
    Counting 0 (start config now) :=
  ⟨rfl, rfl, rfl, rfl, rfl⟩

/-- A failing request counts one more failure, and opens the circuit at the threshold. -/
theorem Counting.fail {failures : Nat} {traffic : Traffic} (counting : Counting failures traffic)
    (below : failures < traffic.breaker.maxFailures.toNat) :
    ∃ next, exec step traffic [.before traffic.clock, .after 0 true traffic.clock] = some next ∧
      next.breaker.settings = traffic.breaker.settings ∧
      if failures + 1 = traffic.breaker.maxFailures.toNat then Resting 0 next
      else Counting (failures + 1) next := by
  -- The counter stays below the threshold, so adding one does not wrap around.
  have bound := traffic.breaker.maxFailures.toNat_lt
  have counted : (traffic.breaker.failures + 1).toNat = failures + 1 := by
    rw [UInt32.toNat_add, counting.failed]
    exact Nat.mod_eq_of_lt (by simp only [UInt32.toNat_one]; omega)
  refine ⟨(traffic.before traffic.clock).after 0 true traffic.clock, ?_, ?_, ?_⟩
  · simp [step, before_closed traffic.clock counting.closed, counting.idle]
  · rw [before_closed traffic.clock counting.closed]
    exact CircuitBreaker.afterRequest_settings _ _ _
  · rw [before_closed traffic.clock counting.closed]
    split
    · rename_i reached
      have opens : traffic.breaker.maxFailures ≤ traffic.breaker.failures + 1 := by
        rw [UInt32.le_iff_toNat_le]
        omega
      refine ⟨?_, ?_, ?_, ?_, ?_⟩
      · simp [after, CircuitBreaker.afterRequest_state, counting.closed, opens]
      · exact CircuitBreaker.afterRequest_lastFailTime _ _
      · simp [after, counting.idle]
      · simp [after, CircuitBreaker.afterRequest_halfOpenReqs, counting.closed, counting.slots]
      · simp [after, CircuitBreaker.afterRequest_successes, counting.closed, counting.successes]
    · rename_i short
      have stays : ¬ traffic.breaker.maxFailures ≤ traffic.breaker.failures + 1 := by
        rw [UInt32.le_iff_toNat_le]
        omega
      refine ⟨?_, ?_, ?_, ?_, ?_⟩
      · simp [after, CircuitBreaker.afterRequest_state, counting.closed, stays]
      · simpa [after, CircuitBreaker.afterRequest_failures] using counted
      · simp [after, counting.idle]
      · simp [after, CircuitBreaker.afterRequest_halfOpenReqs, counting.closed, counting.slots]
      · simp [after, CircuitBreaker.afterRequest_successes, counting.closed, counting.successes]

/-- Enough failures in a row open a circuit that has counted some of them already. -/
theorem Counting.opens (remaining : Nat) :
    ∀ {failures : Nat} {traffic : Traffic}, Counting failures traffic →
      failures + remaining + 1 = traffic.breaker.maxFailures.toNat →
      ∃ trace next, exec step traffic trace = some next ∧
        next.breaker.settings = traffic.breaker.settings ∧ Resting 0 next := by
  -- The induction is on the failures still missing after the next one.
  induction remaining with
  | zero =>
    intro failures traffic counting missing
    obtain ⟨next, ran, kept, reached⟩ := counting.fail (by omega)
    rw [if_pos (by omega)] at reached
    exact ⟨_, next, ran, kept, reached⟩
  | succ remaining ih =>
    intro failures traffic counting missing
    obtain ⟨next, ran, kept, reached⟩ := counting.fail (by omega)
    rw [if_neg (by omega)] at reached
    have same : next.breaker.maxFailures = traffic.breaker.maxFailures :=
      (CircuitBreaker.settings_eq_iff.mp kept).1
    obtain ⟨trace, final, later, still, resting⟩ := ih reached (by rw [same]; omega)
    exact ⟨_, final, exec_trans ran later, still.trans kept, resting⟩

/-- A setting is positive if zero stands for a default that is. -/
theorem orDefault_pos {given default : UInt32} (positive : 0 < default.toNat) :
    0 < (if given = 0 then default else given).toNat := by
  split
  · exact positive
  · rename_i nonzero
    exact Nat.pos_of_ne_zero fun zero => nonzero (UInt32.toNat_inj.mp zero)

/-- The threshold of a new breaker is at least one, because zero stands for the default. -/
theorem start_maxFailures_pos (config : CircuitBreakerConfig) (now : Int) :
    0 < (start config now).breaker.maxFailures.toNat :=
  orDefault_pos (by decide)

/-- Every breaker can be opened. -/
theorem start_opens (config : CircuitBreakerConfig) (now : Int) :
    ∃ trace next, exec step (start config now) trace = some next ∧
      next.breaker.settings = (start config now).breaker.settings ∧ Resting 0 next := by
  -- One failure after the other is counted until the threshold is reached.
  have positive := start_maxFailures_pos config now
  exact (start_counting config now).opens ((start config now).breaker.maxFailures.toNat - 1)
    (by omega)

/-- Once the timeout has elapsed, a resting circuit lets one probe through. -/
theorem Resting.probe {slots : UInt32} {traffic : Traffic} (resting : Resting slots traffic)
    (finite : traffic.breaker.timeout < maxDuration) :
    ∃ event next, step traffic event = some next ∧
      next.breaker.settings = traffic.breaker.settings ∧ Testing slots 1 next := by
  -- One nanosecond more than the timeout is enough.
  let later := traffic.clock + (max traffic.breaker.timeout 0 + 1)
  have elapsed : traffic.breaker.timeout < since later traffic.breaker.getLastFailTime := by
    rw [CircuitBreaker.getLastFailTime, resting.failed]
    exact lt_since_add finite traffic.clock
  refine ⟨.before later, traffic.before later, step_before.mpr ⟨by omega, rfl⟩, ?_, ?_⟩
  · exact traffic.breaker.beforeRequest_settings later
  · rw [before_probe later resting.opened elapsed]
    exact ⟨rfl, by simp [resting.idle], resting.slots, resting.successes⟩

/-- A probe that fails alone opens the circuit again and takes one from the slot counter. -/
theorem Testing.fail {slots : UInt32} {traffic : Traffic} (testing : Testing slots 1 traffic) :
    ∃ event next, step traffic event = some next ∧
      next.breaker.settings = traffic.breaker.settings ∧ Resting (slots + ~~~0) next := by
  -- The failure is the only result, and it is recorded in half-open state.
  refine ⟨.after 0 true traffic.clock, traffic.after 0 true traffic.clock, ?_, ?_, ?_⟩
  · exact step_after.mpr ⟨⟨le_refl _, by simp [testing.inFlight]⟩, rfl⟩
  · exact traffic.breaker.afterRequest_settings true traffic.clock
  · refine ⟨?_, ?_, ?_, ?_, ?_⟩
    · simp [after, CircuitBreaker.afterRequest_state, testing.testing]
    · exact CircuitBreaker.afterRequest_lastFailTime _ _
    · simp [after, testing.inFlight]
    · simp [after, CircuitBreaker.afterRequest_halfOpenReqs, testing.testing, testing.slots]
    · simp [after, CircuitBreaker.afterRequest_successes, testing.testing]

/-- A probe that succeeds alone, where two successes are needed, leaves the circuit half-open. -/
theorem Testing.succeed {slots : UInt32} {traffic : Traffic} (testing : Testing slots 1 traffic)
    (more : 1 < traffic.breaker.maxFailures / 2) :
    ∃ event next, step traffic event = some next ∧
      next.breaker.settings = traffic.breaker.settings ∧
      next.breaker.state = .stateHalfOpen ∧ next.inFlight = [] ∧
      next.breaker.halfOpenReqs = slots + ~~~0 := by
  -- One success is counted, which is not enough to close the circuit.
  refine ⟨.after 0 false traffic.clock, traffic.after 0 false traffic.clock, ?_, ?_, ?_, ?_, ?_⟩
  · exact step_after.mpr ⟨⟨le_refl _, by simp [testing.inFlight]⟩, rfl⟩
  · exact traffic.breaker.afterRequest_settings false traffic.clock
  · exact after_halfOpen_iff.mpr ⟨testing.testing, rfl, by simpa [testing.successes] using more⟩
  · simp [after, testing.inFlight]
  · simp [after, CircuitBreaker.afterRequest_halfOpenReqs, testing.testing, testing.slots]

/-- A half-open breaker with nothing in flight admits the next request. -/
def Responsive (traffic : Traffic) : Prop :=
  traffic.breaker.state = .stateHalfOpen → traffic.inFlight = [] →
    ∀ now, traffic.clock ≤ now → (traffic.breaker.beforeRequest now).2 = none

/-- The step does not end the last request of a test with the slot counter below zero. -/
def KeepsSlots (traffic : Traffic) : CircuitEvent → Prop
  | .before _ => True
  -- A counter that reads more than the limit has wrapped around below zero.
  | .after _ failed _ =>
    traffic.breaker.state = .stateHalfOpen → traffic.inFlight.length = 1 → failed = false →
      traffic.breaker.successes + 1 < traffic.breaker.maxFailures / 2 →
        traffic.breaker.halfOpenReqs ≤ traffic.breaker.halfOpenMaxReqs

/-- Admission to an idle half-open breaker depends on its slot counter alone. -/
theorem responsive_iff (traffic : Traffic) :
    Responsive traffic ↔
      (traffic.breaker.state = .stateHalfOpen → traffic.inFlight = [] →
        traffic.breaker.halfOpenReqs + 1 ≤ traffic.breaker.halfOpenMaxReqs) := by
  -- In half-open state the clock plays no part.
  constructor
  · intro responsive testing idle
    have admitted := responsive testing idle traffic.clock (le_refl _)
    by_contra full
    rw [CircuitBreaker.beforeRequest_full testing (UInt32.not_le.mp full)] at admitted
    exact absurd admitted (by simp)
  · intro free testing idle now _
    rw [CircuitBreaker.beforeRequest_slot testing (free testing idle)]

/-- One step out of a responsive state is responsive exactly when it keeps the slots. -/
theorem step_responsive {traffic next : Traffic} {event : CircuitEvent}
    (fine : Responsive traffic) (taken : traffic.step event = some next) :
    Responsive next ↔ KeepsSlots traffic event := by
  -- Admissions never hurt, so only the end of a last request is to be looked at.
  rw [responsive_iff] at fine ⊢
  cases event with
  | before now =>
    obtain ⟨_, rfl⟩ := step_before.mp taken
    simp only [KeepsSlots, iff_true]
    -- Whoever is admitted is in flight, and whoever is refused leaves the counter alone.
    rcases traffic.breaker.beforeRequest_branch now with
      closed | ⟨opened, early⟩ | ⟨opened, elapsed⟩ | ⟨testing, free⟩ | ⟨testing, full⟩
    · simp [before_closed now closed]
    · simp [before_early now opened early, opened]
    · simp [before_probe now opened elapsed]
    · simp [before_slot now testing free]
    · rw [before_full now testing full]
      exact fine
  | after request failed now =>
    obtain ⟨⟨_, within⟩, rfl⟩ := step_after.mp taken
    have returned := traffic.breaker.afterRequest_halfOpenReqs failed now
    have same : (traffic.after request failed now).breaker.halfOpenMaxReqs =
        traffic.breaker.halfOpenMaxReqs :=
      (CircuitBreaker.settings_eq_iff.mp (traffic.breaker.afterRequest_settings failed now)).2.2
    have idle : (traffic.after request failed now).inFlight = [] ↔
        traffic.inFlight.length = 1 := by
      simp only [after, ← List.length_eq_zero_iff, List.length_eraseIdx, within, if_true]
      omega
    rw [after_halfOpen_iff, idle, same]
    simp only [KeepsSlots]
    constructor
    · intro admits testing last succeeded more
      have free := admits ⟨testing, succeeded, more⟩ last
      rwa [show (traffic.after request failed now).breaker.halfOpenReqs =
        traffic.breaker.halfOpenReqs + ~~~0 by rw [after, returned, if_pos testing],
        CircuitBreaker.add_ones_add_one] at free
    · intro keeps given last
      rcases given with ⟨testing, succeeded, more⟩
      rw [show (traffic.after request failed now).breaker.halfOpenReqs =
        traffic.breaker.halfOpenReqs + ~~~0 by rw [after, returned, if_pos testing],
        CircuitBreaker.add_ones_add_one]
      exact keeps testing last succeeded more

/-- No run changes a setting of the breaker. -/
theorem exec_settings {traffic final : Traffic} {trace : List CircuitEvent}
    (ran : exec step traffic trace = some final) :
    final.breaker.settings = traffic.breaker.settings :=
  exec_invariant (fun reached => reached.breaker.settings = traffic.breaker.settings)
    (fun _ _ _ kept taken => (step_settings taken).trans kept) rfl ran

/-- Where one result ends every test, a half-open breaker always has a request in flight. -/
theorem busy_of_short_tests {traffic final : Traffic} {trace : List CircuitEvent}
    (short : traffic.breaker.maxFailures < 4) (closed : traffic.breaker.state = .stateClosed)
    (fresh : traffic.breaker.successes = 0) (ran : exec step traffic trace = some final) :
    final.breaker.state = .stateHalfOpen → final.inFlight ≠ [] := by
  -- The success counter stays at zero, so the first success already closes the circuit.
  have busy := exec_invariant
    (fun reached => reached.breaker.maxFailures < 4 ∧ reached.breaker.successes = 0 ∧
      (reached.breaker.state = .stateHalfOpen → reached.inFlight ≠ []))
    ?_ ⟨short, fresh, by simp [closed]⟩ ran
  · exact busy.2.2
  · intro reached event next given taken
    rcases given with ⟨short, fresh, busy⟩
    have same : next.breaker.maxFailures = reached.breaker.maxFailures :=
      (CircuitBreaker.settings_eq_iff.mp (step_settings taken)).1
    refine ⟨same ▸ short, ?_⟩
    have enough : reached.breaker.maxFailures / 2 ≤ 1 := by
      rw [UInt32.lt_iff_toNat_lt] at short
      rw [UInt32.le_iff_toNat_le, UInt32.toNat_div]
      simp only [UInt32.reduceToNat] at short ⊢
      omega
    cases event with
    | before now =>
      obtain ⟨_, rfl⟩ := step_before.mp taken
      rcases reached.breaker.beforeRequest_branch now with
        closed | ⟨opened, early⟩ | ⟨opened, elapsed⟩ | ⟨testing, free⟩ | ⟨testing, full⟩
      · simp [before_closed now closed, fresh]
      · simp [before_early now opened early, opened, fresh]
      · simp [before_probe now opened elapsed, fresh]
      · simp [before_slot now testing free, fresh]
      · rw [before_full now testing full]
        exact ⟨fresh, busy⟩
    | after request failed now =>
      obtain ⟨_, rfl⟩ := step_after.mp taken
      constructor
      · simp [after, CircuitBreaker.afterRequest_successes, fresh, enough]
      · rw [after_halfOpen_iff, fresh]
        intro given
        rcases given with ⟨_, _, more⟩
        exact absurd more (UInt32.not_lt.mpr (by simpa using enough))

/-- A breaker whose timeout no clock can exceed never starts a test. -/
theorem not_halfOpen_of_endless {traffic final : Traffic} {trace : List CircuitEvent}
    (endless : maxDuration ≤ traffic.breaker.timeout)
    (closed : traffic.breaker.state = .stateClosed) (ran : exec step traffic trace = some final) :
    final.breaker.state ≠ .stateHalfOpen := by
  -- The invariant is that the circuit is closed or open, and the timeout endless.
  have never := exec_invariant
    (fun reached => maxDuration ≤ reached.breaker.timeout ∧
      reached.breaker.state ≠ .stateHalfOpen)
    ?_ ⟨endless, by simp [closed]⟩ ran
  · exact never.2
  · intro reached event next given taken
    rcases given with ⟨endless, never⟩
    have same : next.breaker.timeout = reached.breaker.timeout :=
      (CircuitBreaker.settings_eq_iff.mp (step_settings taken)).2.1
    refine ⟨same ▸ endless, ?_⟩
    cases event with
    | before now =>
      obtain ⟨_, rfl⟩ := step_before.mp taken
      rcases reached.breaker.beforeRequest_branch now with
        closed | ⟨opened, early⟩ | ⟨opened, elapsed⟩ | ⟨testing, free⟩ | ⟨testing, full⟩
      · simp [before_closed now closed, closed]
      · simp [before_early now opened early, opened]
      · -- The elapsed time saturates at the timeout.
        have bound := since_le_maxDuration now reached.breaker.getLastFailTime
        omega
      · exact absurd testing never
      · exact absurd testing never
    | after request failed now =>
      obtain ⟨_, rfl⟩ := step_after.mp taken
      rw [Ne, after_halfOpen_iff]
      exact fun ⟨testing, _⟩ => never testing

/-- A failed probe, then a successful one, leave a long test idle with no slot to hand out. -/
theorem start_wedges (config : CircuitBreakerConfig) (now : Int)
    (long : ¬ config.withDefaults.maxFailures < 4)
    (limited : config.withDefaults.maxConcurrentRequests ≠ 0xFFFFFFFF)
    (finite : config.withDefaults.timeout < maxDuration) :
    ∃ trace traffic, exec step (start config now) trace = some traffic ∧ ¬ Responsive traffic := by
  -- Open the circuit, let one probe fail and the next one succeed.
  obtain ⟨opening, first, opened, kept₁, resting⟩ := start_opens config now
  obtain ⟨probe₁, second, probed₁, kept₂, testing₁⟩ := resting.probe (by
    rw [show first.breaker.timeout = config.withDefaults.timeout from
      (CircuitBreaker.settings_eq_iff.mp kept₁).2.1]
    exact finite)
  obtain ⟨result₁, third, failed, kept₃, again⟩ := testing₁.fail
  have kept := kept₃.trans (kept₂.trans kept₁)
  obtain ⟨probe₂, fourth, probed₂, kept₄, testing₂⟩ := again.probe (by
    rw [show third.breaker.timeout = config.withDefaults.timeout from
      (CircuitBreaker.settings_eq_iff.mp kept).2.1]
    exact finite)
  have more : 1 < fourth.breaker.maxFailures / 2 := by
    rw [show fourth.breaker.maxFailures = config.withDefaults.maxFailures from
      (CircuitBreaker.settings_eq_iff.mp (kept₄.trans kept)).1]
    rw [UInt32.lt_iff_toNat_lt] at long
    rw [UInt32.lt_iff_toNat_lt, UInt32.toNat_div]
    simp only [UInt32.reduceToNat] at long ⊢
    omega
  obtain ⟨result₂, last, succeeded, kept₅, half, idle, slots⟩ := testing₂.succeed more
  refine ⟨opening ++ [probe₁, result₁, probe₂, result₂], last, exec_trans opened ?_, ?_⟩
  · simp [probed₁, failed, probed₂, succeeded]
  · -- The counter has been lowered twice and raised never.
    rw [responsive_iff, slots]
    intro admits
    have free := admits half idle
    rw [show last.breaker.halfOpenMaxReqs = config.withDefaults.maxConcurrentRequests from
      (CircuitBreaker.settings_eq_iff.mp (kept₅.trans (kept₄.trans kept))).2.2] at free
    apply limited
    have bound := config.withDefaults.maxConcurrentRequests.toNat_lt
    rw [UInt32.le_iff_toNat_le] at free
    rw [← UInt32.toNat_inj]
    simp only [UInt32.reduceToNat] at free ⊢
    have wrapped : ((0 : UInt32) + ~~~0 + ~~~0 + 1).toNat = 4294967295 := by decide
    omega

/--
The breaker never gets stuck half-open exactly when no test can lower its slot counter twice.

In a single run, it is stuck exactly when a step ends the last request of a test on a counter
that is below zero already.
-/
theorem responsive_iff_slots_kept (config : CircuitBreakerConfig) (now : Int) :
    ((∀ trace traffic, exec step (start config now) trace = some traffic → Responsive traffic) ↔
      (config.withDefaults.maxFailures < 4 ∨
        config.withDefaults.maxConcurrentRequests = 0xFFFFFFFF ∨
        maxDuration ≤ config.withDefaults.timeout)) ∧
    ∀ trace traffic, exec step (start config now) trace = some traffic →
      (Always step Responsive (start config now) trace ↔
        Along step KeepsSlots (start config now) trace) := by
  -- The settings decide about all runs, and the steps about a single one.
  refine ⟨⟨?_, ?_⟩, ?_⟩
  · intro always
    by_contra excluded
    simp only [not_or, not_le] at excluded
    obtain ⟨long, limited, finite⟩ := excluded
    obtain ⟨trace, traffic, ran, stuck⟩ := start_wedges config now long limited finite
    exact stuck (always trace traffic ran)
  · intro given trace traffic ran
    rcases given with short | unlimited | endless
    · intro testing idle
      exact absurd idle (busy_of_short_tests short rfl rfl ran testing)
    · -- No reading of the counter exceeds the largest limit.
      have limit : traffic.breaker.halfOpenMaxReqs = 0xFFFFFFFF :=
        (CircuitBreaker.settings_eq_iff.mp (exec_settings ran)).2.2.trans unlimited
      rw [responsive_iff, limit]
      intro _ _
      have bound := (traffic.breaker.halfOpenReqs + 1).toNat_lt
      rw [UInt32.le_iff_toNat_le]
      simp only [UInt32.reduceToNat]
      omega
    · intro testing
      exact absurd testing (not_halfOpen_of_endless endless rfl ran)
  · intro trace traffic ran
    exact always_iff_along (fun _ => True) (fun _ _ _ _ _ => trivial)
      (fun _ _ _ _ fine taken => step_responsive fine taken) trivial (by simp [Responsive, start,
        newCircuitBreaker]) ran

/-- With the documented settings, one failed and one successful probe wedge the breaker. -/
theorem default_breaker_wedges :
    ∃ traffic,
      exec step (start ⟨"backend-1", 5, 60 * second, 1⟩ 0)
        [.before 0, .after 0 true 0, .before 0, .after 0 true 0, .before 0, .after 0 true 0,
          .before 0, .after 0 true 0, .before 0, .after 0 true 0,
          .before (61 * second), .after 0 true (61 * second),
          .before (122 * second), .after 0 false (122 * second)] = some traffic ∧
      traffic.breaker.state = .stateHalfOpen ∧ traffic.inFlight = [] ∧
      (traffic.breaker.beforeRequest (123 * second)).2 = some .errTooManyRequests ∧
      ¬ Responsive traffic := by
  -- The run evaluates, and the counter it leaves has wrapped around.
  refine ⟨_, rfl, rfl, rfl, rfl, ?_⟩
  rw [responsive_iff]
  decide

/-- While half-open, no more requests of the current round are in flight than the limit allows. -/
def WithinCap (traffic : Traffic) : Prop :=
  traffic.breaker.state = .stateHalfOpen →
    traffic.inFlight.count traffic.round ≤ traffic.breaker.halfOpenMaxReqs.toNat

/-- The step does not ask for a slot the counter still has while the round is at its limit. -/
def AsksWithinCap (traffic : Traffic) : CircuitEvent → Prop
  | .before _ =>
    traffic.breaker.state = .stateHalfOpen →
      traffic.breaker.halfOpenReqs + 1 ≤ traffic.breaker.halfOpenMaxReqs →
        traffic.inFlight.count traffic.round ≠ traffic.breaker.halfOpenMaxReqs.toNat
  | .after _ _ _ => True

/-- No request in flight is from a later round, and the limit is positive. -/
structure Consistent (traffic : Traffic) : Prop where
  rounds : ∀ round ∈ traffic.inFlight, round ≤ traffic.round
  limit : 0 < traffic.breaker.halfOpenMaxReqs.toNat

/-- A new breaker allows at least one request per test. -/
theorem start_consistent (config : CircuitBreakerConfig) (now : Int) :
    Consistent (start config now) := by
  -- The limit is at least one, because zero stands for the default.
  refine ⟨by simp [start], ?_⟩
  exact orDefault_pos (by decide)

/-- A request that joins in the current round or a later one keeps all rounds in order. -/
theorem rounds_le_append {inFlight : List Nat} {current joined : Nat}
    (rounds : ∀ round ∈ inFlight, round ≤ current) (grows : current ≤ joined) :
    ∀ round ∈ inFlight ++ [joined], round ≤ joined := by
  -- Earlier requests are behind by what the round has grown.
  intro round member
  rcases List.mem_append.mp member with earlier | added
  · exact (rounds round earlier).trans grows
  · exact (List.mem_singleton.mp added).le

/-- Rounds only grow, and the limit never changes. -/
theorem Consistent.step {traffic next : Traffic} {event : CircuitEvent}
    (consistent : Consistent traffic) (taken : traffic.step event = some next) :
    Consistent next := by
  -- Only admissions add to the requests in flight, in the round they begin or find.
  have same : next.breaker.halfOpenMaxReqs = traffic.breaker.halfOpenMaxReqs :=
    (CircuitBreaker.settings_eq_iff.mp (step_settings taken)).2.2
  refine ⟨?_, same ▸ consistent.limit⟩
  have rounds := consistent.rounds
  cases event with
  | before now =>
    obtain ⟨_, rfl⟩ := step_before.mp taken
    intro round member
    rcases traffic.breaker.beforeRequest_branch now with
      closed | ⟨opened, early⟩ | ⟨opened, elapsed⟩ | ⟨testing, free⟩ | ⟨testing, full⟩
    · rw [before_closed now closed] at member ⊢
      exact rounds_le_append rounds (le_refl _) round member
    · rw [before_early now opened early] at member ⊢
      exact rounds round member
    · rw [before_probe now opened elapsed] at member ⊢
      exact rounds_le_append rounds (Nat.le_succ _) round member
    · rw [before_slot now testing free] at member ⊢
      exact rounds_le_append rounds (le_refl _) round member
    · rw [before_full now testing full] at member ⊢
      exact rounds round member
  | after request failed now =>
    obtain ⟨_, rfl⟩ := step_after.mp taken
    intro round member
    exact rounds round (List.mem_of_mem_eraseIdx member)

/-- One step from within the cap stays within it exactly when it asks within the cap. -/
theorem step_withinCap {traffic next : Traffic} {event : CircuitEvent}
    (consistent : Consistent traffic) (fine : WithinCap traffic)
    (taken : traffic.step event = some next) : WithinCap next ↔ AsksWithinCap traffic event := by
  -- The number of requests in the round changes by the one that is admitted.
  cases event with
  | before now =>
    obtain ⟨_, rfl⟩ := step_before.mp taken
    rcases traffic.breaker.beforeRequest_branch now with
      closed | ⟨opened, early⟩ | ⟨opened, elapsed⟩ | ⟨testing, free⟩ | ⟨testing, full⟩
    · simp [before_closed now closed, WithinCap, AsksWithinCap, closed]
    · simp [before_early now opened early, WithinCap, AsksWithinCap, opened]
    · -- The probe is the only request of the round it begins.
      have fresh : traffic.inFlight.count (traffic.round + 1) = 0 := by
        rw [List.count_eq_zero]
        intro member
        have bound := consistent.rounds _ member
        omega
      have limit := consistent.limit
      simp only [before_probe now opened elapsed, WithinCap, AsksWithinCap, opened,
        List.count_append, fresh, List.count_singleton_self]
      simp only [forall_const, reduceCtorEq, false_implies, iff_true]
      omega
    · have bound := fine testing
      simp only [before_slot now testing free, WithinCap, AsksWithinCap, testing, free,
        List.count_append, List.count_singleton_self, forall_const]
      omega
    · rw [before_full now testing full]
      simp only [AsksWithinCap, UInt32.not_le.mpr full, false_implies, implies_true, iff_true]
      exact fine
  | after request failed now =>
    obtain ⟨_, rfl⟩ := step_after.mp taken
    have same : (traffic.after request failed now).breaker.halfOpenMaxReqs =
        traffic.breaker.halfOpenMaxReqs :=
      (CircuitBreaker.settings_eq_iff.mp (traffic.breaker.afterRequest_settings failed now)).2.2
    simp only [AsksWithinCap, iff_true]
    intro half
    have fewer := (List.eraseIdx_sublist (l := traffic.inFlight) request).count_le traffic.round
    rw [same]
    exact fewer.trans (fine (after_halfOpen_iff.mp half).1)

/-- From the probe on, as many further requests are admitted as the limit allows. -/
theorem Testing.fill {traffic : Traffic} (testing : Testing 0 1 traffic) (requests : Nat) :
    requests ≤ traffic.breaker.halfOpenMaxReqs.toNat →
      ∃ trace next, exec step traffic trace = some next ∧
        next.breaker.settings = traffic.breaker.settings ∧
        Testing (UInt32.ofNat requests) (requests + 1) next := by
  -- Each admission reads a counter that is one behind the requests in flight.
  induction requests with
  | zero => exact fun _ => ⟨[], traffic, rfl, rfl, testing⟩
  | succ requests ih =>
    intro within
    obtain ⟨trace, reached, ran, kept, filled⟩ := ih (by omega)
    have limit : reached.breaker.halfOpenMaxReqs = traffic.breaker.halfOpenMaxReqs :=
      (CircuitBreaker.settings_eq_iff.mp kept).2.2
    have bound := traffic.breaker.halfOpenMaxReqs.toNat_lt
    have counted : (UInt32.ofNat requests + 1).toNat = requests + 1 := by
      rw [UInt32.toNat_add, UInt32.toNat_ofNat_of_lt' (by simp only [UInt32.size]; omega)]
      exact Nat.mod_eq_of_lt (by simp only [UInt32.reduceToNat]; omega)
    have free : reached.breaker.halfOpenReqs + 1 ≤ reached.breaker.halfOpenMaxReqs := by
      rw [filled.slots, limit, UInt32.le_iff_toNat_le, counted]
      omega
    refine ⟨trace ++ [.before reached.clock], reached.before reached.clock, ?_, ?_, ?_⟩
    · refine exec_trans ran ?_
      simp [step]
    · exact (reached.breaker.beforeRequest_settings reached.clock).trans kept
    · rw [before_slot reached.clock filled.testing free]
      refine ⟨filled.testing, ?_, ?_, filled.successes⟩
      · simp only [filled.inFlight, ← List.replicate_succ']
      · simp only [filled.slots]
        rw [← UInt32.toNat_inj, counted,
          UInt32.toNat_ofNat_of_lt' (by simp only [UInt32.size]; omega)]

/-- Where the timeout can elapse, one request more than the limit is let into a test. -/
theorem start_exceeds_cap (config : CircuitBreakerConfig) (now : Int)
    (finite : config.withDefaults.timeout < maxDuration) :
    ∃ trace traffic, exec step (start config now) trace = some traffic ∧ ¬ WithinCap traffic := by
  -- Open the circuit, let the probe through, and fill all slots beside it.
  obtain ⟨opening, first, opened, kept₁, resting⟩ := start_opens config now
  obtain ⟨probe, second, probed, kept₂, testing⟩ := resting.probe (by
    rw [show first.breaker.timeout = config.withDefaults.timeout from
      (CircuitBreaker.settings_eq_iff.mp kept₁).2.1]
    exact finite)
  obtain ⟨filling, last, filled, kept₃, full⟩ :=
    testing.fill second.breaker.halfOpenMaxReqs.toNat (le_refl _)
  have limit : last.breaker.halfOpenMaxReqs = second.breaker.halfOpenMaxReqs :=
    (CircuitBreaker.settings_eq_iff.mp kept₃).2.2
  refine ⟨opening ++ (probe :: filling), last, exec_trans opened ?_, ?_⟩
  · simp [probed, filled]
  · -- The probe holds no slot, so it comes on top of all requests that do.
    intro capped
    have bound := capped full.testing
    rw [full.inFlight, List.count_replicate_self, limit] at bound
    omega

/--
The half-open cap holds in every run exactly when the timeout can never elapse.

A single run exceeds it exactly at a step that asks for a slot when the round is at its limit
and the counter, which does not count the probe, still has one.
-/
theorem withinCap_iff_asks_within (config : CircuitBreakerConfig) (now : Int) :
    ((∀ trace traffic, exec step (start config now) trace = some traffic → WithinCap traffic) ↔
      maxDuration ≤ config.withDefaults.timeout) ∧
    ∀ trace traffic, exec step (start config now) trace = some traffic →
      (Always step WithinCap (start config now) trace ↔
        Along step AsksWithinCap (start config now) trace) := by
  -- A test that can begin at all can be filled beyond its limit.
  refine ⟨⟨?_, ?_⟩, ?_⟩
  · intro always
    by_contra finite
    obtain ⟨trace, traffic, ran, exceeded⟩ := start_exceeds_cap config now (not_le.mp finite)
    exact exceeded (always trace traffic ran)
  · intro endless trace traffic ran testing
    exact absurd testing (not_halfOpen_of_endless endless rfl ran)
  · intro trace traffic ran
    exact always_iff_along Consistent (fun _ _ _ consistent taken => consistent.step taken)
      (fun _ _ _ consistent fine taken => step_withinCap consistent fine taken)
      (start_consistent config now) (by simp [WithinCap, start, newCircuitBreaker]) ran

/-- With a limit of one request, a second request is admitted while the probe is in flight. -/
theorem probe_and_second_request_admitted :
    ∃ traffic,
      exec step (start ⟨"test", 1, second / 10, 1⟩ 0)
        [.before 0, .after 0 true 0, .before second, .before second] = some traffic ∧
      traffic.breaker.state = .stateHalfOpen ∧ traffic.inFlight = [1, 1] ∧ traffic.round = 1 ∧
      ¬ WithinCap traffic := by
  -- The run evaluates to two requests of the first round.
  refine ⟨_, rfl, rfl, rfl, rfl, ?_⟩
  unfold WithinCap
  decide

end Traffic

end Balance
