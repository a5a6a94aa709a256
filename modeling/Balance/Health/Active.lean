import Balance.Health.Checker
import Balance.Machine.Gather

/-! Active health checks, which are made of all backends at once, and the rounds of them. -/

namespace Balance

open Machine

/-- The kinds of health check, and what else a configuration may ask for. -/
inductive CheckType where
  | tcp
  | http
  | https
  | other (text : String)
  deriving DecidableEq

/-- How a kind of check is written. -/
def CheckType.text : CheckType → String
  | .tcp => "tcp"
  | .http => "http"
  | .https => "https"
  | .other text => text

/-- Why a check has failed. -/
inductive CheckError where
  | unsupported (checkType : CheckType)
  | connection (cause : String)
  | request (cause : String)
  | response (cause : String)
  | unexpectedStatus (code : Int) (expected : List Int)
  deriving DecidableEq

/-- The text of an error. -/
def CheckError.message : CheckError → String
  | .unsupported checkType => "unsupported check type: " ++ checkType.text
  | .connection cause => "TCP connection failed: " ++ cause
  | .request cause => "failed to create request: " ++ cause
  | .response cause => "HTTP request failed: " ++ cause
  | .unexpectedStatus code expected =>
    "unexpected status code: " ++ toString code ++ " (expected: [" ++
      " ".intercalate (expected.map toString) ++ "])"

/-- The result of a check, of a backend whose pointer is nil in the zero value. -/
structure CheckResult where
  backend : Option Nat
  success : Bool
  error : Option CheckError
  duration : Int
  timestamp : Int
  statusCode : Int
  deriving DecidableEq

/-- The zero value, which a list of results is made of at first. -/
def CheckResult.zero : CheckResult := ⟨none, false, none, 0, Go.zeroTime, 0⟩

/-- The settings of an active checker, zero or empty for the default of a field. -/
structure ActiveCheckerConfig where
  checkType : CheckType
  timeout : Int
  httpPath : String
  expectedStatusCodes : List Int

/-- A checker of one kind. -/
structure ActiveChecker where
  checkType : CheckType
  timeout : Int
  httpPath : String
  expectedStatusCodes : List Int

/-- A new checker, with defaults for what is not configured. -/
def newActiveChecker (config : ActiveCheckerConfig) : ActiveChecker where
  checkType := if config.checkType = .other "" then .tcp else config.checkType
  timeout := if config.timeout = 0 then 3 * Go.second else config.timeout
  httpPath := if config.httpPath = "" then "/health" else config.httpPath
  expectedStatusCodes :=
    if config.expectedStatusCodes.length = 0 then [200] else config.expectedStatusCodes

/-- What a check finds: the clock before and after it, and the network in between. -/
structure Probe where
  started : Int
  ended : Int
  dial : String → Except String Unit
  newRequest : String → Except String Unit
  get : String → Except String Int

namespace ActiveChecker

variable (ac : ActiveChecker) (heap : BackendHeap)

/-- A check that connects to an address. -/
def checkTCP (probe : Probe) (address : String) : Option CheckError :=
  match probe.dial address with
  | .error cause => some (.connection cause)
  | .ok _ => none

/-- A check that asks for a page, and compares the status with the expected ones. -/
def checkHTTP (probe : Probe) (url : String) : Int × Option CheckError :=
  match probe.newRequest url with
  | .error cause => (0, some (.request cause))
  | .ok _ =>
    match probe.get url with
    | .error cause => (0, some (.response cause))
    | .ok code =>
      if code ∈ ac.expectedStatusCodes then (code, none)
      else (code, some (.unexpectedStatus code ac.expectedStatusCodes))

/-- A check of a backend. -/
def check (b : Nat) (probe : Probe) : CheckResult :=
  let (statusCode, error) :=
    match ac.checkType with
    | .tcp => (0, checkTCP probe (heap b).address)
    | .http => ac.checkHTTP probe ("http://" ++ (heap b).address ++ ac.httpPath)
    | .https => ac.checkHTTP probe ("https://" ++ (heap b).address ++ ac.httpPath)
    | .other text => (0, some (.unsupported (.other text)))
  { backend := some b
    success := error.isNone
    error := error
    duration := Go.since probe.ended probe.started
    timestamp := probe.started
    statusCode := statusCode }

/-- What the checks of a list of backends come to, one by one. -/
def outcomes (backends : List Nat) (probe : Nat → Probe) : List CheckResult :=
  backends.mapIdx fun index b => ac.check heap b (probe index)

/--
A round of checks that are made at once.

Each goroutine sends its result and its index over a channel with room for all, and the loop writes
what it receives into a list of zero values.
-/
def checkMultiple (backends : List Nat) (probe : Nat → Probe) (schedule : List GatherLabel) :
    Option (Gather CheckResult) :=
  exec (Gather.step (ac.outcomes heap backends probe))
    (Gather.start (ac.outcomes heap backends probe) .zero) schedule

end ActiveChecker

/-- What a listener is told. -/
structure Notification where
  backend : Nat
  oldState : BackendState
  newState : BackendState
  deriving DecidableEq

namespace Monitoring

variable (watch : Monitoring)

/-- What the listener of a machine is told when the result of an active check is processed. -/
def notification (b : Nat) (success : Bool) (now : Int) : Option Notification :=
  let result := watch.checked b success now
  result.changed.map fun change => ⟨result.machine.backend, change.1, change.2⟩

/-- Process results in turn, unless one is of no backend, which is a panic. -/
def processResults (now : Nat → Int) :
    Nat → Monitoring → List CheckResult → Option (Monitoring × List Notification)
  | _, watch, [] => some (watch, [])
  | index, watch, result :: rest => do
    let b ← result.backend
    let told := watch.notification b result.success (now index)
    let (final, later) ←
      processResults now (index + 1) (watch.processResult b result.success (now index)) rest
    return (final, told.toList ++ later)

/-- What a round of checks does with the results of all backends. -/
def performHealthChecks (pool : Pool) (now : Nat → Int) (results : List CheckResult) :
    Option (Monitoring × List Notification) :=
  if pool.length = 0 then some (watch, []) else processResults now 0 watch results

variable {watch}

/-- Results of backends can all be processed. -/
theorem exists_processResults (now : Nat → Int) {results : List CheckResult}
    (backed : ∀ result ∈ results, result.backend.isSome) (index : Nat) (watch : Monitoring) :
    ∃ settled, processResults now index watch results = some settled := by
  -- Each result leads on to a state in which the others are processed.
  induction results generalizing index watch with
  | nil => exact ⟨_, rfl⟩
  | cons result rest ih =>
    obtain ⟨here, later⟩ := List.forall_mem_cons.mp backed
    obtain ⟨b, found⟩ := Option.isSome_iff_exists.mp here
    obtain ⟨settled, processed⟩ := ih later (index + 1)
      (watch.processResult b result.success (now index))
    rw [processResults, found, Option.bind_eq_bind, Option.bind_some, processed]
    exact ⟨_, rfl⟩

/-- A round over the results of the checks comes to an end. -/
theorem exists_performHealthChecks (ac : ActiveChecker) (pool : Pool) (probe : Nat → Probe)
    (now : Nat → Int) (watch : Monitoring) :
    ∃ settled,
      watch.performHealthChecks pool now (ac.outcomes watch.heap pool probe) = some settled := by
  rw [performHealthChecks]
  split
  · exact ⟨_, rfl⟩
  · refine exists_processResults now ?_ 0 watch
    -- Every check names the backend that it was made of.
    intro result member
    obtain ⟨index, inside, rfl⟩ := List.mem_mapIdx.mp member
    rfl

end Monitoring

namespace ActiveChecker

/-- There is one outcome for each backend. -/
theorem length_outcomes (ac : ActiveChecker) (heap : BackendHeap) (backends : List Nat)
    (probe : Nat → Probe) : (ac.outcomes heap backends probe).length = backends.length :=
  List.length_mapIdx

/--
A round of checks comes to an end in whatever order the results are sent and received. It has then
the outcome for each backend in the place of that backend, and it leaves the state machines and
tells the listeners the same as in any other order.
-/
theorem checks_independent_of_order (ac : ActiveChecker) (watch : Monitoring) (pool : Pool)
    (probe : Nat → Probe) (now : Nat → Int) :
    ∃ settled, ∀ schedule round,
      ac.checkMultiple watch.heap pool probe schedule = some round →
      schedule.length ≤ 2 * pool.length ∧
      (¬ round.Done (ac.outcomes watch.heap pool probe) →
        ∃ label next, ac.checkMultiple watch.heap pool probe (schedule ++ [label]) = some next) ∧
      (round.Done (ac.outcomes watch.heap pool probe) →
        round.results.length = pool.length ∧
        (∀ index b, pool[index]? = some b →
          round.results[index]? = some (ac.check watch.heap b (probe index))) ∧
        watch.performHealthChecks pool now round.results = some settled) := by
  -- All results are filed when the loop ends, and the rest of the round sees nothing but them.
  obtain ⟨settled, performed⟩ :=
    Monitoring.exists_performHealthChecks ac pool probe now watch
  refine ⟨settled, ?_⟩
  intro schedule round ran
  have holds := Gather.holds_exec ran
  refine ⟨?_, ?_, ?_⟩
  · have few := Gather.length_le ran
    rwa [length_outcomes] at few
  · intro unfinished
    obtain ⟨label, next, taken⟩ := holds.progress unfinished
    exact ⟨label, next, exec_trans ran (exec_cons_eq_some.mpr ⟨next, taken, rfl⟩)⟩
  · intro done
    rw [holds.results_eq done]
    refine ⟨ac.length_outcomes watch.heap pool probe, ?_, performed⟩
    intro index b listed
    rw [outcomes, List.getElem?_mapIdx, listed]
    rfl

end ActiveChecker

end Balance
