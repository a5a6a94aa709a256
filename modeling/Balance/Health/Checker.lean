import Balance.Backend.State
import Balance.Health.Passive

/-! The health checker: active results and passive failures feed one state machine per name. -/

namespace Balance

/-- What a checker is configured with, zero standing for the default of a field. -/
structure CheckerConfig where
  healthyThreshold : Int
  unhealthyThreshold : Int
  enablePassiveChecks : Bool
  consecutiveFailures : Int
  passiveCheckWindow : Int

/-- A checker with its state machines, keyed by the name of the backend. -/
structure Checker where
  healthyThreshold : Int
  unhealthyThreshold : Int
  passiveChecker : Option PassiveChecker
  stateMachines : String → Option StateMachine
  totalChecks : Int
  successChecks : Int
  failedChecks : Int

/-- A checker and the backends it watches, which the proxies write to as well. -/
structure Monitoring where
  checker : Checker
  heap : BackendHeap

namespace Checker

/-- Put a state machine under a name, in place of what was there. -/
def register (checker : Checker) (name : String) (sm : StateMachine) : Checker :=
  { checker with stateMachines := Function.update checker.stateMachines name (some sm) }

/-- The listener of every machine: becoming healthy clears the passive failures. -/
def onStateChange (checker : Checker) (b : Nat) (newState : BackendState) : Checker :=
  { checker with
    passiveChecker := checker.passiveChecker.map fun pc =>
      if newState = .stateHealthy then pc.reset b else pc }

/-- A machine for a backend, with the thresholds of the checker. -/
def machineFor (checker : Checker) (b : Nat) (now : Int) : StateMachine :=
  newStateMachine b checker.healthyThreshold checker.unhealthyThreshold now

end Checker

/-- A new checker makes a machine for each backend of the pool, later ones of a name winning. -/
def newChecker (heap : BackendHeap) (pool : Pool) (config : CheckerConfig) (now : Int) : Checker :=
  let checker :=
    { healthyThreshold := if config.healthyThreshold = 0 then 2 else config.healthyThreshold
      unhealthyThreshold := if config.unhealthyThreshold = 0 then 3 else config.unhealthyThreshold
      passiveChecker :=
        if config.enablePassiveChecks then
          some (newPassiveChecker ⟨0, config.consecutiveFailures, config.passiveCheckWindow⟩)
        else none
      stateMachines := fun _ => none
      totalChecks := 0
      successChecks := 0
      failedChecks := 0 }
  pool.foldl (fun checker b => checker.register (heap b).name (checker.machineFor b now)) checker

namespace Monitoring

variable (watch : Monitoring)

/-- Store what a method of the machine under a name has left behind, and tell the listener. -/
def settle (name : String) (result : Monitored) : Monitoring :=
  let checker := watch.checker.register name result.machine
  { checker :=
      match result.changed with
      | none => checker
      | some (_, newState) => checker.onStateChange result.machine.backend newState
    heap := result.heap }

/--
The machine that a check result for a backend goes to.

A backend that has no machine yet gets one now, which starts out healthy.
-/
def machineOf (b : Nat) (now : Int) : StateMachine :=
  (watch.checker.stateMachines (watch.heap b).name).getD (watch.checker.machineFor b now)

/-- What the machine of a backend makes of the result of a check. -/
def checked (b : Nat) (success : Bool) (now : Int) : Monitored :=
  (watch.machineOf b now).record watch.heap success now

/-- Process the result of an active check. -/
def processResult (b : Nat) (success : Bool) (now : Int) : Monitoring :=
  let settled := watch.settle (watch.heap b).name (watch.checked b success now)
  { settled with
    checker :=
      { settled.checker with
        totalChecks := settled.checker.totalChecks + 1
        successChecks := settled.checker.successChecks + if success then 1 else 0
        failedChecks := settled.checker.failedChecks + if success then 0 else 1 } }

/-- Record the outcome of a request for the passive checks. -/
def recordRequest (b : Nat) (success : Bool) (responseTime now : Int) : Monitoring :=
  let name := (watch.heap b).name
  match watch.checker.passiveChecker, watch.checker.stateMachines name with
  | none, _ => watch
  | some _, none => watch
  | some pc, some sm =>
    let sm := sm.recordRequest success responseTime
    if success then
      { watch with
        checker :=
          { watch.checker.register name sm with passiveChecker := some (pc.recordSuccess b) } }
    else
      let tracked := pc.recordFailure b now
      let watch :=
        { watch with
          checker := { watch.checker.register name sm with passiveChecker := some tracked.1 } }
      -- One failure is recorded, which alone need not reach the unhealthy threshold.
      if tracked.2 then watch.settle name (sm.recordFailure watch.heap now) else watch

/-- Watch a backend, unless a machine of its name exists. -/
def addBackend (b : Nat) (now : Int) : Monitoring :=
  let name := (watch.heap b).name
  match watch.checker.stateMachines name with
  | some _ => watch
  | none =>
    { watch with checker := watch.checker.register name (watch.checker.machineFor b now) }

/-- Forget the machine of a name. -/
def removeBackend (name : String) : Monitoring :=
  { watch with
    checker :=
      { watch.checker with
        stateMachines := Function.update watch.checker.stateMachines name none } }

/-- Let an event happen to the machine of a name, as a caller of `GetStateMachine` can. -/
def callMachine (name : String) (event : MachineEvent) : Monitoring :=
  match watch.checker.stateMachines name with
  | none => watch
  | some sm => watch.settle name (Monitored.apply ⟨sm, watch.heap, none⟩ event)

end Monitoring

end Balance
