import Balance.Go.Collections
import Balance.Pool.Connection

/-! The pool of worker goroutines, with its submitters and its shutdown, one access at a time. -/

namespace Balance

/-- The errors with which a submission is turned away. -/
inductive SubmitError where
  | closed
  | timeout
  | contextDone
  deriving DecidableEq, Repr

/-- The settings of a pool, before defaults stand in for some of them. -/
structure GoroutinePoolConfig where
  maxWorkers : Int
  maxIdleTime : Int
  queueSize : Int
  nonBlocking : Bool
  deriving DecidableEq, Repr

/--
A pool together with what its goroutines have done so far.

Tasks are named by the order in which they were submitted.
-/
structure GoroutinePool where
  maxWorkers : Int
  maxIdleTime : Int
  queueSize : Nat
  nonBlocking : Bool
  workers : Int
  running : Int
  closed : Bool
  -- The buffered channel, oldest task first, and whether it has been closed.
  taskQueue : List Nat
  taskQueueClosed : Bool
  stopChanClosed : Bool
  wg : Int
  once : OnceState
  submitted : Nat
  completed : Nat
  rejected : Nat
  nextTask : Nat
  -- The worker goroutines that were created and have not begun to run.
  starting : Nat
  -- The tasks whose submission has returned without an error, and those that were run.
  accepted : List Nat
  executed : List Nat
  deriving DecidableEq, Repr

/-- A new pool is open and has neither tasks nor workers. -/
def newGoroutinePool (config : GoroutinePoolConfig) : GoroutinePool where
  maxWorkers := Go.wrap32 (orPositive config.maxWorkers 100)
  maxIdleTime := orPositive config.maxIdleTime (10 * Go.second)
  queueSize := config.queueSize.toNat
  nonBlocking := config.nonBlocking
  workers := 0
  running := 0
  closed := false
  taskQueue := []
  taskQueueClosed := false
  stopChanClosed := false
  wg := 0
  once := .fresh
  submitted := 0
  completed := 0
  rejected := 0
  nextTask := 0
  starting := 0
  accepted := []
  executed := []

/-- The three ways of submitting a task. -/
inductive SubmitCall where
  | submit
  | withTimeout
  | withContext
  deriving DecidableEq, Repr

/-- The places at which a submission may be interrupted, `ensureWorker` included. -/
inductive SubmitFrame where
  | check
  | count
  | select
  -- Blocked in the select, which now takes whichever case becomes ready first.
  | parked
  | load
  | swap (currentWorkers : Int)
  | add
  | spawn
  | reject (error : SubmitError)
  deriving DecidableEq, Repr

/-- The places at which a worker may be interrupted, `executeTask` included. -/
inductive WorkerFrame where
  | select
  | start (task : Nat)
  | run (task : Nat)
  | complete
  | finish
  | loadWorkers
  | loadRunning (currentWorkers : Int)
  | decide (currentWorkers running : Int)
  | leave
  | done
  deriving DecidableEq, Repr

/-- The places at which `Close` may be interrupted. -/
inductive StopFrame where
  | store
  | stopChan
  | taskQueue
  | wait
  deriving DecidableEq, Repr

/-- Where a goroutine stands. -/
inductive GoroutineFrame where
  -- Between calls, with the error the last one returned.
  | ready (error : Option SubmitError)
  | submit (call : SubmitCall) (task : Nat) (frame : SubmitFrame)
  | worker (frame : WorkerFrame)
  | close (frame : StopFrame)
  -- Stopped by a send on the closed channel.
  | panicked
  deriving DecidableEq, Repr

/-- What the callers, the clock and the scheduler decide at a step. -/
inductive GoroutineChoice where
  | submit (call : SubmitCall)
  | close
  -- A goroutine created for a worker begins to run.
  | begin
  -- Which case a select takes, or that it blocks.
  | send
  | receive
  | stopped
  | timeout
  | contextDone
  | default
  | park
  -- The next statement.
  | run
  deriving DecidableEq, Repr

namespace GoroutinePool

/--
The channel has room for another task.

A channel without a buffer would hand a task over to a worker that waits for it.
Workers are started after a task has been sent, so that none ever waits there.
-/
def hasRoom (pool : GoroutinePool) : Bool :=
  pool.taskQueue.length < pool.queueSize

/-- A select that blocks until one of its cases is ready, rather than falling through. -/
def blocks (pool : GoroutinePool) : SubmitCall → Bool
  | .submit => !pool.nonBlocking
  | .withTimeout | .withContext => true

/-- The case that a select has for giving up, if it can become ready, with the error it returns. -/
def givesUp : SubmitCall → GoroutineChoice → Option SubmitError
  | .withTimeout, .timeout => some .timeout
  | .withContext, .contextDone => some .contextDone
  | _, _ => none

/-- The channel with one more task at its end. -/
def enqueue (pool : GoroutinePool) (task : Nat) : GoroutinePool :=
  { pool with taskQueue := pool.taskQueue ++ [task] }

/-- The submission of a task returns without an error. -/
def accept (pool : GoroutinePool) (task : Nat) : GoroutinePool × GoroutineFrame :=
  ({ pool with accepted := pool.accepted ++ [task] }, .ready none)

/-- The select of a submission, when it is first looked at. -/
def advanceSelect (pool : GoroutinePool) (call : SubmitCall) (task : Nat) :
    GoroutineChoice → Option (GoroutinePool × GoroutineFrame)
  | .send =>
    -- A send on a closed channel is ready, and a panic.
    if pool.taskQueueClosed then some (pool, .panicked)
    else if pool.hasRoom then some (pool.enqueue task, .submit call task .load) else none
  | .default =>
    if !pool.blocks call && !pool.taskQueueClosed && !pool.hasRoom then
      some (pool, .submit call task (.reject .timeout))
    else none
  | .stopped =>
    if pool.blocks call && pool.stopChanClosed then
      some (pool, .submit call task (.reject .closed))
    else none
  | .park =>
    if pool.blocks call && !pool.taskQueueClosed && !pool.hasRoom && !pool.stopChanClosed then
      some (pool, .submit call task .parked)
    else none
  | choice => (givesUp call choice).map fun error => (pool, .submit call task (.reject error))

/--
A submission that is blocked in its select.

The first case to become ready is the one taken. Closing the stop channel wakes up all that are
blocked at that moment, so that none of them is still there when the task channel is closed.
-/
def advanceParked (pool : GoroutinePool) (call : SubmitCall) (task : Nat) :
    GoroutineChoice → Option (GoroutinePool × GoroutineFrame)
  | .stopped =>
    if pool.stopChanClosed then some (pool, .submit call task (.reject .closed)) else none
  | .send =>
    if !pool.stopChanClosed && pool.hasRoom then
      some (pool.enqueue task, .submit call task .load)
    else none
  | choice =>
    if pool.stopChanClosed then none
    else (givesUp call choice).map fun error => (pool, .submit call task (.reject error))

/-- One step of a submission. -/
def advanceSubmit (pool : GoroutinePool) (call : SubmitCall) (task : Nat) :
    SubmitFrame → GoroutineChoice → Option (GoroutinePool × GoroutineFrame)
  | .check, .run =>
    if pool.closed then some (pool, .submit call task (.reject .closed))
    else some (pool, .submit call task .count)
  | .count, .run =>
    some ({ pool with submitted := pool.submitted + 1 }, .submit call task .select)
  | .select, choice => pool.advanceSelect call task choice
  | .parked, choice => pool.advanceParked call task choice
  | .load, .run =>
    if pool.workers < pool.maxWorkers then some (pool, .submit call task (.swap pool.workers))
    else some (pool.accept task)
  | .swap currentWorkers, .run =>
    if pool.workers = currentWorkers then
      some ({ pool with workers := currentWorkers + 1 }, .submit call task .add)
    else some (pool.accept task)
  | .add, .run => some ({ pool with wg := pool.wg + 1 }, .submit call task .spawn)
  | .spawn, .run => some ({ pool with starting := pool.starting + 1 }.accept task)
  | .reject error, .run =>
    some ({ pool with rejected := pool.rejected + 1 }, .ready (some error))
  | _, _ => none

/-- One step of a worker, whose idle timer may have run out at any time. -/
def advanceWorker (pool : GoroutinePool) :
    WorkerFrame → GoroutineChoice → Option (GoroutinePool × GoroutineFrame)
  | .select, .receive =>
    match pool.taskQueue with
    | task :: rest => some ({ pool with taskQueue := rest }, .worker (.start task))
    | [] => if pool.taskQueueClosed then some (pool, .worker .leave) else none
  | .select, .timeout => some (pool, .worker .loadWorkers)
  | .select, .stopped => if pool.stopChanClosed then some (pool, .worker .leave) else none
  | .start task, .run => some ({ pool with running := pool.running + 1 }, .worker (.run task))
  -- A task that panics is recovered from, and counts like any other.
  | .run task, .run => some ({ pool with executed := pool.executed ++ [task] }, .worker .complete)
  | .complete, .run => some ({ pool with completed := pool.completed + 1 }, .worker .finish)
  | .finish, .run => some ({ pool with running := pool.running - 1 }, .worker .select)
  | .loadWorkers, .run => some (pool, .worker (.loadRunning pool.workers))
  | .loadRunning currentWorkers, .run => some (pool, .worker (.decide currentWorkers pool.running))
  | .decide currentWorkers running, .run =>
    if currentWorkers > 1 ∨ pool.taskQueue.length = 0 ∧ running = 0 then
      some (pool, .worker .leave)
    else some (pool, .worker .select)
  | .leave, .run => some ({ pool with workers := pool.workers - 1 }, .worker .done)
  | .done, .run => some ({ pool with wg := pool.wg - 1 }, .ready none)
  | _, _ => none

/--
One step of `Close`, which waits for the workers at its end.

The once lets a single goroutine get here, so that neither channel is closed twice.
-/
def advanceStop (pool : GoroutinePool) : StopFrame → Option (GoroutinePool × GoroutineFrame)
  | .store => some ({ pool with closed := true }, .close .stopChan)
  | .stopChan => some ({ pool with stopChanClosed := true }, .close .taskQueue)
  | .taskQueue => some ({ pool with taskQueueClosed := true }, .close .wait)
  | .wait => if pool.wg = 0 then some ({ pool with once := .done }, .ready none) else none

/-- One step of a goroutine. -/
def advance (pool : GoroutinePool) :
    GoroutineFrame → GoroutineChoice → Option (GoroutinePool × GoroutineFrame)
  | .ready _, .submit call =>
    some ({ pool with nextTask := pool.nextTask + 1 }, .submit call pool.nextTask .check)
  | .ready _, .close =>
    match pool.once with
    | .fresh => some ({ pool with once := .running }, .close .store)
    | .running => none
    | .done => some (pool, .ready none)
  -- A goroutine that has made no call stands for one that is new.
  | .ready _, .begin =>
    match pool.starting with
    | 0 => none
    | starting + 1 => some ({ pool with starting := starting }, .worker .select)
  | .submit call task frame, choice => pool.advanceSubmit call task frame choice
  | .worker frame, choice => pool.advanceWorker frame choice
  | .close frame, .run => pool.advanceStop frame
  | _, _ => none

/-- What each step of a submission does, and when it is taken. -/
inductive SubmitStep (pool : GoroutinePool) (call : SubmitCall) (task : Nat) :
    SubmitFrame → GoroutineChoice → GoroutinePool → GoroutineFrame → Prop
  | refused (closed : pool.closed = true) :
      SubmitStep pool call task .check .run pool (.submit call task (.reject .closed))
  | admitted (usable : pool.closed = false) :
      SubmitStep pool call task .check .run pool (.submit call task .count)
  | counted :
      SubmitStep pool call task .count .run
        { pool with submitted := pool.submitted + 1 } (.submit call task .select)
  | sentClosed (closed : pool.taskQueueClosed = true) :
      SubmitStep pool call task .select .send pool .panicked
  | sent (usable : pool.taskQueueClosed = false) (room : pool.hasRoom = true) :
      SubmitStep pool call task .select .send (pool.enqueue task) (.submit call task .load)
  | sentLater (usable : pool.stopChanClosed = false) (room : pool.hasRoom = true) :
      SubmitStep pool call task .parked .send (pool.enqueue task) (.submit call task .load)
  | overflowed (falls : pool.blocks call = false) (usable : pool.taskQueueClosed = false)
      (full : pool.hasRoom = false) :
      SubmitStep pool call task .select .default pool (.submit call task (.reject .timeout))
  | blocked (usable : pool.stopChanClosed = false) (full : pool.hasRoom = false) :
      SubmitStep pool call task .select .park pool (.submit call task .parked)
  -- The flag tells the select that is blocked from the one that is looked at first.
  | stopped {waited : Bool} (stop : pool.stopChanClosed = true) :
      SubmitStep pool call task (if waited then .parked else .select) .stopped pool
        (.submit call task (.reject .closed))
  | gaveUp {waited : Bool} {choice : GoroutineChoice} {error : SubmitError}
      (early : waited = true → pool.stopChanClosed = false)
      (gives : givesUp call choice = some error) :
      SubmitStep pool call task (if waited then .parked else .select) choice pool
        (.submit call task (.reject error))
  | sufficed (enough : pool.maxWorkers ≤ pool.workers) :
      SubmitStep pool call task .load .run (pool.accept task).1 (.ready none)
  | loaded (fewer : pool.workers < pool.maxWorkers) :
      SubmitStep pool call task .load .run pool (.submit call task (.swap pool.workers))
  | swapped :
      SubmitStep pool call task (.swap pool.workers) .run
        { pool with workers := pool.workers + 1 } (.submit call task .add)
  | overtaken {currentWorkers : Int} (differs : pool.workers ≠ currentWorkers) :
      SubmitStep pool call task (.swap currentWorkers) .run (pool.accept task).1 (.ready none)
  | added :
      SubmitStep pool call task .add .run
        { pool with wg := pool.wg + 1 } (.submit call task .spawn)
  | spawned :
      SubmitStep pool call task .spawn .run
        ({ pool with starting := pool.starting + 1 }.accept task).1 (.ready none)
  | rejected {error : SubmitError} :
      SubmitStep pool call task (.reject error) .run
        { pool with rejected := pool.rejected + 1 } (.ready (some error))

/-- A case for giving up, once it is ready, is a step of the select. -/
theorem givesUp_step {pool next : GoroutinePool} {call : SubmitCall} {task : Nat}
    {choice : GoroutineChoice} {after : GoroutineFrame} (waited : Bool)
    (early : waited = true → pool.stopChanClosed = false)
    (taken : (givesUp call choice).map (fun error =>
      (pool, GoroutineFrame.submit call task (.reject error))) = some (next, after)) :
    SubmitStep pool call task (if waited then .parked else .select) choice next after := by
  -- What is taken is the case that gives up.
  obtain ⟨error, gives, same⟩ := Option.map_eq_some_iff.mp taken
  cases same
  exact .gaveUp early gives

/-- Every step of a select that is looked at first is one of those listed. -/
theorem advanceSelect_step {pool next : GoroutinePool} {call : SubmitCall} {task : Nat}
    {choice : GoroutineChoice} {after : GoroutineFrame}
    (taken : pool.advanceSelect call task choice = some (next, after)) :
    SubmitStep pool call task .select choice next after := by
  -- The cases come in the order in which the select lists them.
  unfold advanceSelect at taken
  split at taken
  · split at taken
    · next closed =>
      cases taken
      exact .sentClosed closed
    · next usable =>
      split at taken
      · next room =>
        cases taken
        exact .sent (by simpa using usable) room
      · cases taken
  · split at taken
    · next falls =>
      simp only [Bool.and_eq_true, Bool.not_eq_true'] at falls
      cases taken
      exact .overflowed falls.1.1 falls.1.2 falls.2
    · cases taken
  · split at taken
    · next stop =>
      simp only [Bool.and_eq_true] at stop
      cases taken
      exact @SubmitStep.stopped pool call task false stop.2
    · cases taken
  · split at taken
    · next idle =>
      simp only [Bool.and_eq_true, Bool.not_eq_true'] at idle
      cases taken
      exact .blocked idle.2 idle.1.2
    · cases taken
  · exact givesUp_step false (fun waited => nomatch waited) taken

/-- Every step of a blocked select is one of those listed. -/
theorem advanceParked_step {pool next : GoroutinePool} {call : SubmitCall} {task : Nat}
    {choice : GoroutineChoice} {after : GoroutineFrame}
    (taken : pool.advanceParked call task choice = some (next, after)) :
    SubmitStep pool call task .parked choice next after := by
  -- Once the stop channel is closed, no other case is left.
  unfold advanceParked at taken
  split at taken
  · split at taken
    · next stop =>
      cases taken
      exact @SubmitStep.stopped pool call task true stop
    · cases taken
  · split at taken
    · next room =>
      simp only [Bool.and_eq_true, Bool.not_eq_true'] at room
      cases taken
      exact .sentLater room.1 room.2
    · cases taken
  · split at taken
    · cases taken
    · next usable => exact givesUp_step true (fun _ => by simpa using usable) taken

/-- Every step of a submission is one of those listed. -/
theorem advanceSubmit_step {pool next : GoroutinePool} {call : SubmitCall} {task : Nat}
    {place : SubmitFrame} {choice : GoroutineChoice} {after : GoroutineFrame}
    (taken : pool.advanceSubmit call task place choice = some (next, after)) :
    SubmitStep pool call task place choice next after := by
  -- The cases follow the statements of the call, and then those of `ensureWorker`.
  unfold advanceSubmit at taken
  split at taken
  · split at taken
    · next closed =>
      cases taken
      exact .refused closed
    · next usable =>
      cases taken
      exact .admitted (by simpa using usable)
  · cases taken
    exact .counted
  · exact advanceSelect_step taken
  · exact advanceParked_step taken
  · split at taken
    · next fewer =>
      cases taken
      exact .loaded fewer
    · next enough =>
      cases taken
      exact .sufficed (by omega)
  · split at taken
    · next same =>
      cases same
      cases taken
      exact .swapped
    · next differs =>
      cases taken
      exact .overtaken differs
  · cases taken
    exact .added
  · cases taken
    exact .spawned
  · cases taken
    exact .rejected
  · cases taken

/-- What each step of a worker does, and when it is taken. -/
inductive WorkerStep (pool : GoroutinePool) :
    WorkerFrame → GoroutineChoice → GoroutinePool → GoroutineFrame → Prop
  | received {task : Nat} {rest : List Nat} (front : pool.taskQueue = task :: rest) :
      WorkerStep pool .select .receive { pool with taskQueue := rest } (.worker (.start task))
  | drained (empty : pool.taskQueue = []) (closed : pool.taskQueueClosed = true) :
      WorkerStep pool .select .receive pool (.worker .leave)
  | idled : WorkerStep pool .select .timeout pool (.worker .loadWorkers)
  | stopped (stop : pool.stopChanClosed = true) :
      WorkerStep pool .select .stopped pool (.worker .leave)
  | started {task : Nat} :
      WorkerStep pool (.start task) .run { pool with running := pool.running + 1 }
        (.worker (.run task))
  | executed {task : Nat} :
      WorkerStep pool (.run task) .run { pool with executed := pool.executed ++ [task] }
        (.worker .complete)
  | completed :
      WorkerStep pool .complete .run { pool with completed := pool.completed + 1 }
        (.worker .finish)
  | finished :
      WorkerStep pool .finish .run { pool with running := pool.running - 1 } (.worker .select)
  | loadedWorkers : WorkerStep pool .loadWorkers .run pool (.worker (.loadRunning pool.workers))
  | loadedRunning {currentWorkers : Int} :
      WorkerStep pool (.loadRunning currentWorkers) .run pool
        (.worker (.decide currentWorkers pool.running))
  | retired {currentWorkers running : Int}
      (retires : currentWorkers > 1 ∨ pool.taskQueue.length = 0 ∧ running = 0) :
      WorkerStep pool (.decide currentWorkers running) .run pool (.worker .leave)
  | stayed {currentWorkers running : Int} :
      WorkerStep pool (.decide currentWorkers running) .run pool (.worker .select)
  | left : WorkerStep pool .leave .run { pool with workers := pool.workers - 1 } (.worker .done)
  | gone : WorkerStep pool .done .run { pool with wg := pool.wg - 1 } (.ready none)

/-- Every step of a worker is one of those listed. -/
theorem advanceWorker_step {pool next : GoroutinePool} {place : WorkerFrame}
    {choice : GoroutineChoice} {after : GoroutineFrame}
    (taken : pool.advanceWorker place choice = some (next, after)) :
    WorkerStep pool place choice next after := by
  -- The cases of the select come first, then the task, the timer and the way out.
  unfold advanceWorker at taken
  split at taken
  · split at taken
    · next task rest front =>
      cases taken
      exact .received front
    · next empty =>
      split at taken
      · next closed =>
        cases taken
        exact .drained empty closed
      · cases taken
  · cases taken
    exact .idled
  · split at taken
    · next stop =>
      cases taken
      exact .stopped stop
    · cases taken
  · cases taken
    exact .started
  · cases taken
    exact .executed
  · cases taken
    exact .completed
  · cases taken
    exact .finished
  · cases taken
    exact .loadedWorkers
  · cases taken
    exact .loadedRunning
  · split at taken
    · next retires =>
      cases taken
      exact .retired retires
    · cases taken
      exact .stayed
  · cases taken
    exact .left
  · cases taken
    exact .gone
  · cases taken

/-- What each step of a goroutine does, and when it is taken. -/
inductive GoroutineStep (pool : GoroutinePool) :
    GoroutineFrame → GoroutineChoice → GoroutinePool → GoroutineFrame → Prop
  | calledSubmit {error : Option SubmitError} {call : SubmitCall} :
      GoroutineStep pool (.ready error) (.submit call)
        { pool with nextTask := pool.nextTask + 1 } (.submit call pool.nextTask .check)
  | calledClose {error : Option SubmitError} (fresh : pool.once = .fresh) :
      GoroutineStep pool (.ready error) .close { pool with once := .running } (.close .store)
  | closedAgain {error : Option SubmitError} (done : pool.once = .done) :
      GoroutineStep pool (.ready error) .close pool (.ready none)
  | began {error : Option SubmitError} {starting : Nat} (new : pool.starting = starting + 1) :
      GoroutineStep pool (.ready error) .begin { pool with starting := starting }
        (.worker .select)
  | submit {call : SubmitCall} {task : Nat} {place : SubmitFrame} {choice : GoroutineChoice}
      {next : GoroutinePool} {after : GoroutineFrame}
      (step : SubmitStep pool call task place choice next after) :
      GoroutineStep pool (.submit call task place) choice next after
  | worker {place : WorkerFrame} {choice : GoroutineChoice} {next : GoroutinePool}
      {after : GoroutineFrame} (step : WorkerStep pool place choice next after) :
      GoroutineStep pool (.worker place) choice next after
  | stored : GoroutineStep pool (.close .store) .run { pool with closed := true } (.close .stopChan)
  | stopped :
      GoroutineStep pool (.close .stopChan) .run { pool with stopChanClosed := true }
        (.close .taskQueue)
  | shut :
      GoroutineStep pool (.close .taskQueue) .run { pool with taskQueueClosed := true }
        (.close .wait)
  | waited (gone : pool.wg = 0) :
      GoroutineStep pool (.close .wait) .run { pool with once := .done } (.ready none)

/-- Every step of a goroutine is one of those listed. -/
theorem advance_goroutineStep {pool next : GoroutinePool} {frame after : GoroutineFrame}
    {choice : GoroutineChoice} (taken : pool.advance frame choice = some (next, after)) :
    GoroutineStep pool frame choice next after := by
  -- Submissions and workers have lists of their own.
  unfold advance at taken
  split at taken
  · cases taken
    exact .calledSubmit
  · split at taken
    · next fresh =>
      cases taken
      exact .calledClose fresh
    · cases taken
    · next done =>
      cases taken
      exact .closedAgain done
  · split at taken
    · cases taken
    · next starting new =>
      cases taken
      exact .began new
  · exact .submit (advanceSubmit_step taken)
  · exact .worker (advanceWorker_step taken)
  · next place =>
    cases place with
    | store =>
      cases taken
      exact .stored
    | stopChan =>
      cases taken
      exact .stopped
    | taskQueue =>
      cases taken
      exact .shut
    | wait =>
      simp only [advanceStop] at taken
      split at taken
      · next gone =>
        cases taken
        exact .waited gone
      · cases taken
  · cases taken

/-- A goroutine gets from one place to another by itself. -/
abbrev Gets : GoroutinePool × GoroutineFrame → GoroutinePool × GoroutineFrame → Prop :=
  Machine.Leads (fun reached choice => reached.1.advance reached.2 choice) fun _ _ => True

end GoroutinePool

/-- A pool with all goroutines that submit to it, work for it or close it. -/
abbrev GoroutineWorld := Machine.Threads GoroutinePool GoroutineFrame

namespace GoroutineWorld

/-- A new pool, with nobody using it yet. -/
def start (config : GoroutinePoolConfig) : GoroutineWorld :=
  ⟨newGoroutinePool config, fun _ => .ready none⟩

/-- One goroutine takes a step. -/
abbrev step : GoroutineWorld → Nat × GoroutineChoice → Option GoroutineWorld :=
  Machine.Threads.step GoroutinePool.advance

/-- A step of the world is one of the steps listed, taken by one goroutine. -/
theorem step_inv {world next : GoroutineWorld} {label : Nat × GoroutineChoice}
    (taken : world.step label = some next) :
    ∃ shared after,
      GoroutinePool.GoroutineStep world.shared (world.frame label.1) label.2 shared after ∧
        next = ⟨shared, Function.update world.frame label.1 after⟩ :=
  Machine.Threads.exists_advance GoroutinePool.advance_goroutineStep taken

end GoroutineWorld

end Balance
