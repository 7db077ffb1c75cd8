import Breakwater.Clock
import Breakwater.Dependency

/-!
What happens to one command between two moments at which user code runs or the surroundings
can step in: admission, the end of the work, timeouts, fallbacks, and the cleanup at the end.
-/

namespace Breakwater

/-- A dependency with the clock and the timer that its commands use. -/
structure Gateway (α : Type) where
  clock : Clock
  timer : Timer CommandRef
  dependency : Dependency α

/-- A gateway with one of its commands taken out to be worked on. -/
structure Call (α : Type) where
  gateway : Gateway α
  number : Nat
  command : Command α

namespace Call

variable {α : Type}

/-! ### Parts -/

def dependency (call : Call α) : Dependency α := call.gateway.dependency

def key (call : Call α) : String := call.dependency.key

def config (call : Call α) : CommandConfig := call.dependency.config

def now (call : Call α) : Nat := call.gateway.clock.now

/-- Milliseconds since the command was submitted. -/
def sinceInvoked (call : Call α) : Nat := call.now - call.command.invokedAt

def mapDependency (call : Call α) (change : Dependency α → Dependency α) : Call α :=
  { call with gateway := { call.gateway with dependency := change call.dependency } }

def mapCommand (call : Call α) (change : Command α → Command α) : Call α :=
  { call with command := change call.command }

def mapRecord (call : Call α) (change : ExecutionRecord → ExecutionRecord) : Call α :=
  call.mapCommand fun command => { command with record := change command.record }

def setTimer (call : Call α) (timer : Timer CommandRef) : Call α :=
  { call with gateway := { call.gateway with timer } }

/-- Write a notice into the dependency's journal. -/
def note (call : Call α) (notice : Notice) : Call α := call.mapDependency (·.note notice)

/-- Put the command back among those of the dependency. -/
def store (call : Call α) : Gateway α :=
  { call.gateway with dependency := { call.dependency with
      commands := call.dependency.commands.set call.number call.command } }

/-! ### Resources -/

/-- Disarm the timeout if it is registered. -/
def cancelTimer (call : Call α) : Call α :=
  match call.command.timer with
  | none => call
  | some handle =>
      (call.setTimer (call.gateway.timer.cancel handle).2).mapCommand ({ · with timer := none })

/-- Give the place in the semaphore back if one is held. -/
def releasePermit (call : Call α) : Call α :=
  match call.command.permit with
  | none => call
  | some permit =>
      (call.mapDependency fun dependency =>
        { dependency with semaphore := dependency.semaphore.drop permit }).mapCommand
          ({ · with permit := none })

/-- Count the command among those that run their work. -/
def takeGauge (call : Call α) : Call α :=
  (call.mapDependency (·.mapMetrics Metrics.incrementConcurrent)).mapCommand
    ({ · with gaugeHeld := true })

/-- Count the command no longer, if it was counted. -/
def releaseGauge (call : Call α) : Call α :=
  if call.command.gaugeHeld then
    (call.mapDependency (·.mapMetrics Metrics.decrementConcurrent)).mapCommand
      ({ · with gaugeHeld := false })
  else call

/-- The pool worker has nothing more to do for its task. -/
def releaseWorker (call : Call α) : Call α :=
  call.mapDependency fun dependency =>
    { dependency with pool := dependency.pool.map WorkerPool.finish }

/-! ### The end -/

/-- Give everything back, stamp the record and publish it. The clock stands still meanwhile: its
reading for the caller's latency is the one of the completion too.
-/
def cleanup (call : Call α) (threadState : ThreadState) : Call α :=
  let released := call.cancelTimer.releasePermit.releaseGauge
  let left := released.mapCommand fun command =>
    if command.threadState = .started then { command with threadState } else command
  let stamped := left.mapRecord (·.markReturned left.sinceInvoked)
  let record := stamped.command.record
  (stamped.mapDependency (·.mapMetrics (·.markDone record stamped.now))).note
    (.finished stamped.number ⟨stamped.dependency.metrics.key, stamped.now, record⟩)

/-- End the command with an outcome; the outcome of a command that has ended is dropped. -/
def finish (call : Call α) (outcome : Outcome α) : Call α :=
  if call.command.lifecycle.isActive then
    let left := call.mapCommand ({ · with lifecycle := .terminal })
    (left.cleanup .terminal).mapCommand fun command =>
      { command with completion := command.completion.complete outcome }
  else call

/-- Start the fallback, or end with the error if there is none to start. -/
def failToFallback (call : Call α) (runner : Runner) (cause : CommandError) : Call α :=
  let failed := call.mapRecord (·.setCause cause.message)
  if !failed.config.fallbackEnabled then failed.finish (.error cause)
  else
    match failed.command.fallback with
    | .ready =>
        match failed.dependency.fallbackSemaphore.tryAcquire with
        | some (_, fallbackSemaphore) =>
            ((failed.mapDependency ({ · with fallbackSemaphore })).mapCommand
              ({ · with fallback := .running cause runner })).note
                (.fallbackStarted failed.number cause)
        | none =>
            let rejected := failed.mapCommand ({ · with fallback := .over })
            (rejected.mapRecord (·.addTag .fallbackRejection)).finish
              (.error (.fallbackRejected failed.key cause))
    | _ => (failed.mapRecord (·.addTag .fallbackMissing)).finish (.error cause)

/-- Turn the command away at a bulkhead. -/
def reject (call : Call α) (runner : Runner) (isolation : Isolation) : Call α :=
  let tagged := call.mapRecord (·.addTag isolation.rejectionTag)
  (tagged.mapDependency Dependency.markNonSuccess).failToFallback runner
    (.isolationRejected call.key isolation)

/-! ### Admission -/

/-- Stamp the start and register the timeout. A timer that is shut down leaves the command
without one.
-/
def beginInvocation (call : Call α) : Call α :=
  let started := call.mapRecord (·.markStarted call.now)
  if !started.config.timeoutEnabled then started
  else
    let listener : CommandRef := ⟨started.dependency.id, started.number⟩
    match started.gateway.timer.register listener started.config.executionTimeout with
    | .ok (handle, timer) =>
        (started.setTimer timer).mapCommand ({ · with timer := some handle })
    | .error _ => started

/-- Mark the command as run by a pool worker. -/
def enterWorker (call : Call α) : Call α :=
  if call.command.threadState = .notUsingThread then
    (call.mapCommand ({ · with threadState := .started })).mapRecord ExecutionRecord.markOnWorker
  else call

/-- Start the work, unless the command has ended or timed out meanwhile. -/
def startWork (call : Call α) (runner : Runner) : Call α :=
  let counted := call.takeGauge
  if counted.command.lifecycle = .chainCreated ∧ counted.command.timeout ≠ .timedOut then
    let executed := counted.mapCommand ({ · with lifecycle := .userCodeExecuted })
    let occurred := executed.mapRecord ExecutionRecord.markOccurred
    let entered := if runner = .worker then occurred.enterWorker else occurred
    (entered.mapCommand ({ · with work := .running entered.now runner })).note
      (.workStarted entered.number)
  else
    let skipped := counted.releaseGauge.mapCommand ({ · with work := .over })
    if runner = .worker then skipped.releaseWorker else skipped

/-- Turn the command away at the open circuit. -/
def shortCircuit (call : Call α) : Call α :=
  (call.mapRecord (·.addTag .shortCircuited)).failToFallback .caller (.shortCircuited call.key)

/-- Run the work on the caller's thread if the semaphore has a place. -/
def admitBySemaphore (call : Call α) : Call α :=
  match call.dependency.semaphore.tryAcquire with
  | none => call.reject .caller .semaphore
  | some (permit, semaphore) =>
      let held := (call.mapDependency ({ · with semaphore })).mapCommand
        ({ · with permit := some permit })
      held.beginInvocation.startWork .caller

/-- Prepare to hand the work to the pool if its queue is below the threshold. -/
def admitByPool (call : Call α) (pool : WorkerPool Nat) : Call α :=
  if pool.isQueueSpaceAvailable then
    call.beginInvocation.mapCommand ({ · with work := .handingOff })
  else call.reject .caller .threadPool

/-- Submit a command that was not submitted before. -/
def submit (call : Call α) : Call α :=
  let created := call.mapCommand
    ({ · with lifecycle := .chainCreated, invokedAt := call.now, work := .over })
  let (allowed, dependency) := created.dependency.allowRequest created.now
  let asked := created.mapDependency fun _ => dependency
  if !allowed then asked.shortCircuit
  else
    match dependency.pool with
    | none => asked.admitBySemaphore
    | some pool => asked.admitByPool pool

/-- Hand the work to the pool. If the pool refuses it, the command is turned away, unless the
timeout has claimed it already.
-/
def handOff (call : Call α) : Call α :=
  match call.command.work, call.dependency.pool with
  | .handingOff, some pool =>
      let (answer, pool) := pool.submit call.number
      let handed := call.mapDependency ({ · with pool := some pool })
      match answer with
      | .ok () => handed.mapCommand ({ · with work := .queued })
      | .error _ =>
          let refused := handed.mapCommand ({ · with work := .over })
          if refused.command.timeout = .notExecuted then
            (refused.mapCommand ({ · with timeout := .completed })).cancelTimer.reject
              .caller .threadPool
          else refused
  | _, _ => call

/-! ### The end of the work -/

/-- The work ended with a value. -/
def succeed (call : Call α) (latency : Nat) (value : α) : Call α :=
  let tagged := call.mapRecord (·.addTimedTag latency .success)
  (tagged.mapDependency (·.markSuccess call.now)).finish (.ok value)

/-- The work ended with an error that does not count against the dependency. -/
def failAsBadRequest (call : Call α) (latency : Nat) (error : WorkError) : Call α :=
  let tagged := call.mapRecord fun record =>
    (record.addTimedTag latency .badRequest).setFailure error.message
  (tagged.mapDependency Dependency.markNonSuccess).finish (.error (.badRequest call.key error))

/-- The work ended with an error that counts against the dependency. -/
def failAsFailure (call : Call α) (runner : Runner) (latency : Nat) (error : WorkError) : Call α :=
  let tagged := call.mapRecord fun record =>
    (record.addTimedTag latency .failure).setFailure error.message
  (tagged.mapDependency Dependency.markNonSuccess).failToFallback runner
    (.executionFailed call.key error)

/-- The work ended in time. -/
def settle (call : Call α) (runner : Runner) (latency : Nat) (result : Except WorkError α)
    : Call α :=
  match result with
  | .ok value => call.succeed latency value
  | .error error =>
      if call.dependency.classifier.trips ⟨call.key, error, latency⟩ then
        call.failAsFailure runner latency error
      else call.failAsBadRequest latency error

/-- Whether a pool worker runs the fallback. -/
def isFallbackOnWorker (call : Call α) : Bool :=
  match call.command.fallback with
  | .running _ .worker => true
  | _ => false

/-- The work returned. Its result is dropped if the command was claimed by the timeout or by a
cancellation before.
-/
def workReturned (call : Call α) (result : Except WorkError α) : Call α :=
  match call.command.work with
  | .running since runner =>
      let latency := call.now - since
      let returned := call.mapCommand ({ · with work := .over })
      let settled :=
        if returned.command.timeout = .notExecuted then
          (returned.mapCommand ({ · with timeout := .completed })).cancelTimer.settle
            runner latency result
        else returned
      if runner = .worker ∧ !settled.isFallbackOnWorker then settled.releaseWorker else settled
  | _ => call

/-- The fallback returned; its permit is given back once the command has ended. -/
def fallbackReturned (call : Call α) (result : Except WorkError α) : Call α :=
  match call.command.fallback with
  | .running cause runner =>
      let returned := call.mapCommand ({ · with fallback := .over })
      let finished := match result with
        | .ok value => (returned.mapRecord (·.addTag .fallbackSuccess)).finish (.ok value)
        | .error error =>
            (returned.mapRecord (·.addTag .fallbackFailure)).finish
              (.error (.fallbackFailed call.key cause error))
      let released := finished.mapDependency fun dependency =>
        { dependency with fallbackSemaphore := dependency.fallbackSemaphore.giveBack }
      if runner = .worker then released.releaseWorker else released
  | _ => call

/-- The timeout's deadline has passed. -/
def timedOut (call : Call α) : Call α :=
  if call.command.timeout = .notExecuted then
    let claimed := call.mapCommand ({ · with timeout := .timedOut })
    let tagged := claimed.mapRecord (·.addTimedTag claimed.sinceInvoked .timeout)
    (tagged.mapDependency Dependency.markNonSuccess).failToFallback .timer
      (.timeout call.key call.config.executionTimeout)
  else call

/-- The caller gives the command up. -/
def abandon (call : Call α) : Call α :=
  let left := call.mapCommand fun command => { command with
    lifecycle := .unsubscribed
    timeout := if command.timeout = .notExecuted then .completed else command.timeout }
  let tagged := left.mapRecord (·.addTag .cancelled)
  ((tagged.mapDependency Dependency.markNonSuccess).cleanup .unsubscribed).mapCommand
    fun command =>
      { command with completion := command.completion.complete (.error (.cancelled call.key)) }

end Call

end Breakwater
