import Breakwater.Gateway.Call
import Breakwater.Proofs.Dependency.Views

/-! What each piece of a command's way does to the parts of a call. The number of the command
and the time stay; the command and the dependency are given by equations.
-/

namespace Breakwater

variable {α : Type}

/-- A command that has given back all it held and has its record stamped. -/
def Command.cleaned (command : Command α) (threadState : ThreadState) (latency : Nat)
    : Command α :=
  { command with
    threadState := if command.threadState = .started then threadState else command.threadState
    record := command.record.markReturned latency
    permit := none
    timer := none
    gaugeHeld := false }

/-- A command that ended with an outcome. -/
def Command.ended (command : Command α) (outcome : Outcome α) (latency : Nat) : Command α :=
  { command.cleaned .terminal latency with
    lifecycle := .terminal
    completion := command.completion.complete outcome }

namespace Call

variable (call : Call α)

-----------------------------------------------------------------------------------------
-- Changes of one part
-----------------------------------------------------------------------------------------

/-- A change of the dependency leaves the command, the number and the time. -/
@[simp]
theorem command_mapDependency (change : Dependency α → Dependency α)
    : (call.mapDependency change).command = call.command := rfl

@[simp]
theorem dependency_mapDependency (change : Dependency α → Dependency α)
    : (call.mapDependency change).dependency = change call.dependency := rfl

@[simp]
theorem number_mapDependency (change : Dependency α → Dependency α)
    : (call.mapDependency change).number = call.number := rfl

@[simp]
theorem now_mapDependency (change : Dependency α → Dependency α)
    : (call.mapDependency change).now = call.now := rfl

/-- A change of the command leaves the dependency, the number and the time. -/
@[simp]
theorem command_mapCommand (change : Command α → Command α)
    : (call.mapCommand change).command = change call.command := rfl

@[simp]
theorem dependency_mapCommand (change : Command α → Command α)
    : (call.mapCommand change).dependency = call.dependency := rfl

@[simp]
theorem number_mapCommand (change : Command α → Command α)
    : (call.mapCommand change).number = call.number := rfl

@[simp]
theorem now_mapCommand (change : Command α → Command α)
    : (call.mapCommand change).now = call.now := rfl

/-- A change of the record is a change of the command. -/
@[simp]
theorem command_mapRecord (change : ExecutionRecord → ExecutionRecord)
    : (call.mapRecord change).command
      = { call.command with record := change call.command.record } := rfl

@[simp]
theorem dependency_mapRecord (change : ExecutionRecord → ExecutionRecord)
    : (call.mapRecord change).dependency = call.dependency := rfl

@[simp]
theorem number_mapRecord (change : ExecutionRecord → ExecutionRecord)
    : (call.mapRecord change).number = call.number := rfl

@[simp]
theorem now_mapRecord (change : ExecutionRecord → ExecutionRecord)
    : (call.mapRecord change).now = call.now := rfl

/-- The timer is shared, and no part of the command or of the dependency. -/
@[simp]
theorem command_setTimer (timer : Timer CommandRef)
    : (call.setTimer timer).command = call.command := rfl

@[simp]
theorem dependency_setTimer (timer : Timer CommandRef)
    : (call.setTimer timer).dependency = call.dependency := rfl

@[simp]
theorem number_setTimer (timer : Timer CommandRef)
    : (call.setTimer timer).number = call.number := rfl

@[simp]
theorem now_setTimer (timer : Timer CommandRef) : (call.setTimer timer).now = call.now := rfl

@[simp]
theorem command_note (notice : Notice) : (call.note notice).command = call.command := rfl

/-- A notice goes into the journal of the dependency and nowhere else. -/
@[simp]
theorem dependency_note (notice : Notice)
    : (call.note notice).dependency = call.dependency.note notice := rfl

@[simp]
theorem number_note (notice : Notice) : (call.note notice).number = call.number := rfl

@[simp]
theorem now_note (notice : Notice) : (call.note notice).now = call.now := rfl

-----------------------------------------------------------------------------------------
-- Resources
-----------------------------------------------------------------------------------------

/-- Once its timeout was disarmed, a command holds no handle, whether or not it held one before. -/
@[simp]
theorem command_cancelTimer
    : call.cancelTimer.command = { call.command with timer := none } := by
  simp only [cancelTimer]
  split <;> rename_i armed <;> simp [← armed]

/-- The dependency takes no part in disarming a timeout, by cases on whether one is armed. -/
@[simp]
theorem dependency_cancelTimer : call.cancelTimer.dependency = call.dependency := by
  simp only [cancelTimer]
  split <;> simp

@[simp]
theorem number_cancelTimer : call.cancelTimer.number = call.number := by
  simp only [cancelTimer]
  split <;> simp

@[simp]
theorem now_cancelTimer : call.cancelTimer.now = call.now := by
  simp only [cancelTimer]
  split <;> simp

/-- The semaphore once the command has given its place back. -/
def freedSemaphore : Semaphore :=
  match call.command.permit with
  | none => call.dependency.semaphore
  | some permit => call.dependency.semaphore.drop permit

/-- A command that gives its place back holds no permit, whether or not it held one before. -/
@[simp]
theorem command_releasePermit
    : call.releasePermit.command = { call.command with permit := none } := by
  simp only [releasePermit]
  split <;> rename_i held <;> simp [← held]

/-- Only the semaphore of the dependency shows that a place was given back. -/
@[simp]
theorem dependency_releasePermit
    : call.releasePermit.dependency
      = { call.dependency with semaphore := call.freedSemaphore } := by
  cases held : call.command.permit <;> simp [releasePermit, freedSemaphore, held]

@[simp]
theorem number_releasePermit : call.releasePermit.number = call.number := by
  simp only [releasePermit]
  split <;> simp

@[simp]
theorem now_releasePermit : call.releasePermit.now = call.now := by
  simp only [releasePermit]
  split <;> simp

/-- The metrics once the command is no longer counted. -/
def uncountedMetrics : Metrics :=
  if call.command.gaugeHeld then call.dependency.metrics.decrementConcurrent
  else call.dependency.metrics

/-- A command that is counted no more has no hold on the gauge, whether or not it had one before. -/
@[simp]
theorem command_releaseGauge
    : call.releaseGauge.command = { call.command with gaugeHeld := false } := by
  simp only [releaseGauge]
  split <;> rename_i held
  · simp
  · simp [← Bool.eq_false_iff.mpr held]

/-- Only the metrics of the dependency show that a command is counted no more. -/
@[simp]
theorem dependency_releaseGauge
    : call.releaseGauge.dependency
      = call.dependency.mapMetrics (fun _ => call.uncountedMetrics) := by
  simp only [releaseGauge, uncountedMetrics]
  split <;> simp [Dependency.mapMetrics, Dependency.metrics]

@[simp]
theorem number_releaseGauge : call.releaseGauge.number = call.number := by
  simp only [releaseGauge]
  split <;> simp

@[simp]
theorem now_releaseGauge : call.releaseGauge.now = call.now := by
  simp only [releaseGauge]
  split <;> simp

-----------------------------------------------------------------------------------------
-- The end
-----------------------------------------------------------------------------------------

/-- The completion that the command would publish if it ended now. -/
def completionEvent : CompletionEvent where
  key := call.dependency.metrics.key
  completedAt := call.now
  record := call.command.record.markReturned call.sinceInvoked

/-- The dependency once the command has given everything back and published its completion. -/
def closedDependency : Dependency α :=
  let freed := { call.dependency with semaphore := call.freedSemaphore }
  let told := freed.mapMetrics fun _ =>
    call.uncountedMetrics.markDone call.completionEvent.record call.now
  told.note (.finished call.number call.completionEvent)

/-- A cleaned command holds nothing, and its record is stamped with the time since its submission. A
thread that never started keeps its state, by cases on whether it did.
-/
@[simp]
theorem command_cleanup (threadState : ThreadState)
    : (call.cleanup threadState).command
      = call.command.cleaned threadState call.sinceInvoked := by
  by_cases started : call.command.threadState = .started <;>
    simp [cleanup, Command.cleaned, sinceInvoked, started]

/-- A dependency that a command leaves is the closed one: place given back, gauge lowered,
completion published. By cases on whether the command held each of them.
-/
@[simp]
theorem dependency_cleanup (threadState : ThreadState)
    : (call.cleanup threadState).dependency = call.closedDependency := by
  by_cases started : call.command.threadState = .started <;>
    cases counted : call.command.gaugeHeld <;>
    simp [cleanup, closedDependency, completionEvent, freedSemaphore, uncountedMetrics,
      Dependency.mapMetrics, Dependency.metrics, Metrics.decrementConcurrent, sinceInvoked,
      started, counted]

@[simp]
theorem number_cleanup (threadState : ThreadState)
    : (call.cleanup threadState).number = call.number := by
  simp [cleanup]

@[simp]
theorem now_cleanup (threadState : ThreadState)
    : (call.cleanup threadState).now = call.now := by
  simp [cleanup]

/-- A command that is under way ends with the outcome, and one that is over stays as it is. -/
theorem command_finish (outcome : Outcome α)
    : (call.finish outcome).command
      = if call.command.lifecycle.isActive then call.command.ended outcome call.sinceInvoked
        else call.command := by
  simp only [finish]
  split
  · rw [command_mapCommand, command_cleanup]
    rfl
  · rfl

/-- The dependency is closed behind a command that was under way, and untouched otherwise. -/
theorem dependency_finish (outcome : Outcome α)
    : (call.finish outcome).dependency
      = if call.command.lifecycle.isActive then call.closedDependency else call.dependency := by
  simp only [finish]
  split
  · rw [dependency_mapCommand, dependency_cleanup]
    rfl
  · rfl

@[simp]
theorem number_finish (outcome : Outcome α) : (call.finish outcome).number = call.number := by
  simp only [finish]
  split <;> simp

@[simp]
theorem now_finish (outcome : Outcome α) : (call.finish outcome).now = call.now := by
  simp only [finish]
  split <;> simp

/-- Counting a command no more leaves the name under which its completion is published. -/
theorem key_uncountedMetrics : call.uncountedMetrics.key = call.dependency.metrics.key := by
  simp only [uncountedMetrics]
  split <;> rfl

/-- Counting a command no more leaves the bus that its completion goes to. -/
theorem bus_uncountedMetrics : call.uncountedMetrics.bus = call.dependency.metrics.bus := by
  simp only [uncountedMetrics]
  split <;> rfl

/-- A command that ends tells the ledger of its completion. -/
@[simp]
theorem ledger_closedDependency
    : call.closedDependency.ledger
      = call.dependency.ledger.publish call.number call.completionEvent := by
  rw [closedDependency, Dependency.ledger_note_finished]
  simp only [Ledger.publish, Dependency.ledger, Dependency.metrics, Dependency.mapMetrics,
    Metrics.markDone, key_uncountedMetrics, bus_uncountedMetrics]
  rfl

/-- What a dependency gives up when a command ends is no part of its frame. -/
@[simp]
theorem frame_closedDependency
    : call.closedDependency.frame = call.dependency.frame := by
  simp only [closedDependency, uncountedMetrics]
  split <;> rfl

/-- A completion waits on the bus, so the health that the circuit goes by is the same until a pump.
-/
@[simp]
theorem pulse_closedDependency : call.closedDependency.pulse = call.dependency.pulse := by
  simp only [closedDependency, uncountedMetrics]
  split <;> rfl

/-- Of all that the dependency lends out, an end gives back the place in the semaphore at most. -/
@[simp]
theorem loans_closedDependency
    : call.closedDependency.loans
      = { call.dependency.loans with semaphore := call.freedSemaphore } := rfl

-----------------------------------------------------------------------------------------
-- The submission
-----------------------------------------------------------------------------------------

/-- The call once the circuit was asked about the command that is submitted. -/
def asked : Call α :=
  (call.mapCommand
    ({ · with lifecycle := .chainCreated, invokedAt := call.now, work := .over })).mapDependency
      fun dependency => (dependency.allowRequest call.now).2

/-- Whether the circuit lets a command pass that is submitted. -/
def isAllowed : Bool := (call.dependency.allowRequest call.now).1

/-- What a submission can do: the circuit turns the command away, or lets it pass to the bulkhead.
-/
inductive Submitted (before : Call α) : Call α → Prop
  | turnedAway (denied : before.isAllowed = false) : Submitted before before.asked.shortCircuit
  | atSemaphore (allowed : before.isAllowed = true) (noPool : before.dependency.pool = none)
    : Submitted before before.asked.admitBySemaphore
  | atPool (pool : WorkerPool Nat) (allowed : before.isAllowed = true)
    (held : before.dependency.pool = some pool)
    : Submitted before (before.asked.admitByPool pool)

/-- A submission asks the circuit first, then the semaphore or the pool, or turns the command away.
-/
theorem submit_eq
    : call.submit
      = if call.isAllowed then
          match call.dependency.pool with
          | none => call.asked.admitBySemaphore
          | some pool => call.asked.admitByPool pool
        else call.asked.shortCircuit := by
  have same := call.dependency.pool_allowRequest call.now
  rcases answer : call.dependency.allowRequest call.now with ⟨allowed, dependency⟩
  have asked : call.asked = (call.mapCommand
      ({ · with lifecycle := .chainCreated, invokedAt := call.now, work := .over })).mapDependency
        fun _ => dependency := by
    simp [asked, mapDependency, answer]
  have passes : call.isAllowed = allowed := by rw [isAllowed, answer]
  simp only [answer] at same
  simp only [submit]
  simp only [dependency_mapCommand, now_mapCommand, answer, ← asked, same, passes]
  cases allowed <;> rfl

/-- What a submission does, as one case for each way it can go. -/
theorem submit_cases : Submitted call call.submit := by
  rw [submit_eq]
  split
  · rename_i allowed
    split
    · rename_i noPool
      exact .atSemaphore allowed noPool
    · rename_i pool held
      exact .atPool pool allowed held
  · rename_i denied
    exact .turnedAway (eq_false_of_ne_true denied)

end Call

end Breakwater
