import Breakwater.Proofs.Call.Move
import Breakwater.Proofs.Timer.Deadlines

/-! A call without the places that its timeouts have in the timer. All that a call does, but for the
registration itself, is the same without them.
-/

namespace Breakwater

variable {α : Type}

/-- The handle that stands for all registrations, wherever they are in the timer. -/
def TimerHandle.blank : TimerHandle := ⟨⟨0, 0⟩, 0⟩

/-- A timer of which is known only whether it was stopped. -/
def Timer.blank {ι : Type} (isShutdown : Bool) : Timer ι := { Timer.create "" with isShutdown }

/-- A command without the place of its timeout. -/
def Command.unplaced (command : Command α) : Command α :=
  { command with timer := command.timer.map fun _ => .blank }

/-- A dependency without its own place among others and those of its timeouts. -/
def Dependency.unplaced (dependency : Dependency α) : Dependency α :=
  { dependency with
    id := 0
    timer := 0
    commands := dependency.commands.map Command.unplaced }

/-- A gateway with a timer of its own, in which nothing is registered. -/
def Gateway.unplaced (gateway : Gateway α) : Gateway α where
  clock := gateway.clock
  timer := .blank gateway.timer.isShutdown
  dependency := gateway.dependency.unplaced

def Call.unplaced (call : Call α) : Call α where
  gateway := call.gateway.unplaced
  number := call.number
  command := call.command.unplaced

-----------------------------------------------------------------------------------------
-- Dependencies
-----------------------------------------------------------------------------------------

/-- A command without its place in the timer has none to lose. -/
theorem Command.unplaced_unplaced (command : Command α)
    : command.unplaced.unplaced = command.unplaced := by
  obtain ⟨_, _, _, _, _, timer, _, _, _, _, _⟩ := command
  cases timer <;> rfl

namespace Dependency

variable (dependency : Dependency α)

theorem unplaced_unplaced : dependency.unplaced.unplaced = dependency.unplaced := by
  have commands : dependency.unplaced.commands.map Command.unplaced
      = dependency.unplaced.commands := by
    simp only [unplaced, List.map_map, Function.comp_def, Command.unplaced_unplaced]
  rw [unplaced, commands]
  rfl

/-- The journal is kept in the same way, by induction on the reports. -/
theorem unplaced_noteAll (reports : List Transition)
    : (dependency.noteAll reports).unplaced = dependency.unplaced.noteAll reports := by
  induction reports generalizing dependency with
  | nil => rfl
  | cons first rest ih => exact ih (dependency.note (.circuit first))

/-- The circuit goes the same way when it is told of a success. -/
theorem unplaced_markSuccess (now : Nat)
    : (dependency.markSuccess now).unplaced = dependency.unplaced.markSuccess now :=
  unplaced_noteAll _ _

/-- The circuit goes the same way when it is asked for a request. -/
theorem unplaced_allowRequest (now : Nat)
    : (dependency.allowRequest now).2.unplaced = (dependency.unplaced.allowRequest now).2 :=
  unplaced_noteAll _ _

/-- The circuit goes the same way when it is asked whether it is open. -/
theorem unplaced_isCircuitOpen (now : Nat)
    : (dependency.isCircuitOpen now).2.unplaced = (dependency.unplaced.isCircuitOpen now).2 :=
  unplaced_noteAll _ _

/-- A permit for somebody else is taken in the same way. -/
theorem unplaced_acquireOutside (bulkhead : Bulkhead)
    : (dependency.acquireOutside bulkhead).2.unplaced
      = (dependency.unplaced.acquireOutside bulkhead).2 := by
  have semaphore : dependency.unplaced.semaphoreOf bulkhead = dependency.semaphoreOf bulkhead := by
    cases bulkhead <;> rfl
  simp only [acquireOutside, semaphore]
  split
  · rfl
  · cases bulkhead <;> rfl

/-- A permit of somebody else is given back in the same way. -/
theorem unplaced_releaseOutside (number : Nat)
    : (dependency.releaseOutside number).unplaced
      = dependency.unplaced.releaseOutside number := by
  have outside : dependency.unplaced.outside = dependency.outside := rfl
  simp only [releaseOutside, outside]
  split
  · rfl
  · rename_i held _
    obtain ⟨bulkhead, permit⟩ := held
    cases bulkhead <;> rfl

end Dependency

-----------------------------------------------------------------------------------------
-- Calls
-----------------------------------------------------------------------------------------

namespace Call

variable (call : Call α)

theorem unplaced_unplaced : call.unplaced.unplaced = call.unplaced := by
  rw [unplaced, unplaced, Gateway.unplaced, Gateway.unplaced, Dependency.unplaced_unplaced,
    Command.unplaced_unplaced]
  rfl

/-- A change of the dependency that does not look at places goes the same way without them. -/
theorem unplaced_mapDependency (change : Dependency α → Dependency α)
    (same : (change call.dependency).unplaced = change call.dependency.unplaced)
    : (call.mapDependency change).unplaced = call.unplaced.mapDependency change := by
  show Call.mk ⟨_, _, (change call.dependency).unplaced⟩ _ _ = _
  rw [same]
  rfl

/-- A change of the command that does not look at its place goes the same way without it. -/
theorem unplaced_mapCommand (change : Command α → Command α)
    (same : (change call.command).unplaced = change call.command.unplaced)
    : (call.mapCommand change).unplaced = call.unplaced.mapCommand change := by
  show Call.mk _ _ (change call.command).unplaced = _
  rw [same]
  rfl

/-- The command is put back among the others, which lose their places one by one. -/
theorem unplaced_store : call.store.unplaced = call.unplaced.store := by
  simp only [Gateway.unplaced, store, Dependency.unplaced, List.map_set]
  rfl

/-- Disarming a timeout goes the same way, as only whether it is armed matters to a command. -/
theorem unplaced_cancelTimer : call.cancelTimer.unplaced = call.unplaced.cancelTimer := by
  have running (handle : TimerHandle)
      : (call.gateway.timer.cancel handle).2.isShutdown = call.gateway.timer.isShutdown := by
    simp only [Timer.cancel, Timer.release]
    split
    · split <;> rfl
    · rfl
  cases armed : call.command.timer with
  | none =>
      have blank : call.unplaced.command.timer = none := by simp [unplaced, Command.unplaced, armed]
      simp only [cancelTimer, armed, blank]
  | some handle =>
      have blank : call.unplaced.command.timer = some .blank := by
        simp [unplaced, Command.unplaced, armed]
      simp only [cancelTimer, armed, blank]
      show Call.mk ⟨_, .blank (call.gateway.timer.cancel handle).2.isShutdown, _⟩ _ _ = _
      rw [running]
      rfl

theorem unplaced_releasePermit : call.releasePermit.unplaced = call.unplaced.releasePermit := by
  have same : call.unplaced.command.permit = call.command.permit := rfl
  simp only [releasePermit, same]
  cases call.command.permit <;> rfl

theorem unplaced_releaseGauge : call.releaseGauge.unplaced = call.unplaced.releaseGauge := by
  have same : call.unplaced.command.gaugeHeld = call.command.gaugeHeld := rfl
  simp only [releaseGauge, same]
  split <;> rfl

theorem unplaced_cleanup (threadState : ThreadState)
    : (call.cleanup threadState).unplaced = call.unplaced.cleanup threadState := by
  simp only [cleanup, ← unplaced_cancelTimer, ← unplaced_releasePermit, ← unplaced_releaseGauge]
  generalize call.cancelTimer.releasePermit.releaseGauge = released
  have left := released.unplaced_mapCommand
    (fun command =>
      if command.threadState = .started then { command with threadState } else command) (by
    show _ = if released.command.threadState = .started then _ else _
    split <;> rfl)
  rw [← left]
  rfl

/-- An end goes the same way, for a command under way as for one that is over. -/
theorem unplaced_finish (outcome : Outcome α)
    : (call.finish outcome).unplaced = call.unplaced.finish outcome := by
  have same : call.unplaced.command.lifecycle = call.command.lifecycle := rfl
  simp only [finish, same]
  split
  · let left := call.mapCommand ({ · with lifecycle := .terminal })
    exact congrArg (fun closed : Call α => closed.mapCommand fun command =>
        { command with completion := command.completion.complete outcome })
      (left.unplaced_cleanup .terminal)
  · rfl

/-- Failing goes the same way, with the same fate of the fallback. -/
theorem unplaced_failToFallback (runner : Runner) (cause : CommandError)
    : (call.failToFallback runner cause).unplaced = call.unplaced.failToFallback runner cause := by
  have enabled : (call.unplaced.mapRecord (·.setCause cause.message)).config.fallbackEnabled
      = (call.mapRecord (·.setCause cause.message)).config.fallbackEnabled := rfl
  have phase : (call.unplaced.mapRecord (·.setCause cause.message)).command.fallback
      = (call.mapRecord (·.setCause cause.message)).command.fallback := rfl
  have semaphore
      : (call.unplaced.mapRecord (·.setCause cause.message)).dependency.fallbackSemaphore
        = (call.mapRecord (·.setCause cause.message)).dependency.fallbackSemaphore := rfl
  simp only [failToFallback, enabled, phase, semaphore]
  split
  · exact unplaced_finish _ _
  · split
    · split
      · rfl
      · exact unplaced_finish _ _
    · exact unplaced_finish _ _

theorem unplaced_reject (runner : Runner) (isolation : Isolation)
    : (call.reject runner isolation).unplaced = call.unplaced.reject runner isolation :=
  unplaced_failToFallback _ _ _

theorem unplaced_enterWorker : call.enterWorker.unplaced = call.unplaced.enterWorker := by
  have same : call.unplaced.command.threadState = call.command.threadState := rfl
  simp only [enterWorker, same]
  split <;> rfl

/-- Starting the work goes the same way, with the same claim on the command. -/
theorem unplaced_startWork (runner : Runner)
    : (call.startWork runner).unplaced = call.unplaced.startWork runner := by
  have lifecycle : call.unplaced.takeGauge.command.lifecycle
      = call.takeGauge.command.lifecycle := rfl
  have timeout : call.unplaced.takeGauge.command.timeout = call.takeGauge.command.timeout := rfl
  simp only [startWork, lifecycle, timeout]
  split
  · split
    · let occurred := (call.takeGauge.mapCommand
        ({ · with lifecycle := .userCodeExecuted })).mapRecord ExecutionRecord.markOccurred
      have entered := occurred.unplaced_enterWorker
      rw [show call.unplaced.takeGauge.mapCommand _ = _ from rfl]
      exact congrArg (fun entered : Call α =>
        (entered.mapCommand ({ · with work := .running entered.now runner })).note
          (.workStarted entered.number)) entered
    · rfl
  · have released := call.takeGauge.unplaced_releaseGauge
    split
    · exact congrArg (fun released : Call α =>
        (released.mapCommand ({ · with work := .over })).releaseWorker) released
    · exact congrArg (·.mapCommand ({ · with work := .over })) released

/-- What is left of a timeout that is registered is whether there is one. -/
theorem unplaced_beginInvocation
    : call.beginInvocation.unplaced = call.unplaced.beginInvocation.unplaced := by
  have same : call.unplaced.mapRecord (·.markStarted call.unplaced.now)
      = (call.mapRecord (·.markStarted call.now)).unplaced := rfl
  simp only [beginInvocation, same]
  generalize call.mapRecord (·.markStarted call.now) = started
  have enabled : started.unplaced.config = started.config := rfl
  rw [enabled]
  split
  · exact started.unplaced_unplaced.symm
  · cases stopped : started.gateway.timer.isShutdown with
    | true =>
        have blank : started.unplaced.gateway.timer.isShutdown = true := stopped
        rw [Timer.register_of_shutdown stopped, Timer.register_of_shutdown blank]
        exact started.unplaced_unplaced.symm
    | false =>
        have blank : started.unplaced.gateway.timer.isShutdown = false := stopped
        obtain ⟨handle, after, taken, running⟩ := Timer.register_of_running stopped
          (⟨started.dependency.id, started.number⟩ : CommandRef) started.config.executionTimeout
        obtain ⟨held, left, booked, runs⟩ := Timer.register_of_running blank
          (⟨started.unplaced.dependency.id, started.unplaced.number⟩ : CommandRef)
          started.config.executionTimeout
        -- The two handles differ, but nothing of them is left without their places.
        rw [taken, booked]
        simp only [unplaced, Gateway.unplaced, setTimer, mapCommand, running, runs,
          Dependency.unplaced_unplaced]
        rfl

/-- What begins with the registration of a timeout goes on the same without its place. -/
theorem unplaced_of_begun (onward : Call α → Call α)
    (same : ∀ call, (onward call).unplaced = onward call.unplaced)
    : (onward call.beginInvocation).unplaced
      = (onward call.unplaced.beginInvocation).unplaced := by
  rw [same, same, unplaced_beginInvocation]

/-- The semaphore admits the same commands. The timeout that one gets is in another place, hence the
places are taken away on both sides.
-/
theorem unplaced_admitBySemaphore
    : call.admitBySemaphore.unplaced = call.unplaced.admitBySemaphore.unplaced := by
  have place : call.unplaced.dependency.semaphore = call.dependency.semaphore := rfl
  simp only [admitBySemaphore, place]
  split
  · rw [unplaced_reject, unplaced_reject, unplaced_unplaced]
  · rename_i permit left _
    let held := (call.mapDependency ({ · with semaphore := left })).mapCommand
      ({ · with permit := some permit })
    exact held.unplaced_of_begun (·.startWork .caller) (·.unplaced_startWork .caller)

/-- The queue of the pool is looked at in the same way. The timeout of a command that passes is in
another place, hence the places are taken away on both sides.
-/
theorem unplaced_admitByPool (pool : WorkerPool Nat)
    : (call.admitByPool pool).unplaced = (call.unplaced.admitByPool pool).unplaced := by
  simp only [admitByPool]
  split
  · exact call.unplaced_of_begun (·.mapCommand ({ · with work := .handingOff })) fun _ => rfl
  · rw [unplaced_reject, unplaced_reject, unplaced_unplaced]

theorem unplaced_shortCircuit : call.shortCircuit.unplaced = call.unplaced.shortCircuit :=
  unplaced_failToFallback _ _ _

theorem unplaced_asked : call.asked.unplaced = call.unplaced.asked :=
  unplaced_mapDependency _ _ (Dependency.unplaced_allowRequest _ _)

/-- A submission goes the same way, by cases on who admits the command. -/
theorem unplaced_submit : call.submit.unplaced = call.unplaced.submit.unplaced := by
  have allowed : call.unplaced.isAllowed = call.isAllowed := rfl
  have pool : call.unplaced.dependency.pool = call.dependency.pool := rfl
  rw [submit_eq, submit_eq, allowed, pool, ← unplaced_asked]
  split
  · split
    · exact unplaced_admitBySemaphore _
    · exact unplaced_admitByPool _ _
  · rw [unplaced_shortCircuit, unplaced_shortCircuit, unplaced_unplaced]

/-- What is done with a command that nobody has claimed yet is the same without its place. -/
theorem unplaced_of_claimed (onward : Call α → Call α)
    (same : ∀ call, (onward call).unplaced = onward call.unplaced)
    : (if call.command.timeout = .notExecuted then
          onward (call.mapCommand ({ · with timeout := .completed })).cancelTimer
        else call).unplaced
      = if call.unplaced.command.timeout = .notExecuted then
          onward (call.unplaced.mapCommand ({ · with timeout := .completed })).cancelTimer
        else call.unplaced := by
  by_cases unclaimed : call.command.timeout = .notExecuted
  · have blank : call.unplaced.command.timeout = .notExecuted := unclaimed
    rw [if_pos unclaimed, if_pos blank, same, unplaced_cancelTimer]
    rfl
  · have blank : call.unplaced.command.timeout ≠ .notExecuted := unclaimed
    rw [if_neg unclaimed, if_neg blank]

/-- A hand-over goes the same way, by cases on what the pool says. -/
theorem unplaced_handOff : call.handOff.unplaced = call.unplaced.handOff := by
  have work : call.unplaced.command.work = call.command.work := rfl
  have pool : call.unplaced.dependency.pool = call.dependency.pool := rfl
  have number : call.unplaced.number = call.number := rfl
  simp only [handOff, work, pool, number]
  split
  · rename_i pool _ _
    split
    · rfl
    · let handed := call.mapDependency ({ · with pool := some (pool.submit call.number).2 })
      exact (handed.mapCommand ({ · with work := .over })).unplaced_of_claimed
        (·.reject .caller .threadPool) (·.unplaced_reject .caller .threadPool)
  · rfl

/-- What becomes of the work is the same, by cases on how it ended. -/
theorem unplaced_settle (runner : Runner) (latency : Nat) (result : Except WorkError α)
    : (call.settle runner latency result).unplaced
      = call.unplaced.settle runner latency result := by
  cases result with
  | ok value =>
      let tagged := call.mapRecord (·.addTimedTag latency .success)
      have told := tagged.unplaced_mapDependency (·.markSuccess call.now)
        (Dependency.unplaced_markSuccess _ _)
      exact (unplaced_finish _ _).trans (congrArg (·.finish (.ok value)) told)
  | error error =>
      have judged : call.unplaced.dependency.classifier.trips ⟨call.unplaced.key, error, latency⟩
          = call.dependency.classifier.trips ⟨call.key, error, latency⟩ := rfl
      simp only [settle, judged]
      split
      · exact unplaced_failToFallback _ _ _
      · exact unplaced_finish _ _

/-- The return of the work goes the same way, by cases on who has claimed the command. -/
theorem unplaced_workReturned (result : Except WorkError α)
    : (call.workReturned result).unplaced = call.unplaced.workReturned result := by
  have work : call.unplaced.command.work = call.command.work := rfl
  simp only [workReturned, work]
  split
  · rename_i since runner _
    let returned := call.mapCommand ({ · with work := .over })
    have settled := returned.unplaced_of_claimed (·.settle runner (call.now - since) result)
      (·.unplaced_settle runner (call.now - since) result)
    have relieved (settled : Call α)
        : (if runner = .worker ∧ !settled.isFallbackOnWorker then settled.releaseWorker
            else settled).unplaced
          = if runner = .worker ∧ !settled.unplaced.isFallbackOnWorker then
              settled.unplaced.releaseWorker
            else settled.unplaced := by
      have onWorker : settled.unplaced.isFallbackOnWorker = settled.isFallbackOnWorker := rfl
      rw [onWorker]
      split <;> rfl
    exact (relieved _).trans (congrArg (fun settled : Call α =>
      if runner = .worker ∧ !settled.isFallbackOnWorker then settled.releaseWorker else settled)
      settled)
  · rfl

/-- The return of a fallback goes the same way, by cases on its result. -/
theorem unplaced_fallbackReturned (result : Except WorkError α)
    : (call.fallbackReturned result).unplaced = call.unplaced.fallbackReturned result := by
  have phase : call.unplaced.command.fallback = call.command.fallback := rfl
  simp only [fallbackReturned, phase]
  split
  · rename_i cause runner _
    let returned := call.mapCommand ({ · with fallback := .over })
    have finished (tag : Tag) (outcome : Outcome α) :=
      unplaced_finish (returned.mapRecord (·.addTag tag)) outcome
    have released {finished blank : Call α} (same : finished.unplaced = blank)
        : (if runner = .worker then finished.rescued.releaseWorker else finished.rescued).unplaced
          = if runner = .worker then blank.rescued.releaseWorker else blank.rescued := by
      subst same
      split <;> rfl
    cases result with
    | ok value => exact released (finished .fallbackSuccess (.ok value))
    | error error =>
        exact released
          (finished .fallbackFailure (.error (.fallbackFailed call.key cause error)))
  · rfl

/-- A timeout goes the same way, in time or late. -/
theorem unplaced_timedOut : call.timedOut.unplaced = call.unplaced.timedOut := by
  have same : call.unplaced.command.timeout = call.command.timeout := rfl
  simp only [timedOut, same]
  split
  · exact unplaced_failToFallback _ _ _
  · rfl

/-- A cancellation goes the same way. -/
theorem unplaced_abandon : call.abandon.unplaced = call.unplaced.abandon := by
  let left := call.mapCommand fun command => { command with
    lifecycle := .unsubscribed
    timeout := if command.timeout = .notExecuted then .completed else command.timeout }
  let tagged := (left.mapRecord (·.addTag .cancelled)).mapDependency Dependency.markNonSuccess
  exact congrArg (fun closed : Call α => closed.mapCommand fun command =>
      { command with completion := command.completion.complete (.error (.cancelled call.key)) })
    (tagged.unplaced_cleanup .unsubscribed)

end Call

end Breakwater
