import Breakwater.Proofs.Gateway.Change

/-! What the circuit is told of a command, and when it will not be told of it any more. -/

namespace Breakwater

variable {α : Type}

/-- What a circuit can be told of a command. -/
inductive Verdict where
  | success
  | nonSuccess
  deriving DecidableEq, Repr

namespace Switch

/-- How the circuit looks from outside, unless it is forced open. -/
def state (switch : Switch) : CircuitState :=
  if !switch.opened then .closed
  else if switch.probing then .halfOpen
  else .isOpen

/-- The circuit after it was told of a command, or was not. -/
def told (switch : Switch) : Option Verdict → Switch
  | some .success =>
      if switch.opened then { switch with opened := false, probing := false } else switch
  | some .nonSuccess => if switch.opened then { switch with probing := false } else switch
  | none => switch

end Switch

namespace Pulse

/-- Whether a circuit that is told this closes and starts its health afresh. -/
def resets (pulse : Pulse) (verdict : Option Verdict) : Bool :=
  verdict == some .success && pulse.switch.opened && pulse.resetOnClose

/-- The circuit and its health after it was told of a command, or was not. -/
def told (pulse : Pulse) (verdict : Option Verdict) : Pulse :=
  { pulse with
    switch := pulse.switch.told verdict
    health := if pulse.resets verdict then pulse.health.reset else pulse.health }

/-- A circuit that is told nothing stays as it is. -/
@[simp]
theorem told_none (pulse : Pulse) : pulse.told none = pulse := rfl

end Pulse

/-- A dependency that is told of a success passes it on to its circuit, by cases on whether that is
open and whether closing starts its health afresh.
-/
theorem Dependency.pulse_markSuccess (dependency : Dependency α) (now : Nat)
    : (dependency.markSuccess now).pulse = dependency.pulse.told (some .success) := by
  simp only [markSuccess]
  rw [pulse_noteAll]
  simp only [Breaker.markSuccess]
  cases opened : dependency.circuit.opened with
  | false => simp [Pulse.told, Pulse.resets, Switch.told, pulse, Breaker.switch, opened, metrics]
  | true =>
      cases resets : dependency.circuit.config.resetHealthOnClose <;>
        simp [Pulse.told, Pulse.resets, Switch.told, pulse, Breaker.switch, opened, resets, metrics,
          HealthSource.reset, Metrics.resetHealth]

/-- A dependency that is told of any other end passes it on to its circuit. -/
theorem Dependency.pulse_markNonSuccess (dependency : Dependency α)
    : dependency.markNonSuccess.pulse = dependency.pulse.told (some .nonSuccess) := by
  simp only [markNonSuccess, Breaker.markNonSuccess]
  cases opened : dependency.circuit.opened <;>
    simp [Pulse.told, Pulse.resets, Switch.told, pulse, Breaker.switch, opened, metrics]

/-- Whether an admitted command would find a place now. -/
def Dependency.hasPlace (dependency : Dependency α) : Bool :=
  match dependency.pool with
  | none => dependency.semaphore.tryAcquire.isSome
  | some pool => pool.isQueueSpaceAvailable

/-- Whether there is a place does not depend on what the circuit is asked. -/
theorem Dependency.hasPlace_allowRequest (dependency : Dependency α) (now : Nat)
    : (dependency.allowRequest now).2.hasPlace = dependency.hasPlace := by
  simp only [allowRequest]
  simp only [noteAll_eq]
  rfl

def Verdict.ofResult : Except WorkError α → Verdict
  | .ok _ => .success
  | .error _ => .nonSuccess

def WorkPhase.isRunning : WorkPhase → Bool
  | running _ _ => true
  | _ => false

namespace Call

/-- Whether the timer would still fire the timeout of the command. -/
def isArmed (call : Call α) : Bool :=
  (call.command.timer.bind (fun handle => call.gateway.timer.fire? handle.token)).isSome

/-- Whether the pool would refuse the command now. -/
def isRefused (call : Call α) : Bool :=
  call.dependency.pool.any (·.refusal?.isSome)

/-- What a step that works on a command tells the circuit of it. -/
def verdict (call : Call α) : Gateway.Step α → Option Verdict
  | .submit _ =>
      if call.command.lifecycle = .notStarted ∧ (call.dependency.allowRequest call.now).1
          ∧ !call.dependency.hasPlace then some .nonSuccess
      else none
  | .handOff _ =>
      if call.command.work = .handingOff ∧ call.command.timeout = .notExecuted
          ∧ call.isRefused then some .nonSuccess
      else none
  | .workReturned _ result =>
      if call.command.work.isRunning ∧ call.command.timeout = .notExecuted then
        some (.ofResult result)
      else none
  | .timeoutFired _ =>
      if call.isArmed ∧ call.command.timeout = .notExecuted then some .nonSuccess else none
  | .cancel _ =>
      if call.command.lifecycle.isActive ∧ call.command.hasReturned then some .nonSuccess
      else none
  | _ => none

def switch (call : Call α) : Switch := call.dependency.circuit.switch

def pulse (call : Call α) : Pulse := call.dependency.pulse

variable (call : Call α)

-----------------------------------------------------------------------------------------
-- What the circuit is told
-----------------------------------------------------------------------------------------

/-- The circuit and its health are no part of the command. -/
@[simp]
theorem pulse_mapCommand (change : Command α → Command α)
    : (call.mapCommand change).pulse = call.pulse := rfl

/-- The circuit does not see what a record tells. -/
@[simp]
theorem pulse_mapRecord (change : ExecutionRecord → ExecutionRecord)
    : (call.mapRecord change).pulse = call.pulse := rfl

/-- The circuit does not see the journal. -/
@[simp]
theorem pulse_note (notice : Notice) : (call.note notice).pulse = call.pulse := rfl

/-- Putting the command back among the others leaves the circuit. -/
theorem pulse_store : call.store.dependency.pulse = call.pulse := rfl

/-- Disarming a timeout tells the circuit nothing. -/
@[simp]
theorem pulse_cancelTimer : call.cancelTimer.pulse = call.pulse := by simp [pulse]

/-- The end of a command tells the circuit nothing by itself. -/
@[simp]
theorem pulse_finish (outcome : Outcome α) : (call.finish outcome).pulse = call.pulse := by
  simp only [pulse, dependency_finish]
  split <;> simp

/-- Failing tells the circuit nothing by itself, whatever becomes of the fallback. -/
@[simp]
theorem pulse_failToFallback (runner : Runner) (cause : CommandError)
    : (call.failToFallback runner cause).pulse = call.pulse := by
  rw [failToFallback]
  dsimp only
  split
  · simp
  · split
    · split
      · rfl
      · simp
    · simp

/-- A command that is turned away by its bulkhead tells the circuit that there was no success. -/
@[simp]
theorem pulse_reject (runner : Runner) (isolation : Isolation)
    : (call.reject runner isolation).pulse = call.pulse.told (some .nonSuccess) := by
  simp only [reject, pulse_failToFallback]
  exact Dependency.pulse_markNonSuccess _

/-- Counting a command as running leaves the health that the circuit goes by. -/
@[simp]
theorem pulse_takeGauge : call.takeGauge.pulse = call.pulse := rfl

/-- Counting a command no more leaves the health that the circuit goes by. -/
@[simp]
theorem pulse_releaseGauge : call.releaseGauge.pulse = call.pulse := by
  simp only [releaseGauge]
  split <;> rfl

/-- A worker that becomes idle tells the circuit nothing. -/
@[simp]
theorem pulse_releaseWorker : call.releaseWorker.pulse = call.pulse := rfl

/-- Claiming the thread tells the circuit nothing. -/
@[simp]
theorem pulse_enterWorker : call.enterWorker.pulse = call.pulse := by
  simp only [enterWorker]
  split <;> rfl

/-- Starting the work tells the circuit nothing, and neither does leaving it to the timeout. -/
@[simp]
theorem pulse_startWork (runner : Runner) : (call.startWork runner).pulse = call.pulse := by
  rw [startWork]
  dsimp only
  split <;> split <;> simp

/-- Arming the timeout tells the circuit nothing. -/
@[simp]
theorem pulse_beginInvocation : call.beginInvocation.pulse = call.pulse := by simp [pulse]

/-- The semaphore tells the circuit of a command exactly if it has no place for it. -/
theorem pulse_admitBySemaphore (noPool : call.dependency.pool = none)
    : call.admitBySemaphore.pulse
      = call.pulse.told (if call.dependency.hasPlace then none else some .nonSuccess) := by
  simp only [admitBySemaphore]
  cases place : call.dependency.semaphore.tryAcquire with
  | none =>
      have full : call.dependency.hasPlace = false := by
        simp [Dependency.hasPlace, noPool, place]
      simp [full]
  | some held =>
      have free : call.dependency.hasPlace := by simp [Dependency.hasPlace, noPool, place]
      simp only [free, if_true, pulse_startWork, pulse_beginInvocation, pulse_mapCommand]
      rfl

/-- The pool tells the circuit of a command exactly if its queue looks full. -/
theorem pulse_admitByPool {pool : WorkerPool Nat} (held : call.dependency.pool = some pool)
    : (call.admitByPool pool).pulse
      = call.pulse.told (if call.dependency.hasPlace then none else some .nonSuccess) := by
  simp only [admitByPool]
  cases space : pool.isQueueSpaceAvailable with
  | false => simp [Dependency.hasPlace, held, space]
  | true => simp [Dependency.hasPlace, held, space, Pulse.told_none]

/-- Being asked about a command does not take its place. -/
theorem hasPlace_asked : call.asked.dependency.hasPlace = call.dependency.hasPlace :=
  call.dependency.hasPlace_allowRequest call.now

/-- A submission asks the circuit, and tells it of a command that passes and finds no place. -/
theorem pulse_submit (number : Nat) (notStarted : call.command.lifecycle = .notStarted)
    : call.submit.pulse = call.asked.pulse.told (call.verdict (.submit number)) := by
  have verdict : call.verdict (.submit number)
      = if call.isAllowed then if call.asked.dependency.hasPlace then none else some .nonSuccess
        else none := by
    rw [hasPlace_asked]
    cases allowed : call.isAllowed <;> cases free : call.dependency.hasPlace <;>
      simp_all [verdict, isAllowed]
  rw [verdict]
  have submitted := call.submit_cases
  generalize call.submit = after at submitted ⊢
  cases submitted with
  | turnedAway denied =>
      rw [denied]
      exact pulse_failToFallback _ _ _
  | atSemaphore allowed noPool =>
      rw [allowed]
      exact call.asked.pulse_admitBySemaphore ((Dependency.pool_allowRequest _ _).trans noPool)
  | atPool pool allowed held =>
      rw [allowed]
      exact call.asked.pulse_admitByPool ((Dependency.pool_allowRequest _ _).trans held)

/-- The circuit is told how the work ended: with success, or without. -/
theorem pulse_settle (runner : Runner) (latency : Nat) (result : Except WorkError α)
    : (call.settle runner latency result).pulse = call.pulse.told (some (.ofResult result)) := by
  cases result with
  | ok value =>
      simp only [settle, succeed, pulse_finish]
      exact Dependency.pulse_markSuccess _ _
  | error error =>
      simp only [settle]
      split
      · simp only [failAsFailure, pulse_failToFallback]
        exact Dependency.pulse_markNonSuccess _
      · simp only [failAsBadRequest, pulse_finish]
        exact Dependency.pulse_markNonSuccess _

/-- The return of the work tells the circuit how it ended if it came in time. -/
theorem pulse_workReturned (number : Nat) (result : Except WorkError α)
    : (call.workReturned result).pulse
      = call.pulse.told (call.verdict (.workReturned number result)) := by
  simp only [workReturned]
  split
  · rename_i since runner work
    have released (settled : Call α)
        : (if runner = .worker ∧ !settled.isFallbackOnWorker then settled.releaseWorker
            else settled).pulse = settled.pulse := by
      split <;> simp
    rw [released]
    by_cases unclaimed : call.command.timeout = .notExecuted
    · simp only [command_mapCommand, unclaimed, if_true, pulse_settle, verdict, work]
      simp [WorkPhase.isRunning]
    · simp [verdict, unclaimed, Pulse.told_none]
  · rename_i idle
    have resting : call.command.work.isRunning = false := by
      cases work : call.command.work with
      | running since runner => exact absurd work (idle since runner)
      | _ => rfl
    simp [verdict, resting, Pulse.told_none]

/-- The return of a fallback tells the circuit nothing, since it was told when the work failed. -/
theorem pulse_fallbackReturned (result : Except WorkError α)
    : (call.fallbackReturned result).pulse = call.pulse := by
  rw [fallbackReturned]
  split
  · dsimp only
    have given (after : Call α)
        : (after.mapDependency fun dependency =>
            { dependency with
              fallbackSemaphore := dependency.fallbackSemaphore.giveBack }).pulse
          = after.pulse := rfl
    split <;> split <;> simp [given]
  · rfl

/-- A timeout tells the circuit of the command exactly if it is the one that claims it. -/
theorem pulse_timedOut
    : call.timedOut.pulse
      = call.pulse.told
          (if call.command.timeout = .notExecuted then some .nonSuccess else none) := by
  simp only [timedOut]
  split
  · rw [pulse_failToFallback]
    exact Dependency.pulse_markNonSuccess _
  · rfl

/-- A cancellation tells the circuit that there was no success. -/
theorem pulse_abandon : call.abandon.pulse = call.pulse.told (some .nonSuccess) := by
  simp only [abandon]
  have left (after : Call α) (threadState : ThreadState)
      : (after.cleanup threadState).pulse = after.pulse := by
    simp [pulse]
  rw [pulse_mapCommand, left]
  exact Dependency.pulse_markNonSuccess _

/-- A hand-over tells the circuit of a command that the pool refuses in time. -/
theorem pulse_handOff (number : Nat)
    : call.handOff.pulse = call.pulse.told (call.verdict (.handOff number)) := by
  simp only [handOff]
  split
  · rename_i pool work held
    cases refusal : pool.refusal? with
    | none =>
        simp [WorkerPool.submit_of_taken refusal, verdict, isRefused, held, refusal, pulse]
        rfl
    | some reason =>
        simp only [WorkerPool.submit_of_refused refusal]
        have refused : call.isRefused := by simp [isRefused, held, refusal]
        by_cases unclaimed : call.command.timeout = .notExecuted
        · simp only [command_mapDependency, command_mapCommand, unclaimed, if_true, pulse_reject,
            pulse_cancelTimer, pulse_mapCommand, verdict, work, refused, and_self]
          rfl
        · simp [verdict, unclaimed, pulse]
          rfl
  · rename_i idle
    have calm : call.verdict (.handOff number) = none := by
      simp only [verdict]
      rw [if_neg]
      rintro ⟨work, _, refused⟩
      cases held : call.dependency.pool with
      | none => simp [isRefused, held] at refused
      | some pool => exact idle pool work held
    rw [calm]
    rfl

end Call

-----------------------------------------------------------------------------------------
-- Commands that are no longer heard of
-----------------------------------------------------------------------------------------

/-- The circuit is told nothing more of the command: it is not on its way, or all that is left of
it is the fallback on the caller's thread.
-/
def Command.Unheard (command : Command α) : Prop :=
  command.lifecycle.isActive = false ∨ ∃ cause, command.fallback = .running cause .caller

/-- A fallback on the caller's thread keeps the caller. -/
theorem Command.occupiesCaller_of_fallback {command : Command α} {cause : CommandError}
    (running : command.fallback = .running cause .caller) : command.occupiesCaller := by
  simp only [occupiesCaller]
  rw [running]
  cases command.work with
  | running since runner => cases runner <;> rfl
  | _ => rfl

/-- Work and timeout of a command that is no longer heard of have been dealt with. -/
theorem Command.Stage.resting {fallbacks : Bool} {command : Command α}
    (stage : command.Stage fallbacks) (unheard : command.Unheard)
    (unclaimed : command.timeout = .notExecuted)
    : (command.work = .ready ∨ command.work = .over) ∧ command.timer = none := by
  cases stage with
  | idle idle => exact ⟨.inl idle.work, idle.timer⟩
  | undecided undecided =>
      rcases unheard with inactive | ⟨cause, running⟩
      · simp [undecided.isActive] at inactive
      · have unused := undecided.fallback
        simp [running, FallbackPhase.isUnused] at unused
  | rescuing on rescuing =>
      refine ⟨.inr ?_, ?_⟩
      · exact rescuing.workless.resolve_left (by simp [unclaimed])
      · exact rescuing.disarmed.resolve_left (by simp [unclaimed])
  | closed closed => exact ⟨.inr (closed.workless.resolve_left (by simp [unclaimed])), closed.timer⟩

namespace Call

variable (call : Call α)

/-- A command that was told to end is not under way, whether or not it was before. -/
theorem not_isActive_finish (outcome : Outcome α)
    : (call.finish outcome).command.lifecycle.isActive = false := by
  rw [command_finish]
  split
  · rfl
  · rename_i inactive
    exact Bool.eq_false_iff.mpr inactive

/-- A command that turns to its fallback on the caller's thread is not heard of again. -/
theorem unheard_failToFallback (cause : CommandError)
    : (call.failToFallback .caller cause).command.Unheard := by
  rw [failToFallback]
  dsimp only
  split
  · exact .inl (not_isActive_finish _ _)
  · split
    · split
      · exact .inr ⟨cause, rfl⟩
      · exact .inl (not_isActive_finish _ _)
    · exact .inl (not_isActive_finish _ _)

/-- A command that the circuit does not let pass is not heard of again. -/
theorem unheard_submit (turnedAway : call.isAllowed = false)
    : call.submit.command.Unheard := by
  have submitted := call.submit_cases
  generalize call.submit = after at submitted ⊢
  cases submitted with
  | turnedAway denied => exact unheard_failToFallback _ _
  | atSemaphore allowed noPool => simp [turnedAway] at allowed
  | atPool pool allowed held => simp [turnedAway] at allowed

/-- The circuit is not told of a command that is not heard of, unless that is submitted. -/
theorem verdict_of_unheard {step : Gateway.Step α}
    (stage : call.command.Stage call.config.fallbackEnabled) (unheard : call.command.Unheard)
    (later : ∀ number, step ≠ .submit number) : call.verdict step = none := by
  have rests (unclaimed : call.command.timeout = .notExecuted) := stage.resting unheard unclaimed
  cases step with
  | submit number => exact absurd rfl (later number)
  | handOff number =>
      rw [verdict, if_neg]
      rintro ⟨work, unclaimed, _⟩
      rcases (rests unclaimed).1 with ready | closed
      · simp [work] at ready
      · simp [work] at closed
  | workReturned number result =>
      rw [verdict, if_neg]
      rintro ⟨running, unclaimed⟩
      rcases (rests unclaimed).1 with ready | closed
      · simp [ready, WorkPhase.isRunning] at running
      · simp [closed, WorkPhase.isRunning] at running
  | timeoutFired number =>
      rw [verdict, if_neg]
      rintro ⟨armed, unclaimed⟩
      simp [isArmed, (rests unclaimed).2] at armed
  | cancel number =>
      rw [verdict, if_neg]
      rintro ⟨active, returned⟩
      rcases unheard with inactive | ⟨cause, running⟩
      · simp [active] at inactive
      · simp [Command.hasReturned, Command.occupiesCaller_of_fallback running] at returned
  | _ => rfl

/-- No step but its submission makes a command heard of again. -/
theorem Op.unheard {before after : Call α} {step : Gateway.Step α} (op : Op before step after)
    (stage : before.command.Stage before.config.fallbackEnabled)
    (unheard : before.command.Unheard) (later : step ≠ .submit before.number)
    : after.command.Unheard := by
  cases op with
  | submit notStarted => exact absurd rfl later
  | handOff =>
      have handed := before.handOff_cases
      generalize before.handOff = after at handed ⊢
      cases handed with
      | skipped => exact unheard
      | taken pool held work => exact unheard
      | refused pool held work unclaimed =>
          rcases (stage.resting unheard unclaimed).1 with ready | closed
          · simp [work] at ready
          · simp [work] at closed
      | dropped pool held work claimed => exact unheard
  | pickUp queued =>
      by_cases starts : before.command.lifecycle = .chainCreated
          ∧ before.command.timeout ≠ .timedOut
      · obtain ⟨thread, record, command, _⟩ :=
          before.startWork_started .worker starts.1 starts.2
        have active : before.command.lifecycle.isActive := by rw [starts.1]; rfl
        rw [command]
        exact .inr (unheard.resolve_left (by simp [active]))
      · rw [(before.startWork_skipped .worker starts).1]
        exact unheard
  | workReturned result =>
      simp only [Call.workReturned]
      split
      · rename_i since runner work
        have claimed : before.command.timeout ≠ .notExecuted := by
          intro unclaimed
          rcases (stage.resting unheard unclaimed).1 with ready | closed
          · simp [work] at ready
          · simp [work] at closed
        simp only [command_mapCommand, claimed, if_false]
        split <;> exact unheard
      · exact unheard
  | fallbackReturned result =>
      rw [Call.fallbackReturned]
      split
      · dsimp only
        split <;> split <;> exact .inl (not_isActive_finish _ _)
      · exact unheard
  | timeoutFired armed =>
      simp only [timedOut]
      split
      · rename_i unclaimed
        exact absurd (stage.resting unheard unclaimed).2 armed
      · exact unheard
  | cancel active returned =>
      left
      simp [abandon, Command.cleaned, Lifecycle.isActive]

end Call

end Breakwater
