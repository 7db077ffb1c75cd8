import Breakwater.Proofs.Call.Move
import Breakwater.Proofs.Command.Agreement

/-! When the fallback of a command is started. On its way a command is turned to its fallback once
at most, with the error that its record tells of; whether the fallback is started then is decided
there and not looked at again.
-/

namespace Breakwater

variable {α : Type}

-----------------------------------------------------------------------------------------
-- What shows of fallbacks
-----------------------------------------------------------------------------------------

/-- How many errors that call for the fallback the record of a command tells of. -/
def Command.causes (command : Command α) : Nat := command.record.tags.sumWhere Tag.isPrimary

/-- Tags of a command whose work has settled its outcome. -/
def Tag.isSettled : Tag → Bool
  | success | badRequest => true
  | _ => false

/-- Whether the record of a command tells that its work has settled its outcome. -/
def Command.isSettled (command : Command α) : Bool :=
  command.record.tags.contains .success || command.record.tags.contains .badRequest

/-- The error that a running fallback was handed. -/
def FallbackPhase.cause? : FallbackPhase → Option CommandError
  | running cause _ => some cause
  | _ => none

/-- Whether a command has a fallback, used or not. -/
def FallbackPhase.isAttached : FallbackPhase → Bool
  | absent => false
  | _ => true

/-- What shows of fallbacks in a call: those that were started, what the record of the command tells
of errors that call for one and of a settled outcome, whether it has a fallback of its own, and what
that was handed if it is running.
-/
structure Aid where
  started : List (Nat × CommandError)
  causes : Nat
  settled : Bool
  attached : Bool
  running : Option CommandError

namespace Call

variable (call : Call α)

def aid : Aid where
  started := call.dependency.rescues
  causes := call.command.causes
  settled := call.command.isSettled
  attached := call.command.fallback.isAttached
  running := call.command.fallback.cause?

/-- Whether the fallback of the command would be started now: there is one that was not used, and a
place for it.
-/
def canRescue : Bool :=
  call.config.fallbackEnabled && call.command.fallback == .ready
    && call.dependency.fallbackSemaphore.tryAcquire.isSome

-----------------------------------------------------------------------------------------
-- Pieces of the way that start no fallback
-----------------------------------------------------------------------------------------

/-- A change of the dependency that starts no fallback leaves what shows of fallbacks. -/
theorem aid_mapDependency {change : Dependency α → Dependency α}
    (same : (change call.dependency).rescues = call.dependency.rescues)
    : (call.mapDependency change).aid = call.aid := by
  simp [aid, same]

/-- A change of the command that leaves its tags and its fallback leaves what shows of fallbacks. -/
theorem aid_mapCommand {change : Command α → Command α}
    (tags : (change call.command).record.tags = call.command.record.tags)
    (attached : (change call.command).fallback.isAttached = call.command.fallback.isAttached)
    (phase : (change call.command).fallback.cause? = call.command.fallback.cause?)
    : (call.mapCommand change).aid = call.aid := by
  simp [aid, Command.causes, Command.isSettled, tags, attached, phase]

/-- A tag that neither calls for a fallback nor settles the outcome leaves what shows of fallbacks.
-/
theorem aid_mapRecord {change : ExecutionRecord → ExecutionRecord} {tag : Tag}
    (tags : (change call.command.record).tags = call.command.record.tags.add tag)
    (secondary : tag.isPrimary = false) (mild : tag.isSettled = false)
    : (call.mapRecord change).aid = call.aid := by
  have success : Tag.success ≠ tag := by
    rintro rfl
    cases mild
  have badRequest : Tag.badRequest ≠ tag := by
    rintro rfl
    cases mild
  simp [aid, Command.causes, Command.isSettled, tags, Tally.sumWhere_add_of_not _ _ secondary,
    Tally.contains_add_of_ne _ success, Tally.contains_add_of_ne _ badRequest]

/-- A worker that becomes idle starts no fallback. -/
@[simp]
theorem aid_releaseWorker : call.releaseWorker.aid = call.aid := rfl

/-- Giving back all that a command holds starts no fallback. -/
@[simp]
theorem aid_cleanup (threadState : ThreadState) : (call.cleanup threadState).aid = call.aid := by
  rw [aid, command_cleanup, dependency_cleanup, closedDependency, Dependency.rescues_note _ rfl]
  simp only [Command.causes, Command.isSettled, Command.cleaned,
    ExecutionRecord.tags_markReturned]
  rfl

/-- The end of a command starts no fallback, whether or not it was over before. -/
@[simp]
theorem aid_finish (outcome : Outcome α) : (call.finish outcome).aid = call.aid := by
  rw [finish]
  split
  · rw [aid_mapCommand _ rfl rfl rfl, aid_cleanup]
    rfl
  · rfl

/-- The circuit starts no fallback when it is told that there was no success. -/
@[simp]
theorem aid_markNonSuccess : (call.mapDependency Dependency.markNonSuccess).aid = call.aid := rfl

/-- Arming a timeout starts no fallback. -/
@[simp]
theorem aid_beginInvocation : call.beginInvocation.aid = call.aid := by
  obtain ⟨timer, command⟩ := call.command_beginInvocation
  rw [aid, command, dependency_beginInvocation]
  rfl

/-- Claiming the thread starts no fallback. -/
@[simp]
theorem aid_enterWorker : call.enterWorker.aid = call.aid := by
  simp only [enterWorker]
  split <;> rfl

/-- Counting a command no more starts no fallback. -/
@[simp]
theorem aid_releaseGauge : call.releaseGauge.aid = call.aid := by
  simp only [releaseGauge]
  split <;> rfl

/-- Starting the work starts no fallback, and neither does leaving it to the timeout. -/
@[simp]
theorem aid_startWork (runner : Runner) : (call.startWork runner).aid = call.aid := by
  have noted (after : Call α) (number : Nat) : (after.note (.workStarted number)).aid = after.aid :=
    after.aid_mapDependency (Dependency.rescues_note _ rfl)
  rw [startWork]
  dsimp only
  split
  · split
    · rw [noted, aid_mapCommand _ rfl rfl rfl, aid_enterWorker]
      rfl
    · rw [noted]
      rfl
  · split
    · rw [aid_releaseWorker, aid_mapCommand _ rfl rfl rfl, aid_releaseGauge]
      rfl
    · rw [aid_mapCommand _ rfl rfl rfl, aid_releaseGauge]
      rfl

-----------------------------------------------------------------------------------------
-- Turning to the fallback
-----------------------------------------------------------------------------------------

/-- A command is turned to its fallback, which is started if that can be. -/
theorem aid_failToFallback (runner : Runner) (cause : CommandError)
    : (call.failToFallback runner cause).aid
      = if call.canRescue then
          { call.aid with
            started := call.aid.started ++ [(call.number, cause)]
            running := some cause }
        else call.aid := by
  have caused : (call.mapRecord (·.setCause cause.message)).aid = call.aid := rfl
  have tagged (tag : Tag) (secondary : tag.isPrimary = false) (mild : tag.isSettled = false)
      (after : Call α) : (after.mapRecord (·.addTag tag)).aid = after.aid :=
    after.aid_mapRecord rfl secondary mild
  have config : (call.mapRecord (·.setCause cause.message)).config = call.config := rfl
  rw [failToFallback]
  dsimp only
  rw [config]
  cases enabled : call.config.fallbackEnabled with
  | false => simp [canRescue, enabled, caused]
  | true =>
      simp only [Bool.not_true, Bool.false_eq_true, if_false]
      cases phase : call.command.fallback with
      | ready =>
          simp only [command_mapRecord, phase, dependency_mapRecord]
          cases place : call.dependency.fallbackSemaphore.tryAcquire with
          | none =>
              have given
                  : ((call.mapRecord (·.setCause cause.message)).mapCommand
                      ({ · with fallback := .over })).aid = call.aid := by
                refine (aid_mapCommand _ rfl ?_ ?_).trans caused
                · simp [phase, FallbackPhase.isAttached]
                · simp [phase, FallbackPhase.cause?]
              simp [canRescue, place, tagged .fallbackRejection rfl rfl, given]
          | some taken =>
              obtain ⟨permit, left⟩ := taken
              simp only [canRescue, enabled, phase, place, BEq.rfl, Bool.and_self,
                Option.isSome_some, if_true]
              have noted := call.dependency.rescues_note_started call.number cause
              rw [aid, aid, phase]
              exact congrArg (fun started =>
                Aid.mk started call.command.causes call.command.isSettled true (some cause)) noted
      | _ =>
          simp [canRescue, phase, tagged .fallbackMissing rfl rfl, caused]

/-- Nothing has been done of what the start of a fallback depends on. -/
structure Onward (before call : Call α) : Prop where
  number : call.number = before.number
  config : call.config = before.config
  semaphore : call.dependency.fallbackSemaphore = before.dependency.fallbackSemaphore
  rescues : call.dependency.rescues = before.dependency.rescues
  phase : call.command.fallback = before.command.fallback

/-- What a step does to the fallback of the command that it works on. -/
inductive Dispatch (before : Call α) (step : Gateway.Step α) (after : Call α) : Prop
  | passes (aid : after.aid = before.aid)
  /-- The work settles the outcome, and ends the command. -/
  | settles (running : before.command.lifecycle.isOver = false)
    (fresh : before.command.record.tags = .empty) (unused : before.command.fallback.isUnused)
    (aid : after.aid = { before.aid with settled := true })
  /-- The command is turned to its fallback, which is started if that can be. -/
  | turns {cause tag} (primary : CommandError.Primary cause tag)
    (running : before.command.lifecycle.isOver = false)
    (fresh : before.command.record.tags = .empty) (unused : before.command.fallback.isUnused)
    (aid
      : after.aid
        = { started := before.aid.started
              ++ if before.canRescue then [(before.number, cause)] else []
            causes := 1
            settled := false
            attached := before.aid.attached
            running := if before.canRescue then some cause else none })
  | returns {result} (asked : step = .fallbackReturned before.number result)
    (was : before.command.fallback.cause?.isSome)
    (aid : after.aid = { before.aid with running := none })

variable {call} {before after : Call α} {step : Gateway.Step α}

/-- Disarming the timeout leaves a command on the same way. -/
theorem Onward.cancelTimer (onward : Onward before call) : Onward before call.cancelTimer where
  number := call.number_cancelTimer.trans onward.number
  config := (congrArg Dependency.config call.dependency_cancelTimer).trans onward.config
  semaphore :=
    (congrArg Dependency.fallbackSemaphore call.dependency_cancelTimer).trans onward.semaphore
  rescues := (congrArg Dependency.rescues call.dependency_cancelTimer).trans onward.rescues
  phase := (congrArg Command.fallback call.command_cancelTimer).trans onward.phase

/-- Asking the circuit leaves a command on the same way. -/
theorem onward_asked (call : Call α) : Onward call call.asked where
  number := rfl
  config := congrArg Frame.config (Dependency.frame_allowRequest _ _)
  semaphore := call.fallbackSemaphore_asked
  rescues := Dependency.rescues_allowRequest _ _
  phase := rfl

/-- Whether the fallback would be started is the same further on the way. -/
theorem Onward.canRescue (onward : Onward before call) : call.canRescue = before.canRescue := by
  rw [Call.canRescue, Call.canRescue, onward.config, onward.semaphore, onward.phase]

/-- A record without tags tells of no error and of no settled outcome. -/
theorem causes_of_fresh {command : Command α} (fresh : command.record.tags = .empty)
    : command.causes = 0 ∧ command.isSettled = false := by
  rw [Command.causes, Command.isSettled, fresh]
  exact ⟨Tally.sumOver_empty _, rfl⟩

/-- A command is turned to its fallback as soon as its record tells of an error for that. -/
theorem Onward.turns (onward : Onward before call) {cause : CommandError} {tag : Tag}
    (primary : cause.Primary tag) (running : before.command.lifecycle.isOver = false)
    (fresh : before.command.record.tags = .empty) (unused : before.command.fallback.isUnused)
    (tagged : call.command.record.tags = .add .empty tag) (runner : Runner)
    : Dispatch before step (call.failToFallback runner cause) := by
  refine .turns primary running fresh unused ?_
  have some_room : 0 < Tally.ceiling := by decide
  have causes : call.command.causes = 1 := by
    rw [Command.causes, tagged, Tally.sumWhere_add _ (by simpa using some_room),
      if_pos primary.isPrimary]
    exact congrArg (· + 1) (Tally.sumOver_empty _)
  have settled : call.command.isSettled = false := by
    have isPrimary := primary.isPrimary
    rw [Command.isSettled, tagged, Tally.contains_add_of_ne, Tally.contains_add_of_ne]
    · rfl
    · rintro rfl
      cases isPrimary
    · rintro rfl
      cases isPrimary
  have idle : before.command.fallback.cause? = none := by
    cases phase : before.command.fallback with
    | running other by_whom =>
        rw [phase] at unused
        cases unused
    | _ => rfl
  have aid : call.aid = ⟨before.aid.started, 1, false, before.aid.attached, none⟩ := by
    rw [Call.aid, onward.rescues, causes, settled, onward.phase, idle]
    rfl
  rw [aid_failToFallback, onward.canRescue, onward.number, aid]
  split
  · rfl
  · simp

/-- A command that is turned away is turned to its fallback, with the refusal as the error. -/
theorem Onward.rejects (onward : Onward before call)
    (running : before.command.lifecycle.isOver = false)
    (fresh : before.command.record.tags = .empty) (unused : before.command.fallback.isUnused)
    (same : call.command.record.tags = before.command.record.tags) (runner : Runner)
    (isolation : Isolation) : Dispatch before step (call.reject runner isolation) := by
  have told : Onward before
      ((call.mapRecord (·.addTag isolation.rejectionTag)).mapDependency
        Dependency.markNonSuccess) :=
    ⟨onward.number, onward.config, onward.semaphore, onward.rescues, onward.phase⟩
  refine told.turns (.rejected _ isolation) running fresh unused ?_ runner
  show call.command.record.tags.add _ = _
  rw [same, fresh]

-----------------------------------------------------------------------------------------
-- What each operation does
-----------------------------------------------------------------------------------------

/-- A submission turns a command to its fallback if the circuit or the bulkhead turns it away. -/
theorem submit_dispatch (idle : before.command.Idle)
    : Dispatch before (.submit before.number) before.submit := by
  have running : before.command.lifecycle.isOver = false := by rw [idle.lifecycle]; rfl
  have onward := before.onward_asked
  have asked : before.asked.aid = before.aid := by
    rw [Call.asked, aid_mapDependency _ (Dependency.rescues_allowRequest _ _)]
    rfl
  have submitted := before.submit_cases
  generalize before.submit = after at submitted ⊢
  cases submitted with
  | turnedAway denied =>
      have told : Onward before (before.asked.mapRecord (·.addTag .shortCircuited)) :=
        ⟨onward.number, onward.config, onward.semaphore, onward.rescues, onward.phase⟩
      refine told.turns (.shortCircuited _) running idle.tags idle.fallback ?_ .caller
      show before.command.record.tags.add _ = _
      rw [idle.tags]
  | atSemaphore allowed noPool =>
      cases acquired : before.asked.dependency.semaphore.tryAcquire with
      | none =>
          simp only [admitBySemaphore, acquired]
          exact onward.rejects running idle.tags idle.fallback rfl _ _
      | some taken =>
          refine .passes ?_
          simp only [admitBySemaphore, acquired, aid_startWork, aid_beginInvocation]
          exact asked
  | atPool pool allowed held =>
      simp only [admitByPool]
      split
      · refine .passes ?_
        rw [aid_mapCommand _ rfl rfl rfl, aid_beginInvocation, asked]
      · exact onward.rejects running idle.tags idle.fallback rfl _ _

/-- A hand-over turns a command to its fallback if the pool refuses it in time. -/
theorem handOff_dispatch (stage : before.command.Stage before.config.fallbackEnabled)
    : Dispatch before (.handOff before.number) before.handOff := by
  have handed := before.handOff_cases
  generalize before.handOff = after at handed ⊢
  cases handed with
  | skipped => exact .passes rfl
  | taken pool held work => exact .passes rfl
  | dropped pool held work claimed => exact .passes rfl
  | refused pool held work unclaimed =>
      have undecided : before.command.Undecided :=
        stage.undecided_of_unclaimed (by simp [work]) (by simp [work]) unclaimed
      have onward : Onward before
          ((before.setPool pool.turnAway).mapCommand
            ({ · with work := .over, timeout := .completed })) := ⟨rfl, rfl, rfl, rfl, rfl⟩
      refine onward.cancelTimer.rejects (Lifecycle.isOver_of_isActive undecided.isActive)
        undecided.tags undecided.fallback ?_ _ _
      rw [command_cancelTimer]
      rfl

/-- What the circuit was told of, and what a worker does afterwards, shows in no fallback. -/
theorem Dispatch.releaseWorker (dispatch : Dispatch before step after)
    : Dispatch before step after.releaseWorker := by
  cases dispatch with
  | passes aid => exact .passes aid
  | settles running fresh unused aid => exact .settles running fresh unused aid
  | turns primary running fresh unused aid => exact .turns primary running fresh unused aid
  | returns asked was aid => exact .returns asked was aid

/-- Work that settles the outcome ends the command without its fallback. -/
theorem Onward.settles (onward : Onward before call)
    (running : before.command.lifecycle.isOver = false)
    (fresh : before.command.record.tags = .empty) (unused : before.command.fallback.isUnused)
    {tag : Tag} (settled : tag.isSettled) (tagged : call.command.record.tags = .add .empty tag)
    (outcome : Outcome α)
    : Dispatch before step (call.finish outcome) := by
  obtain ⟨none_told, untold⟩ := causes_of_fresh fresh
  have secondary : tag.isPrimary = false := by
    cases tag <;> first | rfl | cases settled
  have causes : call.command.causes = before.command.causes := by
    rw [none_told, Command.causes, tagged, Tally.sumWhere_add_of_not _ _ secondary]
    exact Tally.sumOver_empty _
  have told : call.command.isSettled = true := by
    have carried : (Tally.add .empty tag).contains tag := (Tally.contains_add _ _ _).mpr (.inr rfl)
    rw [Command.isSettled, tagged, Bool.or_eq_true]
    cases tag with
    | success => exact .inl carried
    | badRequest => exact .inr carried
    | _ => cases settled
  refine .settles running fresh unused ?_
  rw [aid_finish, Call.aid, onward.rescues, causes, told, onward.phase]
  rfl

/-- Work that ends in time settles the outcome, or turns the command to its fallback. -/
theorem Onward.settle (onward : Onward before call) (undecided : before.command.Undecided)
    (same : call.command.record.tags = before.command.record.tags) (runner : Runner)
    (latency : Nat) (result : Except WorkError α)
    : Dispatch before step (call.settle runner latency result) := by
  have running := Lifecycle.isOver_of_isActive undecided.isActive
  have tagged (tag : Tag)
      : (call.command.record.addTimedTag latency tag).tags = .add .empty tag := by
    rw [ExecutionRecord.tags_addTimedTag, same, undecided.tags]
  have told (change : ExecutionRecord → ExecutionRecord)
      : Onward before ((call.mapRecord change).mapDependency Dependency.markNonSuccess) :=
    ⟨onward.number, onward.config, onward.semaphore, onward.rescues, onward.phase⟩
  cases result with
  | ok value =>
      have worked : Onward before
          ((call.mapRecord (·.addTimedTag latency .success)).mapDependency
            (·.markSuccess call.now)) :=
        { number := onward.number
          config :=
            (congrArg Frame.config (call.dependency.frame_markSuccess call.now)).trans onward.config
          semaphore :=
            (congrArg Loans.fallbackSemaphore (call.dependency.loans_markSuccess call.now)).trans
              onward.semaphore
          rescues := (call.dependency.rescues_markSuccess call.now).trans onward.rescues
          phase := onward.phase }
      exact worked.settles running undecided.tags undecided.fallback rfl (tagged .success) _
  | error error =>
      simp only [Call.settle]
      split
      · have failed := told fun record =>
          (record.addTimedTag latency .failure).setFailure error.message
        exact failed.turns (.failed _ error) running undecided.tags undecided.fallback
          (tagged .failure) runner
      · have declined := told fun record =>
          (record.addTimedTag latency .badRequest).setFailure error.message
        exact declined.settles running undecided.tags undecided.fallback rfl (tagged .badRequest) _

/-- The return of the work turns a command to its fallback if it failed in time, and settles its
outcome otherwise, by cases on the result.
-/
theorem workReturned_dispatch (stage : before.command.Stage before.config.fallbackEnabled)
    (result : Except WorkError α)
    : Dispatch before (.workReturned before.number result) (before.workReturned result) := by
  cases work : before.command.work with
  | running since runner =>
      by_cases unclaimed : before.command.timeout = .notExecuted
      · have undecided := stage.undecided_of_unclaimed (by simp [work]) (by simp [work]) unclaimed
        have onward : Onward before
            ((before.mapCommand ({ · with work := .over })).mapCommand
              ({ · with timeout := .completed })) := ⟨rfl, rfl, rfl, rfl, rfl⟩
        have settled : Dispatch before (.workReturned before.number result)
            (((before.mapCommand ({ · with work := .over })).mapCommand
              ({ · with timeout := .completed })).cancelTimer.settle runner (before.now - since)
                result) := by
          refine onward.cancelTimer.settle undecided ?_ runner _ result
          rw [command_cancelTimer]
          rfl
        simp only [workReturned, work, command_mapCommand, unclaimed, if_true]
        split
        · exact settled.releaseWorker
        · exact settled
      · rw [before.workReturned_late work unclaimed]
        split <;> exact .passes rfl
  | _ =>
      refine .passes ?_
      simp only [workReturned, work]

/-- The return of a fallback starts none, by cases on the result. -/
theorem fallbackReturned_dispatch (result : Except WorkError α)
    : Dispatch before (.fallbackReturned before.number result)
        (before.fallbackReturned result) := by
  cases phase : before.command.fallback with
  | running cause runner =>
      obtain ⟨outcome, returned⟩ := fallbackReturned_eq phase result
      have secondary : (Tag.ofRescue result).isPrimary = false := by cases result <;> rfl
      have mild : (Tag.ofRescue result).isSettled = false := by cases result <;> rfl
      have finished
          : (((before.mapCommand ({ · with fallback := .over })).mapRecord
              (·.addTag (.ofRescue result))).finish outcome).rescued.aid
            = { before.aid with running := none } := by
        have given (after : Call α) : after.rescued.aid = after.aid := rfl
        rw [given, aid_finish, aid_mapRecord _ rfl secondary mild, aid, aid, phase]
        rfl
      have settled : Dispatch before (.fallbackReturned before.number result)
          (((before.mapCommand ({ · with fallback := .over })).mapRecord
            (·.addTag (.ofRescue result))).finish outcome).rescued :=
        .returns rfl (by rw [phase]; rfl) finished
      rw [returned]
      dsimp only
      split
      · exact settled.releaseWorker
      · exact settled
  | _ =>
      refine .passes ?_
      simp only [fallbackReturned, phase]

/-- A timeout turns a command to its fallback if it claims it. -/
theorem timedOut_dispatch (stage : before.command.Stage before.config.fallbackEnabled)
    (armed : before.command.timer ≠ none)
    : Dispatch before (.timeoutFired before.number) before.timedOut := by
  simp only [timedOut]
  split
  · rename_i unclaimed
    have undecided := stage.undecided_of_armed armed unclaimed
    have onward : Onward before
        (((before.mapCommand ({ · with timeout := .timedOut })).mapRecord
          (·.addTimedTag before.sinceInvoked .timeout)).mapDependency Dependency.markNonSuccess) :=
      ⟨rfl, rfl, rfl, rfl, rfl⟩
    refine onward.turns (.timeout _ _) (Lifecycle.isOver_of_isActive undecided.isActive)
      undecided.tags undecided.fallback ?_ .timer
    show (before.command.record.addTimedTag _ _).tags = _
    rw [ExecutionRecord.tags_addTimedTag, undecided.tags]
  · exact .passes rfl

/-- A cancellation starts no fallback. -/
theorem abandon_dispatch : Dispatch before (.cancel before.number) before.abandon := by
  refine .passes ?_
  rw [abandon, aid_mapCommand _ rfl rfl rfl, aid_cleanup, aid_markNonSuccess,
    aid_mapRecord _ rfl rfl rfl]
  rfl

/-- Every operation deals with the fallback of its command in one of the listed ways. -/
theorem Op.dispatch (op : Op before step after)
    (stage : before.command.Stage before.config.fallbackEnabled) : Dispatch before step after := by
  cases op with
  | submit notStarted => exact submit_dispatch (stage.isIdle notStarted)
  | handOff => exact handOff_dispatch stage
  | pickUp queued => exact .passes (before.aid_startWork .worker)
  | workReturned result => exact workReturned_dispatch stage result
  | fallbackReturned result => exact fallbackReturned_dispatch result
  | timeoutFired armed => exact timedOut_dispatch stage armed
  | cancel active returned => exact abandon_dispatch

/-- A fallback that has returned runs no more. -/
theorem cause_fallbackReturned (call : Call α) (result : Except WorkError α)
    : (call.fallbackReturned result).command.fallback.cause? = none := by
  cases phase : call.command.fallback with
  | running cause runner =>
      obtain ⟨outcome, returned⟩ := fallbackReturned_eq phase result
      have ended (other : Call α) (returned : other.command.fallback = .over)
          : (other.finish outcome).command.fallback.cause? = none := by
        rw [command_finish]
        split <;> exact congrArg FallbackPhase.cause? returned
      rw [returned]
      dsimp only
      split <;> exact ended _ rfl
  | _ => simp [fallbackReturned, phase, FallbackPhase.cause?]

/-- A fallback that returns ends its command, if nothing else has: with its value, or with the error
that it was handed and its own.
-/
theorem completion_fallbackReturned {cause : CommandError} {runner : Runner}
    (phase : before.command.fallback = .running cause runner) (result : Except WorkError α)
    : (before.fallbackReturned result).command.completion
      = if before.command.lifecycle.isActive then
          before.command.completion.complete
            (result.mapError (.fallbackFailed before.key cause))
        else before.command.completion := by
  have released (finished : Call α)
      : (if runner = .worker then finished.rescued.releaseWorker else finished.rescued).command
        = finished.command := by
    split <;> rfl
  have ended (tag : Tag) (outcome : Outcome α)
      : (((before.mapCommand ({ · with fallback := .over })).mapRecord
            (·.addTag tag)).finish outcome).command.completion
        = if before.command.lifecycle.isActive then before.command.completion.complete outcome
          else before.command.completion := by
    rw [command_finish]
    exact apply_ite Command.completion _ _ _
  cases result with
  | ok value =>
      simp only [fallbackReturned, phase]
      exact (congrArg Command.completion (released _)).trans (ended .fallbackSuccess (.ok value))
  | error error =>
      simp only [fallbackReturned, phase]
      exact (congrArg Command.completion (released _)).trans (ended .fallbackFailure _)

/-- The error that the waiter of a command is told when its fallback has failed is the one that the
fallback was handed.
-/
theorem cause_of_fallbackFailed {result : Except WorkError α} {key : String} {cause : CommandError}
    {source : WorkError} (pending : before.command.completion = .pending)
    (stored
      : (before.fallbackReturned result).command.completion
        = .ready (.error (.fallbackFailed key cause source)))
    : before.command.fallback.cause? = some cause := by
  cases phase : before.command.fallback with
  | running other runner =>
      rw [completion_fallbackReturned phase, pending] at stored
      cases result with
      | ok value => split at stored <;> cases stored
      | error error =>
          split at stored
          · cases stored
            rfl
          · cases stored
  | _ =>
      simp [fallbackReturned, phase, pending] at stored

/-- An outcome that tells of a failed fallback was stored when that fallback returned, and the error
that it was handed is the root cause.
-/
theorem Op.cause_of_fallbackFailed (op : Op before step after) (turn : Turn before step after)
    {key : String} {cause : CommandError} {source : WorkError}
    (stored : after.command.completion = .ready (.error (.fallbackFailed key cause source)))
    : before.command.completion = .ready (.error (.fallbackFailed key cause source))
      ∨ (before.command.fallback.cause? = some cause ∧ cause.rootCause = cause) := by
  cases turn with
  | goesOn stage lifecycle completion ledger => exact .inl (completion ▸ stored)
  | ends running pending ending ended =>
      right
      have told := ended.stored
      rw [told] at stored
      cases stored
      cases ending with
      | unaided prompted primary ends => cases ends <;> cases primary
      | unrescued primary on error =>
          cases op with
          | fallbackReturned result =>
              exact ⟨Call.cause_of_fallbackFailed pending ended.stored, primary.rootCause⟩

end Call

end Breakwater
