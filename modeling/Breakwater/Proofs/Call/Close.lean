import Breakwater.Proofs.Gateway.Change
import Breakwater.Proofs.Tally

/-! The way of a command from the moment it is claimed: it keeps what it holds until it ends or its
fallback is started, and its end gives everything back, the timeout included, and is noted with the
record of the command.
-/

namespace Breakwater

variable {α : Type}

-----------------------------------------------------------------------------------------
-- Records
-----------------------------------------------------------------------------------------

/-- What a record tells of the start of its execution. -/
structure Origin where
  startedAt : Option Nat
  occurred : Bool
  onWorker : Bool

/-- Tags of a command that the circuit or its bulkhead turned away. -/
def Tag.isRefusal : Tag → Bool
  | .shortCircuited | .semaphoreRejected | .threadPoolRejected => true
  | _ => false

namespace ExecutionRecord

variable (record : ExecutionRecord)

def origin : Origin := ⟨record.startedAt, record.occurred, record.onWorker⟩

/-- The record tells that the command was turned away. -/
def TurnedAway : Prop := ∃ tag : Tag, tag.isRefusal ∧ record.tags.contains tag

/-- A tag does not change where a record comes from. -/
@[simp]
theorem origin_addTag (tag : Tag) : (record.addTag tag).origin = record.origin := rfl

/-- A tag that carries a time does not change where a record comes from. -/
@[simp]
theorem origin_addTimedTag (latency : Nat) (tag : Tag)
    : (record.addTimedTag latency tag).origin = record.origin := by
  unfold addTimedTag
  dsimp only
  split <;> rfl

/-- The stamp of the return does not change where a record comes from. -/
@[simp]
theorem origin_markReturned (latency : Nat)
    : (record.markReturned latency).origin = record.origin := by
  unfold markReturned
  split <;> rfl

/-- Records of one origin tell the same of each of its parts. -/
theorem eq_of_origin {record after : ExecutionRecord} (same : after.origin = record.origin)
    : after.startedAt = record.startedAt
      ∧ after.occurred = record.occurred
      ∧ after.onWorker = record.onWorker :=
  Origin.mk.inj same

/-- Whoever is turned away after a tag was so before, or by that tag. -/
theorem turnedAway_of_add {record after : ExecutionRecord} {tag : Tag}
    (added : after.tags = record.tags.add tag) (turned : after.TurnedAway)
    : record.TurnedAway ∨ tag.isRefusal := by
  obtain ⟨other, refusal, carried⟩ := turned
  rw [added, Tally.contains_add] at carried
  rcases carried with before | rfl
  · exact .inl ⟨other, refusal, before⟩
  · exact .inr refusal

end ExecutionRecord

/-- Whether the work of a command can still be started, as far as its way is concerned. -/
def Lifecycle.isEarly : Lifecycle → Bool
  | notStarted | chainCreated => true
  | _ => false

/-- A command that is over is neither early nor running its work. -/
theorem Lifecycle.ne_of_isOver {lifecycle : Lifecycle} (isOver : lifecycle.isOver)
    : lifecycle ≠ .userCodeExecuted ∧ lifecycle.isEarly = false := by
  cases lifecycle with
  | unsubscribed | terminal => exact ⟨nofun, rfl⟩
  | notStarted | chainCreated | userCodeExecuted => cases isOver

def FallbackPhase.isRunning : FallbackPhase → Bool
  | running _ _ => true
  | _ => false

/-- A fallback that was not used does not run. -/
theorem FallbackPhase.isRunning_of_isUnused {phase : FallbackPhase} (unused : phase.isUnused)
    : phase.isRunning = false := by
  cases phase with
  | running cause runner => cases unused
  | _ => rfl

/-- The diary once a command has ended, which was counted or not. -/
def Diary.finish (diary : Diary) (counted : Bool) (number : Nat) (event : CompletionEvent)
    : Diary where
  running := diary.running - counted.toNat
  milestones := diary.milestones ++ [.finished number event]

namespace Call

-----------------------------------------------------------------------------------------
-- The timer
-----------------------------------------------------------------------------------------

section

variable (call : Call α)

/-- The timer once the timeout of the command is disarmed. -/
def disarmedTimer : Timer CommandRef :=
  match call.command.timer with
  | none => call.gateway.timer
  | some handle => (call.gateway.timer.cancel handle).2

/-- Disarming a timeout leaves the timer without it. -/
@[simp]
theorem timer_cancelTimer : call.cancelTimer.gateway.timer = call.disarmedTimer := by
  cases armed : call.command.timer with
  | none => simp only [cancelTimer, disarmedTimer, armed]
  | some handle =>
      simp only [cancelTimer, disarmedTimer, armed]
      rfl

/-- Cleaning up leaves the timer without the command's timeout. -/
theorem timer_cleanup (threadState : ThreadState)
    : (call.cleanup threadState).gateway.timer = call.disarmedTimer := by
  have released : call.cancelTimer.releasePermit.gateway.timer = call.disarmedTimer := by
    simp only [releasePermit]
    split <;> exact call.timer_cancelTimer
  have uncounted : call.cancelTimer.releasePermit.releaseGauge.gateway.timer
      = call.disarmedTimer := by
    simp only [releaseGauge]
    split <;> exact released
  exact uncounted

/-- The end of a command is noted, and it is not counted any more. -/
theorem diary_closedDependency
    : call.closedDependency.diary
      = call.dependency.diary.finish call.command.gaugeHeld call.number call.completionEvent := by
  rw [closedDependency, Dependency.diary_note_milestone _ rfl]
  cases counted : call.command.gaugeHeld <;>
    simp [uncountedMetrics, counted, Diary.finish, Dependency.diary, Dependency.milestones,
      Dependency.mapMetrics, Dependency.metrics, Metrics.markDone, Metrics.decrementConcurrent]

/-- Leave the way of a command for good, with everything that goes with the end. -/
def leave (lifecycle : Lifecycle) (timeout : TimeoutStatus) (threadState : ThreadState)
    (outcome : Outcome α) : Call α :=
  ((call.mapCommand ({ · with lifecycle, timeout })).cleanup threadState).mapCommand
    fun command => { command with completion := command.completion.complete outcome }

/-- An end is the one way to leave, with the outcome that it stores. -/
theorem finish_eq_leave (outcome : Outcome α) (active : call.command.lifecycle.isActive)
    : call.finish outcome = call.leave .terminal call.command.timeout .terminal outcome := by
  rw [finish, if_pos active]
  rfl

end

/-- What becomes of the timeout of a command that was admitted before: its registration stays as it
is, has fired, or is cancelled.
-/
inductive Timing (before : Call α) (step : Gateway.Step α) (after : Call α) : Prop
  | kept (other : ∀ number, step ≠ .timeoutFired number)
    (handle : after.command.timer = before.command.timer)
    (timer : after.gateway.timer = before.gateway.timer)
    (timeout : after.command.timeout = before.command.timeout)
  | fired (asked : step = .timeoutFired before.number)
    (handle : after.command.timer = before.command.timer)
    (timer : after.gateway.timer = before.gateway.timer)
    (claimed : after.command.timeout ≠ .notExecuted)
  | disarmed (handle : after.command.timer = none)
    (timer : after.gateway.timer = before.disarmedTimer)
    (claimed : before.command.timer = none ∨ after.command.timeout ≠ .notExecuted)

/-- What becomes of the place of a command in the fallback semaphore: it has one exactly while its
fallback is running.
-/
inductive Share (before after : Call α) : Prop
  | kept (phase : after.command.fallback.isRunning = before.command.fallback.isRunning)
    (semaphore : after.dependency.fallbackSemaphore = before.dependency.fallbackSemaphore)
  | taken {permit} (free : before.command.fallback.isRunning = false)
    (running : after.command.fallback.isRunning)
    (semaphore
      : before.dependency.fallbackSemaphore.tryAcquire
        = some (permit, after.dependency.fallbackSemaphore))
  | returned (running : before.command.fallback.isRunning)
    (finished : after.command.fallback.isRunning = false)
    (semaphore
      : after.dependency.fallbackSemaphore = before.dependency.fallbackSemaphore.giveBack)

/-- A command goes on without taking or giving back anything but its timeout. -/
structure Keeps (before : Call α) (step : Gateway.Step α) (after : Call α) : Prop where
  fixed : after.fixed = before.fixed
  lifecycle
    : after.command.lifecycle = before.command.lifecycle
      ∨ (before.command.lifecycle = .notStarted ∧ after.command.lifecycle = .chainCreated)
  threadState : after.command.threadState = before.command.threadState
  permit : after.command.permit = before.command.permit
  gauge : after.command.gaugeHeld = before.command.gaugeHeld
  origin : after.command.record.origin = before.command.record.origin
  diary : after.dependency.diary = before.dependency.diary
  work
    : after.command.work = before.command.work ∨ after.command.work = .over
      ∨ (before.command.work = .handingOff ∧ after.command.work = .queued)
  /-- A command is turned away before its work was started, and its work is over then. -/
  turned
    : after.command.record.TurnedAway
      → before.command.record.TurnedAway
        ∨ (before.command.lifecycle.isEarly ∧ after.command.work = .over)
  claim
    : before.command.timeout = .notExecuted
      ∨ after.command.timeout = before.command.timeout
  timing : Timing before step after

/-- A command ends: it gives back what it holds, and its end is noted. -/
structure Closes (before : Call α) (step : Gateway.Step α) (after : Call α) : Prop where
  isOver : after.command.lifecycle.isOver
  permit : after.command.permit = none
  gauge : after.command.gaugeHeld = false
  origin : after.command.record.origin = before.command.record.origin
  diary
    : after.dependency.diary
      = before.dependency.diary.finish before.command.gaugeHeld before.number
          ⟨before.dependency.metrics.key, before.now, after.command.record⟩
  work : after.command.work = before.command.work ∨ after.command.work = .over
  turned
    : after.command.record.TurnedAway
      → before.command.record.TurnedAway
        ∨ (before.command.lifecycle.isEarly ∧ after.command.work = .over)
  claim
    : before.command.timeout = .notExecuted
      ∨ after.command.timeout = before.command.timeout
  timing : Timing before step after
  share : Share before after
  /-- Only a cancellation ends a command whose fallback goes on running. -/
  rescued : after.command.lifecycle = .unsubscribed ∨ after.command.fallback.isRunning = false

variable {before after call : Call α} {step : Gateway.Step α}

/-- Whatever is asked of its way is answered as before, if its submission does not matter to that.
-/
theorem Keeps.asks (keeps : Keeps before step after) (asks : Lifecycle → Bool)
    (same : asks .notStarted = asks .chainCreated)
    : asks after.command.lifecycle = asks before.command.lifecycle := by
  rcases keeps.lifecycle with kept | ⟨idle, created⟩
  · rw [kept]
  · rw [idle, created, same]

/-- Whether a command was executed is kept. -/
theorem Keeps.occurred (keeps : Keeps before step after)
    : after.command.record.occurred = before.command.record.occurred :=
  congrArg Origin.occurred keeps.origin

/-- An end does not make a command an executed one. -/
theorem Closes.occurred (closes : Closes before step after)
    : after.command.record.occurred = before.command.record.occurred :=
  congrArg Origin.occurred closes.origin

/-- The timer without the timeout of a command depends on the handle and on the timer. -/
theorem disarmedTimer_congr (handle : call.command.timer = before.command.timer)
    (timer : call.gateway.timer = before.gateway.timer)
    : call.disarmedTimer = before.disarmedTimer := by
  rw [disarmedTimer, disarmedTimer, handle, timer]

/-- A command without a timeout leaves the timer as it is. -/
theorem disarmedTimer_of_none (disarmed : call.command.timer = none)
    : call.disarmedTimer = call.gateway.timer := by
  rw [disarmedTimer, disarmed]

/-- Disarming the timeout later comes to the same. -/
theorem Timing.disarmedTimer (timing : Timing before step call)
    : call.disarmedTimer = before.disarmedTimer := by
  cases timing with
  | kept other handle timer timeout => exact disarmedTimer_congr handle timer
  | fired asked handle timer claimed => exact disarmedTimer_congr handle timer
  | disarmed handle timer claimed => exact (disarmedTimer_of_none handle).trans timer

/-- The timing of a command is read off its handle, its claim and the timer. -/
theorem Timing.congr (timing : Timing before step call)
    (handle : after.command.timer = call.command.timer)
    (timer : after.gateway.timer = call.gateway.timer)
    (timeout : after.command.timeout = call.command.timeout) : Timing before step after := by
  cases timing with
  | kept other same_handle same_timer same =>
      exact .kept other (handle.trans same_handle) (timer.trans same_timer) (timeout.trans same)
  | fired asked same_handle same_timer claimed =>
      exact .fired asked (handle.trans same_handle) (timer.trans same_timer) (timeout ▸ claimed)
  | disarmed none same_timer claimed =>
      exact .disarmed (handle.trans none) (timer.trans same_timer) (timeout ▸ claimed)

/-- The share of a command in the places for fallbacks is read off its fallback and the semaphore.
-/
theorem Share.congr (share : Share before call)
    (phase : after.command.fallback.isRunning = call.command.fallback.isRunning)
    (semaphore : after.dependency.fallbackSemaphore = call.dependency.fallbackSemaphore)
    : Share before after := by
  cases share with
  | kept same kept => exact .kept (phase.trans same) (semaphore.trans kept)
  | taken free running acquired =>
      exact .taken free (phase.trans running) (acquired.trans (by rw [semaphore]))
  | returned running finished given =>
      exact .returned running (phase.trans finished) (semaphore.trans given)

-----------------------------------------------------------------------------------------
-- On the way to the end
-----------------------------------------------------------------------------------------

/-- A command to which nothing happens keeps all. -/
theorem keeps_refl (timing : Timing call step call) : Keeps call step call where
  fixed := rfl
  lifecycle := .inl rfl
  threadState := rfl
  permit := rfl
  gauge := rfl
  origin := rfl
  diary := rfl
  work := .inl rfl
  turned := .inl
  claim := .inr rfl
  timing := timing

/-- A record gains a tag of no refusal, or no tag at all. -/
theorem Keeps.mapRecord (keeps : Keeps before step call)
    {change : ExecutionRecord → ExecutionRecord}
    (origin : (change call.command.record).origin = call.command.record.origin)
    (turned : (change call.command.record).TurnedAway → call.command.record.TurnedAway)
    : Keeps before step (call.mapRecord change) :=
  { keeps with
    origin := origin.trans keeps.origin
    turned := fun refused => keeps.turned (turned refused)
    timing := keeps.timing.congr rfl rfl rfl }

/-- A tag that is no refusal keeps all the rest of a command. -/
theorem Keeps.tagged (keeps : Keeps before step call)
    {change : ExecutionRecord → ExecutionRecord} {tag : Tag}
    (origin : (change call.command.record).origin = call.command.record.origin)
    (added : (change call.command.record).tags = call.command.record.tags.add tag)
    (mild : tag.isRefusal = false) : Keeps before step (call.mapRecord change) := by
  refine keeps.mapRecord origin fun turned => ?_
  rcases ExecutionRecord.turnedAway_of_add added turned with before | refusal
  · exact before
  · rw [mild] at refusal
    cases refusal

/-- A command is turned away before its work was started. -/
theorem Keeps.refused (keeps : Keeps before step call) (early : before.command.lifecycle.isEarly)
    (finished : call.command.work = .over) (tag : Tag)
    : Keeps before step (call.mapRecord (·.addTag tag)) :=
  { keeps with
    turned := fun _ => .inr ⟨early, finished⟩
    timing := keeps.timing.congr rfl rfl rfl }

/-- The circuit is told something, or the pool takes the command. -/
theorem Keeps.mapDependency (keeps : Keeps before step call)
    {change : Dependency α → Dependency α}
    (fixed : (call.mapDependency change).fixed = call.fixed)
    (diary : (change call.dependency).diary = call.dependency.diary)
    : Keeps before step (call.mapDependency change) :=
  { keeps with
    fixed := fixed.trans keeps.fixed
    diary := diary.trans keeps.diary
    timing := keeps.timing.congr rfl rfl rfl }

/-- The work is put aside, or queued. -/
theorem Keeps.mapWork (keeps : Keeps before step call) {work : WorkPhase}
    (same : call.command.work = before.command.work)
    (moved
      : work = call.command.work ∨ work = .over
        ∨ (call.command.work = .handingOff ∧ work = .queued))
    : Keeps before step (call.mapCommand ({ · with work })) where
  fixed := keeps.fixed
  lifecycle := keeps.lifecycle
  threadState := keeps.threadState
  permit := keeps.permit
  gauge := keeps.gauge
  origin := keeps.origin
  diary := keeps.diary
  work := same ▸ moved
  turned refused := by
    rcases keeps.turned refused with before | ⟨early, finished⟩
    · exact .inl before
    · refine .inr ⟨early, ?_⟩
      rcases moved with rfl | finished | ⟨handed, _⟩
      · exact finished
      · exact finished
      · rw [finished] at handed
        cases handed
  claim := keeps.claim
  timing := keeps.timing.congr rfl rfl rfl

/-- A command that keeps what it holds gives it back when it leaves its way. -/
theorem Keeps.leave (keeps : Keeps before step call) (share : Share before call)
    {lifecycle : Lifecycle} (isOver : lifecycle.isOver) {timeout : TimeoutStatus}
    (claim : call.command.timeout = .notExecuted ∨ timeout = call.command.timeout)
    (threadState : ThreadState) (outcome : Outcome α)
    (work : call.command.work = before.command.work ∨ call.command.work = .over)
    (claimed : before.command.timer = none ∨ timeout ≠ .notExecuted)
    (rescued : lifecycle = .unsubscribed ∨ call.command.fallback.isRunning = false)
    : Closes before step (call.leave lifecycle timeout threadState outcome) := by
  have command : (call.leave lifecycle timeout threadState outcome).command
      = { call.command.cleaned threadState call.sinceInvoked with
          lifecycle, timeout, completion := call.command.completion.complete outcome } := by
    rw [Call.leave, command_mapCommand, command_cleanup]
    rfl
  have dependency : (call.leave lifecycle timeout threadState outcome).dependency
      = call.closedDependency := by
    rw [Call.leave, dependency_mapCommand, dependency_cleanup]
    rfl
  have timer : (call.leave lifecycle timeout threadState outcome).gateway.timer
      = before.disarmedTimer :=
    (timer_cleanup _ _).trans keeps.timing.disarmedTimer
  -- The end of a command is these three equations; how `leave` comes to them matters no more.
  generalize call.leave lifecycle timeout threadState outcome = after
    at command dependency timer ⊢
  constructor
  · rw [command]
    exact isOver
  · rw [command]
    rfl
  · rw [command]
    rfl
  · rw [command]
    exact (ExecutionRecord.origin_markReturned _ _).trans keeps.origin
  · have number : call.number = before.number := congrArg Fixed.number keeps.fixed
    have now : call.now = before.now := congrArg Fixed.now keeps.fixed
    have key : call.dependency.metrics.key = before.dependency.metrics.key :=
      congrArg (·.settings.metricsKey) keeps.fixed
    rw [dependency, diary_closedDependency, keeps.diary, keeps.gauge, number, completionEvent, key,
      now, command]
    rfl
  · rw [command]
    exact work
  · rw [command]
    intro turned
    refine keeps.turned ?_
    unfold ExecutionRecord.TurnedAway at turned ⊢
    simpa [Command.cleaned] using turned
  · rw [command]
    rcases keeps.claim with unclaimed | same
    · exact .inl unclaimed
    · exact claim.imp same.symm.trans (·.trans same)
  · refine .disarmed ?_ timer ?_
    · rw [command]
      rfl
    · rw [command]
      exact claimed
  · refine share.congr ?_ ?_
    · rw [command]
      rfl
    · rw [dependency]
      rfl
  · rw [command]
    exact rescued

/-- An outcome ends a command that has not ended and whose fallback is not running. -/
theorem Keeps.finish (keeps : Keeps before step call) (share : Share before call)
    (active : call.command.lifecycle.isActive)
    (rests : call.command.fallback.isRunning = false)
    (work : call.command.work = before.command.work ∨ call.command.work = .over)
    (claimed : before.command.timer = none ∨ call.command.timeout ≠ .notExecuted)
    (outcome : Outcome α) : Closes before step (call.finish outcome) := by
  rw [finish_eq_leave call outcome active]
  exact keeps.leave share rfl (.inr rfl) .terminal outcome work claimed (.inr rests)

/-- The fallback of a command is started: it takes its place in the fallback semaphore. -/
structure Rescues (before : Call α) (step : Gateway.Step α) (after : Call α) : Prop
    extends Keeps before step after where
  active : after.command.lifecycle.isActive
  share : Share before after

/-- A command that is claimed for an error ends, or its fallback is started. -/
theorem Keeps.failToFallback (keeps : Keeps before step call)
    (phase : call.command.fallback = before.command.fallback)
    (semaphore : call.dependency.fallbackSemaphore = before.dependency.fallbackSemaphore)
    (unused : call.command.fallback.isUnused) (active : call.command.lifecycle.isActive)
    (work : call.command.work = before.command.work ∨ call.command.work = .over)
    (claimed : before.command.timer = none ∨ call.command.timeout ≠ .notExecuted)
    (runner : Runner) (cause : CommandError)
    : Closes before step (call.failToFallback runner cause)
      ∨ Rescues before step (call.failToFallback runner cause) := by
  have rests := FallbackPhase.isRunning_of_isUnused unused
  have free : before.command.fallback.isRunning = false := phase ▸ rests
  have failed : Keeps before step (call.mapRecord (·.setCause cause.message)) :=
    keeps.mapRecord rfl id
  rw [Call.failToFallback]
  dsimp only
  split
  · exact .inl (failed.finish (.kept (rests.trans free.symm) semaphore) active rests work claimed _)
  · split
    · split
      · rename_i permit left acquired
        have taken : before.dependency.fallbackSemaphore.tryAcquire = some (permit, left) :=
          (congrArg Semaphore.tryAcquire semaphore.symm).trans acquired
        exact .inr { failed with
          diary := (Dependency.diary_note _ rfl).trans failed.diary
          timing := failed.timing.congr rfl rfl rfl
          active
          share := .taken free rfl taken }
      · have given : Keeps before step
            ((call.mapRecord (·.setCause cause.message)).mapCommand
              ({ · with fallback := .over })) :=
          { failed with timing := failed.timing.congr rfl rfl rfl }
        exact .inl ((given.tagged rfl rfl rfl).finish (.kept free.symm semaphore) active rfl work
          claimed _)
    · have kept := rests.trans free.symm
      exact .inl ((failed.tagged rfl rfl rfl).finish (.kept kept semaphore) active rests work
        claimed _)

end Call

end Breakwater
