import Breakwater.Proofs.Call.Turn
import Breakwater.Proofs.WorkerPool.Admission

/-! Turns at the admission of a command: the submission, the hand-over to the pool, and the
start of the work. A command that is turned away here is claimed by that.
-/

namespace Breakwater.Call

variable {α : Type}

-----------------------------------------------------------------------------------------
-- Being turned away
-----------------------------------------------------------------------------------------

/-- A command that a bulkhead turns away is claimed for the rejection. -/
theorem reject_turn {before call : Call α} {step : Gateway.Step α} {isolation : Isolation}
    (runner : Runner)
    (prompted
      : Prompts before.key before.config before.number step
          (.isolationRejected before.key isolation))
    (running : before.command.lifecycle.isOver = false)
    (pending : before.command.completion = .pending) (free : call.command.Claimed [])
    (unused : call.command.fallback.isUnused) (frame : call.frame = before.frame)
    (ledger : call.dependency.ledger = before.dependency.ledger)
    : Turn before step (call.reject runner isolation) := by
  have key : call.key = before.key := congrArg (·.2.2.key) frame
  have claimed : (call.mapRecord (·.addTag isolation.rejectionTag)).command.Claimed
      [isolation.rejectionTag] := free.addTag _ rfl
  simp only [reject]
  rw [key]
  refine failToFallback_turn runner prompted running pending claimed (.rejected _ _) unused ?_ ?_
  · rw [frame_markNonSuccess, frame_mapRecord, frame]
  · rw [dependency_mapDependency, Dependency.ledger_markNonSuccess, dependency_mapRecord, ledger]

/-- A command that the open circuit turns away is claimed for that. -/
theorem shortCircuit_turn {before call : Call α} {step : Gateway.Step α}
    (prompted
      : Prompts before.key before.config before.number step (.shortCircuited before.key))
    (running : before.command.lifecycle.isOver = false)
    (pending : before.command.completion = .pending) (free : call.command.Claimed [])
    (unused : call.command.fallback.isUnused) (frame : call.frame = before.frame)
    (ledger : call.dependency.ledger = before.dependency.ledger)
    : Turn before step call.shortCircuit := by
  have key : call.key = before.key := congrArg (·.2.2.key) frame
  have claimed : (call.mapRecord (·.addTag .shortCircuited)).command.Claimed
      [.shortCircuited] := free.addTag _ rfl
  simp only [shortCircuit]
  rw [key]
  exact failToFallback_turn .caller prompted running pending claimed (.shortCircuited _)
    unused frame ledger

-----------------------------------------------------------------------------------------
-- The start of the work
-----------------------------------------------------------------------------------------

variable (call : Call α)

/-- Beginning stamps the record and may arm the timeout. -/
theorem command_beginInvocation
    : ∃ timer, call.beginInvocation.command
        = { call.command with record := call.command.record.markStarted call.now, timer } := by
  rw [beginInvocation]
  dsimp only
  split
  · exact ⟨call.command.timer, rfl⟩
  · split
    · exact ⟨_, rfl⟩
    · exact ⟨call.command.timer, rfl⟩

@[simp]
theorem dependency_beginInvocation : call.beginInvocation.dependency = call.dependency := by
  rw [beginInvocation]
  dsimp only
  split
  · rfl
  · split <;> rfl

/-- Work that is started: nobody has claimed the command. -/
theorem startWork_started (runner : Runner) (created : call.command.lifecycle = .chainCreated)
    (inTime : call.command.timeout ≠ .timedOut)
    : ∃ thread record,
        (call.startWork runner).command
            = { call.command with
                lifecycle := .userCodeExecuted
                work := .running call.now runner
                gaugeHeld := true
                threadState := thread
                record := record }
          ∧ record.tags = call.command.record.tags
          ∧ (call.startWork runner).dependency.loans = call.dependency.loans
          ∧ (call.startWork runner).dependency.ledger = call.dependency.ledger := by
  rw [startWork]
  dsimp only
  have starts : call.takeGauge.command.lifecycle = .chainCreated
      ∧ call.takeGauge.command.timeout ≠ .timedOut := ⟨created, inTime⟩
  rw [if_pos starts]
  have quiet (dependency : Dependency α) (number : Nat)
      : (dependency.note (.workStarted number)).ledger = dependency.ledger :=
    Dependency.ledger_note dependency rfl
  by_cases onWorker : runner = .worker
  · simp only [if_pos onWorker, enterWorker]
    split
    · exact ⟨_, _, rfl, rfl, rfl, quiet _ _⟩
    · exact ⟨_, _, rfl, rfl, rfl, quiet _ _⟩
  · simp only [if_neg onWorker]
    exact ⟨_, _, rfl, rfl, rfl, quiet _ _⟩

/-- Work that is not started any more: the command was claimed before. A worker goes on to other
tasks.
-/
theorem startWork_skipped (runner : Runner)
    (late : ¬(call.command.lifecycle = .chainCreated ∧ call.command.timeout ≠ .timedOut))
    : (call.startWork runner).command
          = { call.command with work := .over, gaugeHeld := false }
        ∧ (call.startWork runner).dependency.loans
          = (if runner = .worker then call.dependency.loans.relieved else call.dependency.loans)
        ∧ (call.startWork runner).dependency.ledger = call.dependency.ledger := by
  rw [startWork]
  dsimp only
  have skips : ¬(call.takeGauge.command.lifecycle = .chainCreated
      ∧ call.takeGauge.command.timeout ≠ .timedOut) := late
  rw [if_neg skips]
  split
  · exact ⟨rfl, Dependency.loans_finish _, rfl⟩
  · exact ⟨rfl, rfl, rfl⟩

theorem ledger_startWork (runner : Runner)
    : (call.startWork runner).dependency.ledger = call.dependency.ledger := by
  by_cases starts : call.command.lifecycle = .chainCreated ∧ call.command.timeout ≠ .timedOut
  · obtain ⟨_, _, _, _, _, ledger⟩ := call.startWork_started runner starts.1 starts.2
    exact ledger
  · exact (call.startWork_skipped runner starts).2.2

theorem entering_beginInvocation {call : Call α} (entering : call.command.Entering)
    : call.beginInvocation.command.Entering := by
  obtain ⟨timer, command⟩ := call.command_beginInvocation
  rw [command]
  exact { entering with }

/-- Work that is started before anybody has claimed the command. -/
theorem undecided_startWork {call : Call α} (runner : Runner) (entering : call.command.Entering)
    : (call.startWork runner).command.Undecided := by
  obtain ⟨thread, record, command, tags, _⟩ :=
    call.startWork_started runner entering.lifecycle (by simp [entering.timeout])
  rw [command]
  exact ⟨entering.timeout, tags.trans entering.tags, entering.fallback, entering.completion,
    .inr ⟨rfl, _, _, rfl⟩⟩

/-- A command that goes on before anybody has claimed it. -/
theorem undecided_turn {before after : Call α} {step : Gateway.Step α}
    (running : before.command.lifecycle.isOver = false)
    (pending : before.command.completion = .pending) (undecided : after.command.Undecided)
    (ledger : after.dependency.ledger = before.dependency.ledger) : Turn before step after :=
  .goesOn (.undecided undecided)
    (.inr ⟨running, Lifecycle.isOver_of_isActive undecided.isActive⟩)
    (undecided.completion.trans pending.symm) ledger

/-- The turn of a command that a worker takes from the queue. -/
theorem pickUp_turn {before : Call α} (stage : before.command.Stage before.config.fallbackEnabled)
    (queued : before.command.work = .queued)
    : Turn before .pickUp (before.startWork .worker) := by
  cases stage with
  | idle idle => simp [idle.work] at queued
  | undecided undecided =>
      have created : before.command.lifecycle = .chainCreated := by
        rcases undecided.place with ⟨created, _⟩ | ⟨_, _, _, running⟩
        · exact created
        · simp [running] at queued
      have running := Lifecycle.isOver_of_isActive undecided.isActive
      exact undecided_turn running undecided.completion
        (undecided_startWork .worker (undecided.entering created)) (before.ledger_startWork .worker)
  | @rescuing cause tag on rescuing =>
      have timedOut := rescuing.timedOut (by simp [queued])
      obtain ⟨command, _, ledger⟩ :=
        before.startWork_skipped .worker (fun starts => starts.2 timedOut)
      have rescues : (before.startWork .worker).command.Rescuing cause tag := by
        rw [command]
        exact { rescuing with workless := .inl timedOut }
      refine .goesOn (.rescuing on rescues) (.inl ?_) ?_ ledger
      · rw [command]
      · rw [command]
  | closed closed =>
      have left : before.command.lifecycle ≠ .chainCreated := by
        intro created
        have isOver := closed.lifecycle
        simp [created, Lifecycle.isOver] at isOver
      obtain ⟨command, _, ledger⟩ :=
        before.startWork_skipped .worker (fun starts => left starts.1)
      refine .goesOn (.closed ?_) (.inl ?_) ?_ ledger
      · rw [command]
        exact { closed with workless := .inr rfl }
      · rw [command]
      · rw [command]

-----------------------------------------------------------------------------------------
-- The submission
-----------------------------------------------------------------------------------------

/-- The command as it is submitted at a time: nobody has claimed it yet. -/
theorem claimed_of_idle {command : Command α} (idle : command.Idle) (now : Nat)
    : ({ command with lifecycle := .chainCreated, invokedAt := now, work := .over }
        : Command α).Claimed [] where
  lifecycle := rfl
  tags := idle.tags
  completion := idle.completion
  disarmed := .inr idle.timer
  workless := .inr rfl

/-- A command for which the semaphore has a place runs its work. -/
theorem undecided_admitBySemaphore {call : Call α} (entering : call.command.Entering)
    (place : call.dependency.semaphore.tryAcquire.isSome)
    : call.admitBySemaphore.command.Undecided := by
  simp only [admitBySemaphore]
  split
  · rename_i full
    simp [full] at place
  · exact undecided_startWork .caller (entering_beginInvocation { entering with })

/-- A command for which the pool has room is about to be handed over. -/
theorem undecided_admitByPool {call : Call α} {pool : WorkerPool Nat}
    (entering : call.command.Entering) (place : pool.isQueueSpaceAvailable)
    : (call.admitByPool pool).command.Undecided := by
  have begun := entering_beginInvocation entering
  simp only [admitByPool, place, if_true]
  exact ⟨begun.timeout, begun.tags, begun.fallback, begun.completion,
    .inl ⟨begun.lifecycle, .inl rfl⟩⟩

/-- The turn at the semaphore: the work runs on the caller's thread, or is rejected. -/
theorem admitBySemaphore_turn {before call : Call α} {now : Nat} (idle : before.command.Idle)
    (command : call.command = { before.command with
      lifecycle := .chainCreated, invokedAt := now, work := .over })
    (frame : call.frame = before.frame)
    (ledger : call.dependency.ledger = before.dependency.ledger)
    : Turn before (.submit before.number) call.admitBySemaphore := by
  have running : before.command.lifecycle.isOver = false := by rw [idle.lifecycle]; rfl
  cases place : call.dependency.semaphore.tryAcquire with
  | none =>
      simp only [admitBySemaphore, place]
      refine reject_turn .caller (.bulkheadFull .semaphore) running idle.completion ?_ ?_ frame
        ledger
      · rw [command]
        exact claimed_of_idle idle now
      · rw [command]
        exact idle.fallback
  | some held =>
      have undecided := undecided_admitBySemaphore (command ▸ idle.entering now) (by simp [place])
      refine undecided_turn running idle.completion undecided ?_
      simp only [admitBySemaphore, place, ledger_startWork, dependency_beginInvocation]
      exact ledger

/-- The turn at the pool: the work is to be handed over, or is rejected. -/
theorem admitByPool_turn {before call : Call α} {now : Nat} (pool : WorkerPool Nat)
    (idle : before.command.Idle)
    (command : call.command = { before.command with
      lifecycle := .chainCreated, invokedAt := now, work := .over })
    (frame : call.frame = before.frame)
    (ledger : call.dependency.ledger = before.dependency.ledger)
    : Turn before (.submit before.number) (call.admitByPool pool) := by
  have running : before.command.lifecycle.isOver = false := by rw [idle.lifecycle]; rfl
  cases place : pool.isQueueSpaceAvailable with
  | false =>
      simp only [admitByPool, place, Bool.false_eq_true, if_false]
      refine reject_turn .caller (.bulkheadFull .threadPool) running idle.completion ?_ ?_ frame
        ledger
      · rw [command]
        exact claimed_of_idle idle now
      · rw [command]
        exact idle.fallback
  | true =>
      have undecided := undecided_admitByPool (command ▸ idle.entering now) place
      refine undecided_turn running idle.completion undecided ?_
      simp only [admitByPool, place, if_true, dependency_mapCommand, dependency_beginInvocation]
      exact ledger

theorem ledger_asked : call.asked.dependency.ledger = call.dependency.ledger :=
  Dependency.ledger_allowRequest _ _

/-- The turn of a command that is submitted. -/
theorem submit_turn (before : Call α) (idle : before.command.Idle)
    : Turn before (.submit before.number) before.submit := by
  have running : before.command.lifecycle.isOver = false := by rw [idle.lifecycle]; rfl
  have submitted := before.submit_cases
  generalize before.submit = after at submitted ⊢
  cases submitted with
  | turnedAway denied =>
      refine shortCircuit_turn .circuitOpen running idle.completion ?_ ?_ before.frame_asked
        before.ledger_asked
      · exact claimed_of_idle idle before.now
      · exact idle.fallback
  | atSemaphore allowed noPool =>
      exact admitBySemaphore_turn idle rfl before.frame_asked before.ledger_asked
  | atPool pool allowed held =>
      exact admitByPool_turn pool idle rfl before.frame_asked before.ledger_asked

-----------------------------------------------------------------------------------------
-- The hand-over
-----------------------------------------------------------------------------------------

/-- The pool takes a task into its queue or counts the refusal. -/
theorem pool_submit_cases (pool : WorkerPool Nat) (number : Nat)
    : pool.submit number = (.ok (), pool.take number)
      ∨ ∃ refusal, pool.submit number = (.error refusal, pool.turnAway) := by
  cases answer : pool.refusal? with
  | none => exact .inl (WorkerPool.submit_of_taken answer)
  | some refusal => exact .inr ⟨refusal, WorkerPool.submit_of_refused answer⟩

def setPool (call : Call α) (pool : WorkerPool Nat) : Call α :=
  call.mapDependency ({ · with pool := some pool })

/-- What the hand-over can do: nothing, or the pool takes the command, or it refuses it; a
refused command is turned away unless the timeout has claimed it.
-/
inductive HandedOff (before : Call α) : Call α → Prop
  | skipped : HandedOff before before
  | taken (pool : WorkerPool Nat) (held : before.dependency.pool = some pool)
    (work : before.command.work = .handingOff)
    : HandedOff before
        ((before.setPool (pool.take before.number)).mapCommand
          ({ · with work := .queued }))
  | refused (pool : WorkerPool Nat) (held : before.dependency.pool = some pool)
    (work : before.command.work = .handingOff) (unclaimed : before.command.timeout = .notExecuted)
    : HandedOff before
        (((before.setPool pool.turnAway).mapCommand
          ({ · with work := .over, timeout := .completed })).cancelTimer.reject .caller
            .threadPool)
  | dropped (pool : WorkerPool Nat) (held : before.dependency.pool = some pool)
    (work : before.command.work = .handingOff) (claimed : before.command.timeout ≠ .notExecuted)
    : HandedOff before
        ((before.setPool pool.turnAway).mapCommand
          ({ · with work := .over }))

theorem handOff_cases : HandedOff call call.handOff := by
  simp only [handOff]
  split
  · rename_i pool work held
    rcases pool_submit_cases pool call.number with answer | ⟨refusal, answer⟩
    · rw [answer]
      exact .taken pool held work
    · rw [answer]
      by_cases unclaimed : call.command.timeout = .notExecuted
      · simp only [command_mapDependency, command_mapCommand, unclaimed, if_true]
        exact .refused pool held work unclaimed
      · simp only [command_mapDependency, command_mapCommand, unclaimed, if_false]
        exact .dropped pool held work unclaimed
  · exact .skipped

/-- A refusal shows nowhere but in the count of the pool. -/
theorem frame_setPool_refused {pool : WorkerPool Nat} (held : call.dependency.pool = some pool)
    : (call.setPool pool.turnAway).frame = call.frame := by
  refine frame_mapDependency call ?_
  simp only [Dependency.frame, Dependency.waiting, held]
  rfl

/-- The turn of a command that is handed over to the pool. -/
theorem handOff_turn {before : Call α} (stage : before.command.Stage before.config.fallbackEnabled)
    : Turn before (.handOff before.number) before.handOff := by
  have handed := before.handOff_cases
  generalize before.handOff = after at handed ⊢
  cases handed with
  | skipped => exact .goesOn stage (.inl rfl) rfl rfl
  | taken pool held work =>
      refine .goesOn ?_ (.inl rfl) rfl rfl
      cases stage with
      | idle idle => simp [idle.work] at work
      | undecided undecided =>
          refine .undecided { undecided with place := .inl ⟨?_, .inr rfl⟩ }
          rcases undecided.place with ⟨created, _⟩ | ⟨_, _, _, running⟩
          · exact created
          · simp [running] at work
      | rescuing on rescuing =>
          have timedOut := rescuing.timedOut (by simp [work])
          exact .rescuing on { rescuing with workless := .inl timedOut }
      | closed closed =>
          have claimed := closed.claimed (by simp [work])
          exact .closed { closed with workless := .inl claimed }
  | refused pool held work unclaimed =>
      cases stage with
      | idle idle => simp [idle.work] at work
      | undecided undecided =>
          have running := Lifecycle.isOver_of_isActive undecided.isActive
          refine reject_turn .caller .poolRefused running undecided.completion ?_ ?_ ?_ ?_
          · rw [command_cancelTimer]
            exact ⟨undecided.isActive, undecided.tags, undecided.completion, .inr rfl, .inr rfl⟩
          · rw [command_cancelTimer]
            exact undecided.fallback
          · rw [frame_cancelTimer, frame_mapCommand, frame_setPool_refused before held]
          · rw [dependency_cancelTimer]
            rfl
      | rescuing on rescuing =>
          have timedOut := rescuing.timedOut (by simp [work])
          simp [timedOut] at unclaimed
      | closed closed => exact absurd unclaimed (closed.claimed (by simp [work]))
  | dropped pool held work claimed =>
      refine .goesOn ?_ (.inl rfl) rfl rfl
      cases stage with
      | idle idle => simp [idle.work] at work
      | undecided undecided => exact absurd undecided.timeout claimed
      | rescuing on rescuing => exact .rescuing on { rescuing with workless := .inr rfl }
      | closed closed => exact .closed { closed with workless := .inr rfl }

end Breakwater.Call
