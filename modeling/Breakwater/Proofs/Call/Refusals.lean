import Breakwater.Proofs.Call.Circuit
import Breakwater.Proofs.Call.Move
import Breakwater.Proofs.WorkerPool.Delivery

/-! Refusals of the pool, as the pool counts them and as the records of the commands tell of them.
On its way a command adds to either only where it is turned away or handed over.
-/

namespace Breakwater

variable {α : Type}

/-- How many tasks the pool has refused. -/
def Dependency.refusals (dependency : Dependency α) : Nat :=
  (dependency.pool.map (·.rejected)).getD 0

/-- Whether the record of a command tells that the pool turned it away. -/
def Command.isPoolRejected (command : Command α) : Bool :=
  command.record.tags.contains .threadPoolRejected

/-- A tag that tells of something else does not make a tally tell of a refusal by the pool. -/
theorem Tally.contains_add_other {tag : Tag} (tally : Tally) (other : tag ≠ .threadPoolRejected)
    : (tally.add tag).contains .threadPoolRejected = tally.contains .threadPoolRejected := by
  rw [Bool.eq_iff_iff, contains_add, or_iff_left other.symm]

/-- A command that is about to be handed over can be claimed by its timeout only. -/
def Command.AwaitsTimeout (command : Command α) : Prop :=
  command.work = .handingOff → command.timeout ≠ .completed

namespace Call

variable (call : Call α)

-----------------------------------------------------------------------------------------
-- The score
-----------------------------------------------------------------------------------------

/-- The refusals of the pool, and whether the record of the command tells of one. -/
def score : Nat × Bool := (call.dependency.refusals, call.command.isPoolRejected)

/-- A change of the dependency keeps the score if the pool has counted no more refusals. -/
theorem score_mapDependency {change : Dependency α → Dependency α}
    (same : (change call.dependency).refusals = call.dependency.refusals)
    : (call.mapDependency change).score = call.score := by
  simp [score, same]

/-- A change of the command keeps the score if the tags of its record stay. -/
theorem score_mapCommand {change : Command α → Command α}
    (same : (change call.command).record.tags = call.command.record.tags)
    : (call.mapCommand change).score = call.score := by
  simp [score, Command.isPoolRejected, same]

/-- Of the record only the tag that tells of a refusal by the pool is part of the score. -/
theorem score_mapRecord {change : ExecutionRecord → ExecutionRecord}
    (same
      : (change call.command.record).tags.contains .threadPoolRejected
        = call.command.record.tags.contains .threadPoolRejected)
    : (call.mapRecord change).score = call.score := by
  simp [score, Command.isPoolRejected, same]

/-- Any other tag leaves the score as it is. -/
theorem score_addTag {tag : Tag} (other : tag ≠ .threadPoolRejected)
    : (call.mapRecord (·.addTag tag)).score = call.score :=
  call.score_mapRecord (Tally.contains_add_other _ other)

/-- The journal is no part of the score. -/
@[simp]
theorem score_note (notice : Notice) : (call.note notice).score = call.score := rfl

/-- Disarming a timeout refuses nothing. -/
@[simp]
theorem score_cancelTimer : call.cancelTimer.score = call.score := by
  simp [score, Command.isPoolRejected]

/-- A worker that becomes idle leaves what the pool has counted. -/
@[simp]
theorem score_releaseWorker : call.releaseWorker.score = call.score := by
  refine call.score_mapDependency ?_
  simp only [Dependency.refusals, Option.map_map]
  rfl

/-- An end stamps the record and closes the dependency, neither of which tells of a refusal. -/
@[simp]
theorem score_finish (outcome : Outcome α) : (call.finish outcome).score = call.score := by
  rw [score, command_finish, dependency_finish]
  split
  · simp only [Command.isPoolRejected, Command.ended, Command.cleaned,
      ExecutionRecord.tags_markReturned]
    rfl
  · rfl

/-- Giving back all that a command holds refuses nothing. -/
@[simp]
theorem score_cleanup (threadState : ThreadState)
    : (call.cleanup threadState).score = call.score := by
  rw [score, command_cleanup, dependency_cleanup]
  simp only [Command.isPoolRejected, Command.cleaned, ExecutionRecord.tags_markReturned]
  rfl

/-- The circuit takes no part in the score, whatever it is told. -/
@[simp]
theorem score_markNonSuccess
    : (call.mapDependency Dependency.markNonSuccess).score = call.score := rfl

/-- The circuit takes no part in the score, even if it closes. -/
@[simp]
theorem score_markSuccess (now : Nat)
    : (call.mapDependency (·.markSuccess now)).score = call.score := by
  refine call.score_mapDependency ?_
  simp only [Dependency.markSuccess, Dependency.noteAll_eq]
  rfl

/-- Failing refuses nothing by itself: the tag of the cause was added before, and those of a
fallback are others.
-/
@[simp]
theorem score_failToFallback (runner : Runner) (cause : CommandError)
    : (call.failToFallback runner cause).score = call.score := by
  rw [failToFallback]
  dsimp only
  split
  · rw [score_finish]
    rfl
  · split
    · split
      · rfl
      · rw [score_finish, score_addTag _ (by decide)]
        rfl
    · rw [score_finish, score_addTag _ (by decide)]
      rfl

/-- A command that the semaphore turns away has nothing to do with the pool. -/
@[simp]
theorem score_reject_semaphore (runner : Runner)
    : (call.reject runner .semaphore).score = call.score := by
  rw [reject, score_failToFallback, score_markNonSuccess]
  exact call.score_addTag (by decide)

/-- The record of a command tells that the pool turned it away. -/
@[simp]
theorem score_reject_threadPool (runner : Runner)
    : (call.reject runner .threadPool).score = (call.dependency.refusals, true) := by
  have carried : (call.command.record.tags.add .threadPoolRejected).contains .threadPoolRejected :=
    (Tally.contains_add _ _ _).mpr (.inr rfl)
  rw [reject, score_failToFallback, score_markNonSuccess]
  rw [score, dependency_mapRecord, command_mapRecord]
  exact congrArg (Prod.mk call.dependency.refusals) carried

/-- Arming a timeout refuses nothing. -/
@[simp]
theorem score_beginInvocation : call.beginInvocation.score = call.score := by
  obtain ⟨timer, command⟩ := call.command_beginInvocation
  rw [score, command, dependency_beginInvocation]
  rfl

/-- Claiming the thread refuses nothing. -/
@[simp]
theorem score_enterWorker : call.enterWorker.score = call.score := by
  simp only [enterWorker]
  split <;> rfl

/-- Counting a command no more refuses nothing. -/
@[simp]
theorem score_releaseGauge : call.releaseGauge.score = call.score := by
  simp only [releaseGauge]
  split <;> rfl

/-- Starting work refuses nothing, and neither does leaving it to the timeout that has claimed it.
-/
@[simp]
theorem score_startWork (runner : Runner) : (call.startWork runner).score = call.score := by
  rw [startWork]
  dsimp only
  split
  · split
    · rw [score_note, score_mapCommand _ rfl, score_enterWorker]
      rfl
    · rfl
  · split
    · rw [score_releaseWorker, score_mapCommand _ rfl, score_releaseGauge]
      rfl
    · rw [score_mapCommand _ rfl, score_releaseGauge]
      rfl

/-- The circuit turns a command away with a tag of its own. -/
@[simp]
theorem score_shortCircuit : call.shortCircuit.score = call.score := by
  rw [shortCircuit, score_failToFallback]
  exact call.score_addTag (by decide)

/-- A dependency with a semaphore has no pool that could refuse, so the score stays in both cases.
-/
@[simp]
theorem score_admitBySemaphore : call.admitBySemaphore.score = call.score := by
  simp only [admitBySemaphore]
  split
  · exact call.score_reject_semaphore .caller
  · rw [score_startWork, score_beginInvocation]
    rfl

/-- Asking the circuit refuses nothing. -/
@[simp]
theorem score_asked : call.asked.score = call.score := by
  rw [asked, score_mapDependency, score_mapCommand]
  · rfl
  · simp [Dependency.refusals]

-----------------------------------------------------------------------------------------
-- Steps that refuse nothing
-----------------------------------------------------------------------------------------

/-- What becomes of the work is a success, a failure or a bad request, never a refusal. -/
theorem score_settle (runner : Runner) (latency : Nat) (result : Except WorkError α)
    : (call.settle runner latency result).score = call.score := by
  have tagged {tag : Tag} (other : tag ≠ .threadPoolRejected)
      : (call.command.record.addTimedTag latency tag).tags.contains .threadPoolRejected
        = call.command.record.tags.contains .threadPoolRejected := by
    rw [ExecutionRecord.tags_addTimedTag, Tally.contains_add_other _ other]
  cases result with
  | ok value =>
      rw [settle, succeed, score_finish, score_markSuccess]
      exact call.score_mapRecord (tagged (by decide))
  | error error =>
      simp only [settle]
      split
      · rw [failAsFailure, score_failToFallback, score_markNonSuccess]
        exact call.score_mapRecord (tagged (by decide))
      · rw [failAsBadRequest, score_finish, score_markNonSuccess]
        exact call.score_mapRecord (tagged (by decide))

/-- The return of the work refuses nothing, claimed or late, on either thread. -/
theorem score_workReturned (result : Except WorkError α)
    : (call.workReturned result).score = call.score := by
  rw [workReturned]
  split
  · dsimp only
    split
    · split
      · rw [score_releaseWorker, score_settle, score_cancelTimer]
        rfl
      · rw [score_settle, score_cancelTimer]
        rfl
    · split
      · rw [score_releaseWorker]
        rfl
      · rfl
  · rfl

/-- The return of a fallback adds one of its own two tags, and refuses nothing. -/
theorem score_fallbackReturned (result : Except WorkError α)
    : (call.fallbackReturned result).score = call.score := by
  have finished {tag : Tag} (other : tag ≠ .threadPoolRejected) (outcome : Outcome α)
      : (((call.mapCommand ({ · with fallback := .over })).mapRecord (·.addTag tag)).finish
          outcome).score
        = call.score := by
    rw [score_finish, score_addTag _ other]
    rfl
  have given (after : Call α)
      : (after.mapDependency fun dependency =>
          { dependency with
            fallbackSemaphore := dependency.fallbackSemaphore.giveBack }).score
        = after.score := rfl
  rw [fallbackReturned]
  split
  · cases result with
    | ok value =>
        dsimp only
        split
        · rw [score_releaseWorker, given, finished (by decide)]
        · rw [given, finished (by decide)]
    | error error =>
        dsimp only
        split
        · rw [score_releaseWorker, given, finished (by decide)]
        · rw [given, finished (by decide)]
  · rfl

/-- A timeout that claims a command has a tag of its own; one that comes too late does nothing. -/
theorem score_timedOut : call.timedOut.score = call.score := by
  rw [timedOut]
  split
  · rw [score_failToFallback, score_markNonSuccess, score_mapRecord]
    · rfl
    · rw [ExecutionRecord.tags_addTimedTag, Tally.contains_add_other _ (by decide)]
  · rfl

/-- A cancellation has a tag of its own. -/
theorem score_abandon : call.abandon.score = call.score := by
  rw [abandon, score_mapCommand _ rfl, score_cleanup, score_markNonSuccess,
    score_addTag _ (by decide)]
  rfl

-----------------------------------------------------------------------------------------
-- Submission and hand-over
-----------------------------------------------------------------------------------------

/-- Whether a step turns a command away by its own look at the queue, before the pool is asked. -/
def isTurnedAwayEarly (call : Call α) : Gateway.Step α → Bool
  | .submit _ =>
      call.command.lifecycle == .notStarted && call.isAllowed
        && call.dependency.pool.isSome && !call.dependency.hasPlace
  | _ => false

/-- Whether the pool refuses a command in a step when the timeout has claimed it already. -/
def isRefusedLate (call : Call α) : Gateway.Step α → Bool
  | .handOff _ =>
      call.command.work == .handingOff && call.command.timeout == .timedOut && call.isRefused
  | _ => false

/-- What a step adds to the count of the pool goes into the record of the command, but for a command
that is turned away early and one that is refused late.
-/
def Balance (before : Call α) (step : Gateway.Step α) (after : Call α) : Prop :=
  after.score.1 + before.score.2.toNat + (before.isTurnedAwayEarly step).toNat
    = before.score.1 + after.score.2.toNat + (before.isRefusedLate step).toNat

variable {call} {before after : Call α} {step : Gateway.Step α}

/-- A step that leaves the score, and turns nothing away in one of the two odd ways, is balanced. -/
theorem balance_of_score (same : after.score = before.score)
    (early : before.isTurnedAwayEarly step = false) (late : before.isRefusedLate step = false)
    : Balance before step after := by
  rw [Balance, same, early, late]

/-- A submission is balanced. The only refusal it can bring is the one by the look at the queue,
which the pool does not count.
-/
theorem submit_balance (idle : before.command.Idle) (number : Nat)
    : Balance before (.submit number) before.submit := by
  have untold : before.command.isPoolRejected = false := by
    rw [Command.isPoolRejected, idle.tags]
    rfl
  have submitted := before.submit_cases
  generalize before.submit = after at submitted ⊢
  cases submitted with
  | turnedAway denied =>
      exact balance_of_score (by simp) (by simp [isTurnedAwayEarly, denied]) rfl
  | atSemaphore allowed noPool =>
      exact balance_of_score (by simp) (by simp [isTurnedAwayEarly, noPool]) rfl
  | atPool pool allowed held =>
      cases space : pool.isQueueSpaceAvailable with
      | true =>
          have early : before.isTurnedAwayEarly (.submit number) = false := by
            simp [isTurnedAwayEarly, Dependency.hasPlace, held, space]
          refine balance_of_score ?_ early rfl
          simp only [admitByPool, space, if_true]
          rw [score_mapCommand _ rfl, score_beginInvocation, score_asked]
      | false =>
          have early : before.isTurnedAwayEarly (.submit number) = true := by
            simp [isTurnedAwayEarly, Dependency.hasPlace, held, space, idle.lifecycle, allowed]
          have asked : before.asked.dependency.refusals = before.dependency.refusals :=
            congrArg Prod.fst before.score_asked
          have rejected : (before.asked.admitByPool pool).score
              = (before.dependency.refusals, true) := by
            rw [admitByPool, space, if_neg Bool.false_ne_true, score_reject_threadPool, asked]
          rw [Balance, rejected, early]
          simp [score, untold, isRefusedLate]

/-- A hand-over is balanced. The pool takes the command, refuses it for all to see, or refuses it
after the timeout has claimed it, when the record tells of the timeout instead.
-/
theorem handOff_balance (stage : before.command.Stage before.config.fallbackEnabled)
    (awaits : before.command.AwaitsTimeout) (number : Nat)
    : Balance before (.handOff number) before.handOff := by
  by_cases parked : before.command.work = .handingOff
  · cases held : before.dependency.pool with
    | none =>
        refine balance_of_score ?_ rfl (by simp [isRefusedLate, isRefused, held])
        simp [handOff, parked, held]
    | some pool =>
        have refusals : before.dependency.refusals = pool.rejected := by
          simp [Dependency.refusals, held]
        cases answer : pool.refusal? with
        | none =>
            refine balance_of_score ?_ rfl (by simp [isRefusedLate, isRefused, held, answer])
            simp only [handOff, parked, held, WorkerPool.submit_of_taken answer]
            rw [score_mapCommand _ rfl, score_mapDependency]
            exact refusals.symm
        | some refusal =>
            have late : before.isRefusedLate (.handOff number)
                = (before.command.timeout == .timedOut) := by
              simp [isRefusedLate, isRefused, parked, held, answer]
            by_cases unclaimed : before.command.timeout = .notExecuted
            · have undecided :=
                stage.undecided_of_unclaimed (by simp [parked]) (by simp [parked]) unclaimed
              have untold : before.command.isPoolRejected = false := by
                rw [Command.isPoolRejected, undecided.tags]
                rfl
              have rejected : before.handOff.score = (pool.rejected + 1, true) := by
                simp only [handOff, parked, held, WorkerPool.submit_of_refused answer]
                simp [unclaimed, Dependency.refusals]
              rw [Balance, rejected, late, unclaimed]
              simp [score, refusals, untold, isTurnedAwayEarly]
            · have timedOut : before.command.timeout = .timedOut := by
                cases status : before.command.timeout with
                | notExecuted => exact absurd status unclaimed
                | completed => exact absurd status (awaits parked)
                | timedOut => rfl
              have dropped : before.handOff.score
                  = (pool.rejected + 1, before.command.isPoolRejected) := by
                simp only [handOff, parked, held, WorkerPool.submit_of_refused answer]
                simp [unclaimed, score, Dependency.refusals, Command.isPoolRejected]
              rw [Balance, dropped, late, timedOut]
              simp [score, refusals, isTurnedAwayEarly]
              omega
  · refine balance_of_score ?_ rfl (by simp [isRefusedLate, parked])
    have idle : before.handOff = before := by
      have handed := before.handOff_cases
      generalize before.handOff = after at handed ⊢
      cases handed with
      | skipped => rfl
      | taken _ _ work => exact absurd work parked
      | refused _ _ work => exact absurd work parked
      | dropped _ _ work => exact absurd work parked
    rw [idle]

-----------------------------------------------------------------------------------------
-- Who can claim a command before the hand-over
-----------------------------------------------------------------------------------------

/-- An end does not say who has claimed the command. -/
theorem timeout_finish (call : Call α) (outcome : Outcome α)
    : (call.finish outcome).command.timeout = call.command.timeout := by
  rw [command_finish]
  split <;> rfl

/-- Failing does not say who has claimed the command, by cases on what becomes of the fallback. -/
theorem timeout_failToFallback (call : Call α) (runner : Runner) (cause : CommandError)
    : (call.failToFallback runner cause).command.timeout = call.command.timeout := by
  rw [failToFallback]
  dsimp only
  split
  · rw [timeout_finish]
    rfl
  · split
    · split
      · rfl
      · rw [timeout_finish]
        rfl
    · rw [timeout_finish]
      rfl

/-- The return of a fallback does not say who has claimed the command. -/
theorem timeout_fallbackReturned (call : Call α) (result : Except WorkError α)
    : (call.fallbackReturned result).command.timeout = call.command.timeout := by
  rw [fallbackReturned]
  split
  · dsimp only
    split <;> split <;> simp [releaseWorker, timeout_finish]
  · rfl

/-- A timeout leaves the claim that there is, or makes its own. -/
theorem timeout_timedOut (call : Call α)
    : call.timedOut.command.timeout = call.command.timeout
      ∨ call.timedOut.command.timeout = .timedOut := by
  rw [timedOut]
  split
  · exact .inr (timeout_failToFallback _ _ _)
  · exact .inl rfl

/-- Work that is about to be handed over after a step was so before, or was admitted by it. -/
theorem Move.handingOff (move : Move before step after) (parked : after.command.work = .handingOff)
    : before.command.work = .handingOff
      ∨ (before.command.timeout = .notExecuted
        ∧ after.command.timeout = before.command.timeout) := by
  have kept (work : after.command.work = before.command.work ∨ after.command.work = .over
      ∨ (before.command.work = .handingOff ∧ after.command.work = .queued))
      : before.command.work = .handingOff := by
    rcases work with same | isOver | ⟨_, queued⟩
    · exact same.symm.trans parked
    · simp [isOver] at parked
    · simp [queued] at parked
  cases move with
  | rests keeps => exact .inl (kept keeps.work)
  | parks admits pool command =>
      exact .inr ⟨admits.unclaimed, congrArg (·.timeout) command⟩
  | enters permit admits noPool command =>
      rw [command] at parked
      cases parked
  | begins asked queued created inTime begins =>
      rw [begins.command] at parked
      cases parked
  | rescues running rescues => exact .inl (kept rescues.work)
  | ends running closes => exact .inl (kept (closes.work.imp_right .inl))
  | late asked isOver running keeps => exact .inl (kept keeps.work)

/-- While a command is about to be handed over, only its timeout can claim it: what is parked after
a step was parked before it, or was admitted unclaimed by it.
-/
theorem Op.awaitsTimeout (op : Op before step after) (move : Move before step after)
    (stage : before.command.Stage before.config.fallbackEnabled)
    (awaits : before.command.AwaitsTimeout) : after.command.AwaitsTimeout := by
  intro parked
  rcases move.handingOff parked with waited | ⟨unclaimed, same⟩
  · have waits := awaits waited
    cases op with
    | submit notStarted => simp [(stage.isIdle notStarted).work] at waited
    | handOff =>
        have handed := before.handOff_cases
        generalize before.handOff = after at handed parked ⊢
        cases handed with
        | skipped => exact waits
        | taken pool held work => cases parked
        | refused pool held work unclaimed => simp [reject] at parked
        | dropped pool held work claimed => cases parked
    | pickUp queued => simp [queued] at waited
    | workReturned result =>
        have idle : before.workReturned result = before := by
          simp [Call.workReturned, waited]
        rw [idle]
        exact waits
    | fallbackReturned result =>
        rw [timeout_fallbackReturned]
        exact waits
    | timeoutFired armed =>
        rcases before.timeout_timedOut with same | timedOut
        · rw [same]
          exact waits
        · simp [timedOut]
    | cancel active returned =>
        simp [Command.hasReturned, Command.occupiesCaller, waited] at returned
  · simp [same, unclaimed]

end Call

end Breakwater
