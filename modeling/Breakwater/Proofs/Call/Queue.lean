import Breakwater.Proofs.Call.Admission
import Breakwater.Proofs.Call.Ending

/-! The place of a command in the queue of the pool: only the hand-over gives it one, and nothing
but a worker that picks the command up takes it away.
-/

namespace Breakwater.Call

variable {α : Type} (call : Call α)

-----------------------------------------------------------------------------------------
-- Work that is left where it is
-----------------------------------------------------------------------------------------

@[simp]
theorem work_finish (outcome : Outcome α)
    : (call.finish outcome).command.work = call.command.work := by
  rw [command_finish]
  split <;> rfl

@[simp]
theorem work_failToFallback (runner : Runner) (cause : CommandError)
    : (call.failToFallback runner cause).command.work = call.command.work := by
  rw [failToFallback]
  dsimp only
  split
  · rw [work_finish]
    rfl
  · split
    · split
      · rfl
      · rw [work_finish]
        rfl
    · rw [work_finish]
      rfl

theorem work_fallbackReturned (result : Except WorkError α)
    : (call.fallbackReturned result).command.work = call.command.work := by
  rw [fallbackReturned]
  split
  · dsimp only
    split <;> split <;> simp [releaseWorker]
  · rfl

theorem work_timedOut : call.timedOut.command.work = call.command.work := by
  simp only [timedOut]
  split <;> simp

theorem work_abandon : call.abandon.command.work = call.command.work := by
  simp [abandon, Command.cleaned]

/-- A command that the pool refuses has no work left to do. -/
theorem work_handOff_of_refused {call : Call α} {pool : WorkerPool Nat} {refusal : PoolRefusal}
    (held : call.dependency.pool = some pool) (parked : call.command.work = .handingOff)
    (refused : pool.refusal? = some refusal) : call.handOff.command.work = .over := by
  simp only [handOff, parked, held, WorkerPool.submit_of_refused refused]
  split
  · rw [reject, work_failToFallback, command_mapDependency, command_mapRecord, command_cancelTimer]
    rfl
  · rfl

-----------------------------------------------------------------------------------------
-- Places in the queue
-----------------------------------------------------------------------------------------

/-- What became of the command's place in the queue: it stays as it is, or is a new one. -/
inductive Queues (before after : Call α) : Prop
  | stays (waiting : after.dependency.waiting = before.dependency.waiting)
    (work
      : before.command.work = .queued → before.number ∈ before.dependency.waiting
        → after.command.work = .queued)
  | joins (waiting : after.dependency.waiting = before.dependency.waiting ++ [before.number])
    (free : before.command.work ≠ .queued) (work : after.command.work = .queued)

theorem Queues.of_frame {before after : Call α} (frame : after.frame = before.frame)
    (work : before.command.work = .queued → after.command.work = .queued)
    : Queues before after :=
  .stays (congrArg (·.2.2.waiting) frame) (fun queued _ => work queued)

theorem submit_queues (before : Call α) (idle : before.command.Idle)
    : Queues before before.submit :=
  .of_frame before.frame_submit (fun queued => by simp [idle.work] at queued)

theorem handOff_queues (before : Call α) : Queues before before.handOff := by
  have handed := before.handOff_cases
  generalize before.handOff = after at handed ⊢
  cases handed with
  | skipped => exact .of_frame rfl id
  | taken pool held work =>
      refine .joins ?_ (by simp [work]) rfl
      simp only [Dependency.waiting, held]
      rfl
  | refused pool held work unclaimed =>
      refine .of_frame ?_ (by simp [work])
      rw [frame_reject, frame_cancelTimer, frame_mapCommand, frame_setPool_refused before held]
  | dropped pool held work claimed =>
      refine .of_frame ?_ (by simp [work])
      rw [frame_mapCommand, frame_setPool_refused before held]

theorem workReturned_queues (before : Call α) (result : Except WorkError α)
    : Queues before (before.workReturned result) := by
  refine .of_frame (before.frame_workReturned result) (fun queued => ?_)
  simp [workReturned, queued]

theorem fallbackReturned_queues (before : Call α) (result : Except WorkError α)
    : Queues before (before.fallbackReturned result) :=
  .of_frame (before.frame_fallbackReturned result) (before.work_fallbackReturned result).trans

theorem timedOut_queues (before : Call α) : Queues before before.timedOut :=
  .of_frame before.frame_timedOut before.work_timedOut.trans

theorem abandon_queues (before : Call α) : Queues before before.abandon :=
  .of_frame before.frame_abandon before.work_abandon.trans

/-- A command that a worker picks up has no place in the queue any more. -/
theorem startWork_queues {before : Call α} {runner : Runner}
    (taken : before.number ∉ before.dependency.waiting)
    : Queues before (before.startWork runner) :=
  .stays (congrArg (·.2.2.waiting) (before.frame_startWork runner))
    (fun _ waits => absurd waits taken)

end Breakwater.Call
