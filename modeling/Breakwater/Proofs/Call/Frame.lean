import Breakwater.Proofs.Call.Parts

/-! The frame of a call: what no piece of a command's way changes, from the submission to the
end, but for the hand-over to the pool.
-/

namespace Breakwater.Call

variable {α : Type} (call : Call α)

/-- The number of the command, the time, and the frame of the dependency. -/
def frame : Nat × Nat × Frame α := (call.number, call.now, call.dependency.frame)

/-- A change of the dependency that leaves its frame leaves the frame of the call. -/
theorem frame_mapDependency {change : Dependency α → Dependency α}
    (same : (change call.dependency).frame = call.dependency.frame)
    : (call.mapDependency change).frame = call.frame := by
  simp [frame, same]

/-- A change of the command keeps the frame, which is read off the dependency. -/
@[simp]
theorem frame_mapCommand (change : Command α → Command α)
    : (call.mapCommand change).frame = call.frame := rfl

/-- A change of the record keeps the frame. -/
@[simp]
theorem frame_mapRecord (change : ExecutionRecord → ExecutionRecord)
    : (call.mapRecord change).frame = call.frame := rfl

/-- The journal is no part of the frame. -/
@[simp]
theorem frame_note (notice : Notice) : (call.note notice).frame = call.frame := rfl

/-- The timer is shared with other dependencies, and no part of the frame. -/
@[simp]
theorem frame_setTimer (timer : Timer CommandRef) : (call.setTimer timer).frame = call.frame := rfl

/-- Disarming the timeout of a command touches the shared timer only. -/
@[simp]
theorem frame_cancelTimer : call.cancelTimer.frame = call.frame := by simp [frame]

/-- Counting a command as running touches the metrics only. -/
@[simp]
theorem frame_takeGauge : call.takeGauge.frame = call.frame := rfl

/-- Counting a command no more touches the metrics at most. -/
@[simp]
theorem frame_releaseGauge : call.releaseGauge.frame = call.frame := by
  simp only [releaseGauge]
  split <;> rfl

/-- A worker that becomes idle leaves the queue of its pool as it is. -/
@[simp]
theorem frame_releaseWorker : call.releaseWorker.frame = call.frame := by
  refine frame_mapDependency call ?_
  have waiting : (call.dependency.pool.map WorkerPool.finish).map (·.queue)
      = call.dependency.pool.map (·.queue) := by
    rw [Option.map_map]
    rfl
  simp only [Dependency.frame, Dependency.waiting, waiting]
  rfl

/-- The end of a command keeps the frame, as what a closed dependency differs in is no part of it.
-/
@[simp]
theorem frame_finish (outcome : Outcome α) : (call.finish outcome).frame = call.frame := by
  simp only [frame, number_finish, now_finish, dependency_finish]
  split <;> simp

/-- Giving back all that a command holds keeps the frame. -/
@[simp]
theorem frame_cleanup (threadState : ThreadState)
    : (call.cleanup threadState).frame = call.frame := by
  simp [frame]

/-- Failing keeps the frame, whether the fallback is started, gets no place or does not exist. -/
@[simp]
theorem frame_failToFallback (runner : Runner) (cause : CommandError)
    : (call.failToFallback runner cause).frame = call.frame := by
  rw [failToFallback]
  dsimp only
  split
  · simp
  · split
    · split
      · rfl
      · simp
    · simp

/-- Telling the circuit of a success keeps the frame, even if the circuit closes. -/
@[simp]
theorem frame_markSuccess (now : Nat)
    : (call.mapDependency (·.markSuccess now)).frame = call.frame :=
  call.frame_mapDependency (Dependency.frame_markSuccess _ _)

/-- Telling the circuit of any other end keeps the frame. -/
@[simp]
theorem frame_markNonSuccess
    : (call.mapDependency Dependency.markNonSuccess).frame = call.frame :=
  call.frame_mapDependency (Dependency.frame_markNonSuccess _)

/-- Turning a command away is to fail it with a tag, and keeps the frame. -/
@[simp]
theorem frame_reject (runner : Runner) (isolation : Isolation)
    : (call.reject runner isolation).frame = call.frame := by
  simp [reject]

/-- Arming the timeout keeps the frame, with a timer that runs or one that is shut down. -/
@[simp]
theorem frame_beginInvocation : call.beginInvocation.frame = call.frame := by
  rw [beginInvocation]
  dsimp only
  split
  · simp
  · split <;> simp

/-- Claiming the thread keeps the frame. -/
@[simp]
theorem frame_enterWorker : call.enterWorker.frame = call.frame := by
  simp only [enterWorker]
  split <;> simp

/-- Starting the work keeps the frame, and so does finding that the timeout has claimed it. -/
@[simp]
theorem frame_startWork (runner : Runner) : (call.startWork runner).frame = call.frame := by
  rw [startWork]
  dsimp only
  split <;> split <;> simp

/-- A command that the circuit turns away keeps the frame. -/
@[simp]
theorem frame_shortCircuit : call.shortCircuit.frame = call.frame := by simp [shortCircuit]

/-- The semaphore admits or turns away a command without touching the frame. -/
@[simp]
theorem frame_admitBySemaphore : call.admitBySemaphore.frame = call.frame := by
  simp only [admitBySemaphore]
  split
  · simp
  · rw [frame_startWork, frame_beginInvocation, frame_mapCommand]
    rfl

/-- A look at the queue of the pool does not change it, so the frame is kept. -/
@[simp]
theorem frame_admitByPool (pool : WorkerPool Nat) : (call.admitByPool pool).frame = call.frame := by
  simp only [admitByPool]
  split <;> simp

/-- The circuit, which is asked first, is no part of the frame. -/
@[simp]
theorem frame_asked : call.asked.frame = call.frame :=
  frame_mapDependency _ (Dependency.frame_allowRequest _ _)

/-- A submission keeps the frame in each of its three outcomes. -/
@[simp]
theorem frame_submit : call.submit.frame = call.frame := by
  have submitted := call.submit_cases
  generalize call.submit = after at submitted ⊢
  cases submitted with
  | turnedAway denied => simp
  | atSemaphore allowed noPool => simp
  | atPool pool allowed held => simp

/-- What becomes of the work keeps the frame: a success, a failure or a bad request. -/
@[simp]
theorem frame_settle (runner : Runner) (latency : Nat) (result : Except WorkError α)
    : (call.settle runner latency result).frame = call.frame := by
  unfold settle
  split
  · simp [succeed]
  · split <;> simp [failAsFailure, failAsBadRequest]

/-- The return of the work keeps the frame, claimed or late, on either thread. -/
@[simp]
theorem frame_workReturned (result : Except WorkError α)
    : (call.workReturned result).frame = call.frame := by
  rw [workReturned]
  split
  · dsimp only
    split <;> split <;> simp
  · rfl

/-- The return of a fallback keeps the frame, as the place it gives back is no part of it. -/
@[simp]
theorem frame_fallbackReturned (result : Except WorkError α)
    : (call.fallbackReturned result).frame = call.frame := by
  rw [fallbackReturned]
  split
  · dsimp only
    have given (after : Call α)
        : (after.mapDependency fun dependency =>
            { dependency with
              fallbackSemaphore := dependency.fallbackSemaphore.giveBack }).frame
          = after.frame := rfl
    split <;> split <;> simp [given]
  · rfl

/-- A timeout keeps the frame, whether it claims the command or comes too late. -/
@[simp]
theorem frame_timedOut : call.timedOut.frame = call.frame := by
  simp only [timedOut]
  split <;> simp

/-- A cancellation keeps the frame. -/
@[simp]
theorem frame_abandon : call.abandon.frame = call.frame := by
  simp [abandon]

end Breakwater.Call
