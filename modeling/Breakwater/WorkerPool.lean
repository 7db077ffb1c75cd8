import Breakwater.Config

/-!
A pool of workers that drain a bounded channel. A task is taken only if a worker is idle or the
queue has room: a place is reserved for it before it is sent, and given back when it has ended.
Workers take the tasks in the order in which they were accepted.
-/

namespace Breakwater

/-- Why a pool refused a task. -/
inductive PoolRefusal where
  | saturated (pool : String)
  | queueThreshold (pool : String) (threshold : Nat)
  | shutdown (pool : String)
  deriving DecidableEq, Repr, Inhabited

namespace PoolRefusal

def message : PoolRefusal → String
  | saturated pool => s!"thread pool '{pool}' is at capacity"
  | queueThreshold pool threshold =>
      s!"thread pool '{pool}' queue reached its rejection threshold ({threshold})"
  | shutdown pool => s!"thread pool '{pool}' is shut down"

/-- Name of the case. -/
def caseName : PoolRefusal → String
  | saturated _ => "Saturated"
  | queueThreshold _ _ => "QueueThreshold"
  | shutdown _ => "Shutdown"

end PoolRefusal

/-- A bounded queue between the callers of a pool and its workers. -/
structure TaskChannel (τ : Type) where
  /-- Most tasks that can wait. -/
  room : Nat
  /-- Workers that hold the receiving end. -/
  receivers : Nat
  /-- Tasks sent and not received, oldest first. -/
  tasks : List τ
  deriving DecidableEq, Repr, Inhabited

namespace TaskChannel

variable {τ : Type}

/-- Send a task without waiting. That fails without any receiver or if the room is taken. -/
def trySend? (channel : TaskChannel τ) (task : τ) : Option (TaskChannel τ) :=
  if channel.receivers = 0 then none
  else if channel.room ≤ channel.tasks.length then none
  else some { channel with tasks := channel.tasks ++ [task] }

/-- Receive the oldest task, if there is one. -/
def receive? (channel : TaskChannel τ) : Option (τ × TaskChannel τ) :=
  match channel.tasks with
  | [] => none
  | task :: tasks => some (task, { channel with tasks })

end TaskChannel

/-- One more than the largest size of anything; sums of sizes start again at zero there. -/
def sizeLimit : Nat := 0x10000000000000000

/-- Most tasks that a pool can have taken and not ended. The two sizes are added as sizes are, so
that the sum can start again at zero; a build that checks its additions stops there instead.
-/
def PoolConfig.capacity (config : PoolConfig) : Nat :=
  (config.coreSize + config.maxQueueSize) % sizeLimit

/-- A pool with tasks of type `τ`. -/
structure WorkerPool (τ : Type) where
  name : String
  config : PoolConfig
  /-- Whether the sending end of the channel is gone. -/
  isShutdown : Bool
  channel : TaskChannel τ
  /-- Workers that wait for a task. -/
  idle : Nat
  /-- Places reserved for tasks that have not ended. -/
  outstanding : Nat
  /-- Tasks that a worker has begun and not ended. -/
  active : Nat
  completed : Nat
  rejected : Nat
  deriving DecidableEq, Repr, Inhabited

/-- Counters of a pool. -/
structure PoolStats where
  coreSize : Nat
  active : Nat
  queued : Nat
  completed : Nat
  rejected : Nat
  deriving DecidableEq, Repr, Inhabited

namespace WorkerPool

variable {τ : Type}

/-- A pool with all workers idle. Its channel has room for all that can be outstanding. -/
def create (name : String) (config : PoolConfig) : WorkerPool τ where
  name
  config
  isShutdown := false
  channel := ⟨max config.capacity 1, config.coreSize, []⟩
  idle := config.coreSize
  outstanding := 0
  active := 0
  completed := 0
  rejected := 0

/-- Tasks accepted and not begun, oldest first. -/
def queue (pool : WorkerPool τ) : List τ := pool.channel.tasks

/-- Number of tasks waiting for a worker, by the counters. -/
def queueSize (pool : WorkerPool τ) : Nat := pool.outstanding - pool.active

/-- Whether the queue is below its rejection threshold. A pool without a queue has none. -/
def isQueueSpaceAvailable (pool : WorkerPool τ) : Bool :=
  pool.config.maxQueueSize == 0 || pool.queueSize < pool.config.queueRejectionThreshold

/-- Turn a task away and count that. -/
def reject (pool : WorkerPool τ) (refusal : PoolRefusal)
    : Except PoolRefusal Unit × WorkerPool τ :=
  (.error refusal, { pool with rejected := pool.rejected + 1 })

/-- Reserve a place for a task if one is left. -/
def reserve? (pool : WorkerPool τ) : Option (WorkerPool τ) :=
  if pool.outstanding < pool.config.capacity then
    some { pool with outstanding := pool.outstanding + 1 }
  else none

/-- Give a reserved place back. -/
def giveBack (pool : WorkerPool τ) : WorkerPool τ :=
  { pool with outstanding := pool.outstanding - 1 }

/-- Hand a task to the pool, which takes it or counts the refusal. A place that was reserved is
given back if the channel does not take the task.
-/
def submit (pool : WorkerPool τ) (task : τ) : Except PoolRefusal Unit × WorkerPool τ :=
  if pool.isShutdown then pool.reject (.shutdown pool.name)
  else if !pool.isQueueSpaceAvailable then
    pool.reject (.queueThreshold pool.name pool.config.queueRejectionThreshold)
  else
    match pool.reserve? with
    | none => pool.reject (.saturated pool.name)
    | some reserved =>
        match reserved.channel.trySend? task with
        | some channel => (.ok (), { reserved with channel })
        | none => reserved.giveBack.reject (.shutdown pool.name)

/-- An idle worker receives the oldest task. -/
def pickUp? (pool : WorkerPool τ) : Option (τ × WorkerPool τ) :=
  match pool.idle with
  | 0 => none
  | idle + 1 =>
      pool.channel.receive?.map fun (task, channel) =>
        (task, { pool with channel, idle, active := pool.active + 1 })

/-- A worker has ended its task, however that went, and waits for the next one. -/
def finish (pool : WorkerPool τ) : WorkerPool τ :=
  { pool.giveBack with
    active := pool.active - 1, completed := pool.completed + 1, idle := pool.idle + 1 }

/-- Take no more tasks; those accepted are still run. -/
def shutdown (pool : WorkerPool τ) : WorkerPool τ := { pool with isShutdown := true }

def stats (pool : WorkerPool τ) : PoolStats where
  coreSize := pool.config.coreSize
  active := pool.active
  queued := pool.queueSize
  completed := pool.completed
  rejected := pool.rejected

def describe (pool : WorkerPool τ) : String :=
  Text.record "ThreadPool" [
    ("name", Text.quoted pool.name),
    ("config", pool.config.describe),
    ("stats", Text.record "ThreadPoolStats" [
      ("core_size", toString pool.config.coreSize),
      ("active_count", toString pool.active),
      ("queue_size", toString pool.queueSize),
      ("completed_task_count", toString pool.completed),
      ("rejected_task_count", toString pool.rejected)])
  ]

end WorkerPool

end Breakwater
