import Breakwater.WorkerPool

/-!
Scenarios for a single pool. Its tasks can wait at gates, panic, or stop the pool they run on;
between two steps every idle worker has taken what the queue holds.
-/

namespace Breakwater.Scenario

/-- A task of a pool scenario. -/
structure PoolTask where
  label : String
  /-- Whether the task waits until its gate is opened. -/
  gated : Bool
  panics : Bool
  /-- Whether the task stops the pool it runs on. -/
  stopsPool : Bool
  deriving DecidableEq, Repr, Inhabited

/-- One step of a pool scenario. -/
inductive PoolAction where
  | execute (task : PoolTask)
  | openGate (label : String)
  | shutdown
  | look

/-- A pool with its gates and the tasks that wait there. -/
structure PoolWorld where
  pool : WorkerPool PoolTask
  /-- Gates of the accepted tasks, oldest first, and whether each is open. -/
  gates : List (String × Bool)
  parked : List PoolTask
  /-- What the tasks did in this step, the latest first. -/
  log : List String

/-- The result of one step. -/
inductive PoolResult where
  | nothing
  | accepted
  | refused (refusal : PoolRefusal)
  | opened (waited : Option Bool)
  deriving DecidableEq, Repr

/-- The answer to one step. -/
structure PoolAnswer where
  result : PoolResult
  stats : PoolStats
  hasSpace : Bool
  isDown : Bool
  log : List String
  deriving DecidableEq, Repr

namespace PoolWorld

def create (name : String) (config : PoolConfig) : PoolWorld :=
  ⟨.create name config, [], [], []⟩

/-- End a task on its worker. -/
def endTask (world : PoolWorld) (task : PoolTask) : PoolWorld :=
  { world with
    pool := world.pool.finish
    log := if task.panics then world.log else s!"end {task.label}" :: world.log }

/-- Run a task on its worker up to its gate, and to its end if that is open. -/
def runTask (world : PoolWorld) (task : PoolTask) : PoolWorld :=
  let started := { world with
    pool := if task.stopsPool then world.pool.shutdown else world.pool
    log := s!"start {task.label}" :: world.log }
  if task.gated && (started.gates.lookup task.label) == some false then
    { started with parked := started.parked ++ [task] }
  else started.endTask task

/-- Let idle workers take tasks, at most the given number. -/
def settleUpTo : Nat → PoolWorld → PoolWorld
  | 0, world => world
  | count + 1, world =>
      match world.pool.pickUp? with
      | none => world
      | some (task, pool) => settleUpTo count ({ world with pool }.runTask task)

/-- Let workers take tasks until all are busy or the queue is empty. -/
def settle (world : PoolWorld) : PoolWorld := settleUpTo world.pool.queue.length world

/-- Hand a task to the pool. -/
def execute (world : PoolWorld) (task : PoolTask) : PoolResult × PoolWorld :=
  let (answer, pool) := world.pool.submit task
  match answer with
  | .error refusal => (.refused refusal, { world with pool })
  | .ok () =>
      let gates := if task.gated then world.gates ++ [(task.label, false)] else world.gates
      (.accepted, { world with pool, gates }.settle)

/-- Open a gate; answers whether a task waited there. -/
def openGate (world : PoolWorld) (label : String) : PoolResult × PoolWorld :=
  match world.gates.lookup label with
  | none => (.opened none, world)
  | some _ =>
      let (waiting, others) := world.parked.partition (·.label == label)
      let opened := { world with
        gates := world.gates.map fun gate => if gate.1 == label then (label, true) else gate
        parked := others }
      (.opened (some !waiting.isEmpty), (waiting.foldl endTask opened).settle)

/-- Open all gates, oldest first, and stop the pool. -/
def shutdown (world : PoolWorld) : PoolWorld :=
  let opened := world.gates.foldl (fun world gate => (world.openGate gate.1).2) world
  { opened with pool := opened.pool.shutdown }

def act (world : PoolWorld) : PoolAction → PoolResult × PoolWorld
  | .execute task => world.execute task
  | .openGate label => world.openGate label
  | .shutdown => (.nothing, world.shutdown)
  | .look => (.nothing, world)

/-- Take one step with a log of its own. -/
def takeStep (world : PoolWorld) (action : PoolAction) : PoolAnswer × PoolWorld :=
  let (result, next) := { world with log := [] }.act action
  ({ result
     stats := next.pool.stats
     hasSpace := next.pool.isQueueSpaceAvailable
     isDown := next.pool.isShutdown
     log := next.log.reverse }, next)

end PoolWorld

end Breakwater.Scenario
