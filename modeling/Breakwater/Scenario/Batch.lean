import Breakwater.Scenario.Run

/-!
A batch of commands, submitted and waited for one after the other, and counted when all of
them have been taken in by the metrics.
-/

namespace Breakwater.Scenario

/-- Commands for one dependency, by the user code of each. -/
structure Batch where
  key : String
  /-- Whether the dependency is one of a registry. -/
  registered : Bool
  /-- Whether the work runs on a pool. -/
  pooled : Bool
  works : List (Script × Option Script)

/-- What is left of a batch. -/
structure BatchReport where
  outcomes : List (Outcome Int)
  totals : Tally
  concurrent : Nat
  late : Nat
  timers : Nat
  completed : Option Nat
  keys : Option (List String)
  deriving DecidableEq, Repr

namespace Batch

/-- Milliseconds of a batch's window. -/
def window : Nat := 100

/-- Workers of a batch's pool. -/
def workers : Nat := 2

/-- Settings without a circuit, and with a short window of two slices. -/
def config (batch : Batch) : CommandConfig where
  isolation := if batch.pooled then .threadPool else .semaphore
  breaker := { enabled := false }
  pool := { coreSize := workers }
  metrics := { rollingWindow := window, sliceCount := 2 }

/-- The dependency that the batch goes to. -/
def prepare (batch : Batch) : Run (Option Nat) := do
  if batch.registered then
    return (← getOrCreate batch.key batch.config).toOption
  else
    match (← get).fleet.build { key := batch.key, config := batch.config } none with
    | .error _ => return none
    | .ok (id, fleet) =>
        modify ({ · with fleet })
        return some id

/-- Submit one command and wait for it. User code of a batch takes no steps, and the metrics take
its completion in at once.
-/
def execute (id : Nat) (key : String) (code : Script × Option Script)
    : Run (Option (Outcome Int)) := do
  let some ref ← createCommand id key code.1 (some (code.2.getD .idle)) | return none
  let _ ← submit (fun _ => return []) ref
  let _ ← atDependency id Gateway.pump
  takeOutcome ref

/-- Run the batch and report once its last slice was closed. -/
def execution (batch : Batch) : Run (Option BatchReport) := do
  let some id ← batch.prepare | return none
  let outcomes ← batch.works.mapM (execute id batch.key)
  pass window
  let _ ← atDependency id Gateway.pump
  let some dependency ← dependency? id | return none
  return some {
    outcomes := outcomes.reduceOption
    totals := dependency.metrics.totalCounts
    concurrent := dependency.metrics.concurrent
    late := dependency.metrics.lateCount
    timers := ← pendingOf dependency.timer
    completed := dependency.pool.map (·.completed)
    keys := (← get).registry.map Registry.keys
  }

/-- Report of a batch that runs in a world of its own. -/
def run (batch : Batch) : Option BatchReport :=
  (batch.execution.run (World.create 0)).1

end Batch

end Breakwater.Scenario
