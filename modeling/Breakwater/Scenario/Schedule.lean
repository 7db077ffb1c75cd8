import Breakwater.Scenario.World

/-!
Who runs when. User code on the caller's and on the timer's thread runs at once, and takes
steps of its own; pool workers run until they are idle or wait at a gate; timeouts fire only
when a step says so.
-/

namespace Breakwater.Scenario

/-- Steps taken inside user code. -/
abbrev Nested := List Step → Run (List StepAnswer)

/-- Longest timeout, in milliseconds, that fires when a scenario lets timeouts fire. -/
def shortTimeout : Nat := 20

/-- Run user code on a thread that takes its steps. -/
def runScript (nested : Nested) (script : Script) : Run (Except WorkError Int) := do
  pass script.advance
  unless script.during.isEmpty do
    record (.during (← nested script.during))
  pass script.advanceAfter
  return script.result

/-- Run the fallback of a command if it was started on the given thread. -/
def runFallback (nested : Nested) (runner : Runner) (ref : CommandRef) : Run Unit := do
  let some command ← commandAt? ref | return
  let .running _ started := command.fallback | return
  if started = runner then
    let job ← jobOf ref
    let result ← runScript nested (job.fallback.getD .idle)
    changeDependency ref.dependency (·.fallbackReturned ref.command result)

/-- Run the work of a command and then its fallback, if they were started on the caller's
thread.
-/
def runOnCaller (nested : Nested) (ref : CommandRef) : Run Unit := do
  let some command ← commandAt? ref | return
  if let .running _ .caller := command.work then
    let job ← jobOf ref
    let result ← runScript nested job.work
    changeDependency ref.dependency (·.workReturned ref.command result)
  runFallback nested .caller ref

/-! ### Pool workers -/

/-- Arrive at a gate; answers whether to wait there. -/
def reachGate (ref : CommandRef) (label : String) (stage : Stage) : Run Bool := do
  let world ← get
  match world.gates.findIdx? (fun gate => gate.label = label ∧ gate.stage = stage) with
  | none =>
      let gate : Gate := ⟨label, stage, ref.dependency, false, [ref]⟩
      set { world with gates := world.gates ++ [gate] }
      return true
  | some index =>
      let waits := !((world.gates[index]?.map (·.isOpen)).getD true)
      if waits then
        set { world with gates := world.gates.modify index fun gate =>
          { gate with parked := gate.parked ++ [ref] } }
      return waits

/-- End the fallback of a command on its worker. -/
def endFallback (ref : CommandRef) : Run Unit := do
  let script := (← jobOf ref).fallback.getD .idle
  pass script.advanceAfter
  changeDependency ref.dependency (·.fallbackReturned ref.command script.result)

/-- Run the fallback of a command on its worker up to its gate. -/
def beginFallback (ref : CommandRef) : Run Unit := do
  let some command ← commandAt? ref | return
  if let .running _ .worker := command.fallback then
    let job ← jobOf ref
    let script := job.fallback.getD .idle
    pass script.advance
    if script.gated then
      if ← reachGate ref job.label .fallback then return
    endFallback ref

/-- End the work of a command on its worker, and go on with its fallback. -/
def endWork (ref : CommandRef) : Run Unit := do
  let script := (← jobOf ref).work
  pass script.advanceAfter
  changeDependency ref.dependency (·.workReturned ref.command script.result)
  beginFallback ref

/-- Run the work of a command on its worker up to its gate. -/
def beginWork (ref : CommandRef) : Run Unit := do
  let some command ← commandAt? ref | return
  if let .running _ .worker := command.work then
    let job ← jobOf ref
    pass job.work.advance
    if job.work.gated then
      if ← reachGate ref job.label .work then return
    endWork ref

/-- The first dependency, in order, with an idle worker and a command in the queue. -/
def readyDependency? (fleet : Fleet Int) : Option Nat :=
  (List.range fleet.dependencies.length).find? fun id =>
    ((fleet.gateway? id).bind Gateway.pickUp?).isSome

/-- Let an idle worker take the oldest command of its queue. -/
def pickUp (id : Nat) : Run Unit := do
  let number ← atDependency id fun gateway =>
    match gateway.pickUp? with
    | none => (none, gateway)
    | some (number, next) => (some number, next)
  if let some (some number) := number then beginWork ⟨id, number⟩

/-- Let workers take commands, at most the given number. -/
def settleUpTo : Nat → Run Unit
  | 0 => return
  | count + 1 => do
      if let some id := readyDependency? (← get).fleet then
        pickUp id
        settleUpTo count

/-- Commands in the queues of all pools. -/
def queuedCount (fleet : Fleet Int) : Nat :=
  fleet.dependencies.foldl (fun count dependency =>
    count + (dependency.pool.map (·.queue.length)).getD 0) 0

/-- Let workers take commands until every worker is busy or its queue is empty. User code on a
worker takes no steps, so that no command is queued meanwhile.
-/
def settle : Run Unit := do
  settleUpTo (queuedCount (← get).fleet)

/-! ### Gates -/

/-- Let a command go on that waited at a gate. -/
def resume (stage : Stage) (ref : CommandRef) : Run Unit :=
  match stage with
  | .work => endWork ref
  | .fallback => endFallback ref

/-- Open a gate; answers whether someone waited there. -/
def openGateAt (index : Nat) : Run Bool := do
  let world ← get
  match world.gates[index]? with
  | none => return false
  | some gate =>
      set { world with gates := world.gates.set index { gate with isOpen := true, parked := [] } }
      gate.parked.forM (resume gate.stage)
      settle
      return !gate.parked.isEmpty

/-- Open a gate that was reached. -/
def openGate (label : String) (stage : Stage) : Run (Option Bool) := do
  match (← get).gates.findIdx? (fun gate => gate.label = label ∧ gate.stage = stage) with
  | none => return none
  | some index => return some (← openGateAt index)

/-- Open the gates of a dependency that are closed, oldest first, at most the given number. -/
def openGatesUpTo (dependency : Nat) : Nat → Run Unit
  | 0 => return
  | count + 1 => do
      let gates := (← get).gates
      if let some index :=
          gates.findIdx? (fun gate => gate.dependency = dependency ∧ !gate.isOpen) then
        let _ ← openGateAt index
        openGatesUpTo dependency count

/-- Open all gates of a dependency, those included that are only reached meanwhile: each of its
commands can reach two.
-/
def openGates (id : Nat) : Run Unit := do
  if let some dependency ← dependency? id then
    openGatesUpTo id (2 * dependency.commands.length)

/-! ### Submissions -/

/-- Submit a command and let everyone run who then can. -/
def submit (nested : Nested) (ref : CommandRef) : Run (Except CommandError Unit) := do
  let answer ← atDependency ref.dependency (·.submit ref.command)
  match answer with
  | none => return .ok ()
  | some (.error error) => return .error error
  | some (.ok ()) =>
      runOnCaller nested ref
      changeDependency ref.dependency (·.handOff ref.command)
      runOnCaller nested ref
      settle
      return .ok ()

/-- Create a command with its user code. -/
def createCommand (dependency : Nat) (label : String) (work : Script) (fallback : Option Script)
    : Run (Option CommandRef) := do
  match ← atDependency dependency (·.create fallback.isSome) with
  | none => return none
  | some number =>
      let ref : CommandRef := ⟨dependency, number⟩
      modify fun world => { world with jobs := ⟨ref, label, work, fallback⟩ :: world.jobs }
      return some ref

/-! ### Timeouts -/

/-- Commands whose timeout is armed with a timer and short, in order of registering. -/
def shortTimeouts (fleet : Fleet Int) (timer : Timer CommandRef) : List CommandRef :=
  timer.armed.filter fun ref =>
    match fleet.dependencies[ref.dependency]? with
    | some dependency => dependency.config.executionTimeout ≤ shortTimeout
    | none => false

/-- Let the short timeouts of one timer fire, each to the end of its command's fallback. While it
does so, the timer has one registration more: the one at which it stops.
-/
def fireTimer (nested : Nested) (index : Nat) : Run Unit := do
  let world ← get
  let some timer := world.fleet.timers[index]? | return
  let .ok (stop, running) := timer.register ⟨world.fleet.dependencies.length, 0⟩ 0 | return
  set { world with fleet := { world.fleet with timers := world.fleet.timers.set index running } }
  (shortTimeouts world.fleet timer).forM fun ref => do
    changeDependency ref.dependency (·.timeoutFired ref.command)
    runFallback nested .timer ref
  modify fun world => { world with fleet := { world.fleet with
    timers := world.fleet.timers.modify index fun timer => (timer.cancel stop).2 } }

/-- Let the short timeouts of all timers fire, timer by timer. -/
def fire (nested : Nested) : Run Unit := do
  (List.range (← get).fleet.timers.length).forM (fireTimer nested)
  settle

end Breakwater.Scenario
