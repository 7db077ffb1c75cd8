import Breakwater.Scenario.Answer
import Breakwater.Scenario.Names
import Breakwater.Scenario.Script

/-!
The surroundings of a fleet in a scenario: names for what the steps created, the user code of
the commands, the gates at which it waits, and the log of the step being taken.
-/

namespace Breakwater.Scenario

/-- A command with the user code that it runs, under the name that its log entries show. -/
structure Job where
  ref : CommandRef
  label : String
  work : Script
  fallback : Option Script

/-- A command as the steps know it. -/
structure NamedCommand where
  ref : CommandRef
  /-- Whether the command itself is held, and not only its handle. -/
  owned : Bool
  /-- Whether its handle is held. -/
  hasHandle : Bool
  deriving DecidableEq, Repr

/-- A place at which user code on a pool worker waits until someone opens it. -/
structure Gate where
  label : String
  stage : Stage
  dependency : Nat
  isOpen : Bool
  parked : List CommandRef
  deriving DecidableEq, Repr

/-- A fleet with its surroundings. -/
structure World where
  fleet : Fleet Int
  registry : Option Registry
  dependencies : Names Nat
  commands : Names NamedCommand
  jobs : List Job
  /-- The gates that were reached, oldest first. -/
  gates : List Gate
  /-- Permits held outside of commands, by dependency and number. -/
  permits : Names (Nat × Nat)
  subscriptions : Names (Nat × Metrics.Observer)
  /-- Dependencies in order of first sight. -/
  seen : List Nat
  /-- What happened during the step being taken, the latest first. -/
  log : List LogEntry

namespace World

/-- Number of the timer that dependencies share unless they start their own. -/
def sharedTimer : Nat := 0

/-- A fleet without dependencies and with one timer. -/
def create (start : Nat) : World where
  fleet := ((Fleet.create ⟨start⟩).addTimer "shared-timer").2
  registry := none
  dependencies := []
  commands := []
  jobs := []
  gates := []
  permits := []
  subscriptions := []
  seen := []
  log := []

end World

/-- Things done to a world. -/
abbrev Run := StateM World

/-! ### Looking up -/

def dependency? (id : Nat) : Run (Option (Dependency Int)) := do
  return (← get).fleet.dependencies[id]?

def dependencyNamed? (name : String) : Run (Option Nat) := do
  return (← get).dependencies.lookup name

def commandNamed? (name : String) : Run (Option NamedCommand) := do
  return (← get).commands.lookup name

def commandAt? (ref : CommandRef) : Run (Option (Command Int)) := do
  let dependency ← dependency? ref.dependency
  return dependency.bind (·.commands[ref.command]?)

def jobOf (ref : CommandRef) : Run Job := do
  let found := (← get).jobs.find? (fun job => job.ref = ref)
  return found.getD ⟨ref, "", .idle, none⟩

/-- Number of a dependency in order of first sight; it is seen now if it was not before. -/
def identify (id : Nat) : Run Nat := do
  let world ← get
  match world.seen.idxOf? id with
  | some position => return position
  | none =>
      set { world with seen := world.seen ++ [id] }
      return world.seen.length

/-! ### Log -/

/-- Add an entry to the log of the step being taken. -/
def record (entry : LogEntry) : Run Unit :=
  modify fun world => { world with log := entry :: world.log }

/-- Log a notice of a dependency, if it is one that someone hears of. -/
def recordNotice (dependency : Dependency Int) (notice : Notice) : Run Unit := do
  match notice with
  | .workStarted command => record (.work (← jobOf ⟨dependency.id, command⟩).label)
  | .fallbackStarted command cause =>
      record (.fallback (← jobOf ⟨dependency.id, command⟩).label cause.message)
  | .circuit transition =>
      if dependency.circuit.listeners.hears transition.kind then record (.transition transition)
  | .finished _ _ => return

/-! ### Steps of the fleet -/

/-- Take a step at one dependency and log what it notes. -/
def atDependency {β : Type} (id : Nat) (step : Gateway Int → β × Gateway Int)
    : Run (Option β) := do
  let before ← dependency? id
  let (answer, fleet) := (← get).fleet.atDependency id step
  modify ({ · with fleet })
  match before, ← dependency? id with
  | some before, some after =>
      (after.noticesSince before.journal.length).forM (recordNotice after)
      return answer
  | _, _ => return answer

/-- Take a step at one dependency that answers nothing. -/
def changeDependency (id : Nat) (step : Gateway Int → Gateway Int) : Run Unit := do
  let _ ← atDependency id (fun gateway => ((), step gateway))

/-- Let time pass on the clock. -/
def pass (millis : Nat) : Run Unit :=
  modify fun world => { world with fleet := world.fleet.advance millis }

end Breakwater.Scenario
