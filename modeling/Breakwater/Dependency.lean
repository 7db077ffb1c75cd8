import Breakwater.Breaker
import Breakwater.Classifier
import Breakwater.Command
import Breakwater.Config.Validation
import Breakwater.WorkerPool

/-!
A dependency holds all that its commands share: the settings, the circuit with its metrics,
the semaphores and the pool, and the commands themselves.
-/

namespace Breakwater

/-- A command among those of all dependencies. -/
structure CommandRef where
  dependency : Nat
  command : Nat
  deriving DecidableEq, Repr, Inhabited

/-- What the commands of a dependency did, as its surroundings learn of it. -/
inductive Notice where
  | workStarted (command : Nat)
  | fallbackStarted (command : Nat) (cause : CommandError)
  | circuit (transition : Transition)
  | finished (command : Nat) (event : CompletionEvent)
  deriving DecidableEq, Repr

/-- The two semaphores of a dependency. -/
inductive Bulkhead where
  | main
  | fallback
  deriving DecidableEq, Repr, Inhabited

/-- A permit that is held outside of any command. -/
structure OutsidePermit where
  bulkhead : Bulkhead
  permit : Permit
  deriving DecidableEq, Repr, Inhabited

/-- A dependency with commands that answer values of type `α`. -/
structure Dependency (α : Type) where
  /-- Number of the dependency among those on the same clock. -/
  id : Nat
  key : String
  config : CommandConfig
  classifier : Classifier
  circuit : Breaker Metrics
  semaphore : Semaphore
  fallbackSemaphore : Semaphore
  pool : Option (WorkerPool Nat)
  /-- Number of the timer that the commands' timeouts are registered with. -/
  timer : Nat
  commands : List (Command α)
  outside : List OutsidePermit
  /-- What happened so far, the latest first. -/
  journal : List Notice

/-- Why a dependency was not built. -/
inductive BuildFault where
  | refused (error : BuildError)
  | argument (error : ArgumentError)
  deriving DecidableEq, Repr

/-- What a dependency is to be built from. -/
structure DependencyBuilder where
  key : String
  config : CommandConfig := {}
  classifier : Classifier := .default
  listeners : Listeners := {}
  /-- Whether the metrics are to be pumped in the background, if that was said. -/
  driven : Option Bool := none

namespace DependencyBuilder

variable {α : Type}

/-- The parts of a dependency, put together without looking at the settings as a whole. -/
def assemble (builder : DependencyBuilder) (id timer now : Nat)
    : Except ArgumentError (Dependency α) := do
  let metrics ← Metrics.create builder.key builder.config.metrics now
  let semaphore ← Semaphore.create builder.key builder.config.maxConcurrent
  let fallbackSemaphore ←
    Semaphore.create s!"{builder.key}-fallback" builder.config.fallbackMaxConcurrent
  let pool := match builder.config.isolation with
    | .semaphore => none
    | .threadPool => some (WorkerPool.create builder.key builder.config.pool)
  return {
    id, timer, semaphore, fallbackSemaphore, pool
    key := builder.key
    config := builder.config
    classifier := builder.classifier
    circuit := Breaker.create builder.key builder.config.breaker builder.listeners metrics
    commands := []
    outside := []
    journal := []
  }

/-- Check the settings and build the dependency. -/
def build (builder : DependencyBuilder) (id timer now : Nat) : Except BuildFault (Dependency α) :=
  match builder.config.validate with
  | .error error => .error (.refused (.config error))
  | .ok () =>
      match builder.assemble id timer now with
      | .error error => .error (.argument error)
      | .ok dependency => .ok dependency

def describe (builder : DependencyBuilder) : String :=
  Text.record "DependencyBuilder" [
    ("key", Text.quoted builder.key),
    ("config", builder.config.describe),
    ("callbacks", builder.listeners.describe),
    ("drive_metrics", Text.optional toString builder.driven)
  ]

end DependencyBuilder

namespace Dependency

variable {α : Type}

def metrics (dependency : Dependency α) : Metrics := dependency.circuit.source

def mapMetrics (dependency : Dependency α) (change : Metrics → Metrics) : Dependency α :=
  { dependency with circuit := { dependency.circuit with source := change dependency.metrics } }

/-- The jitter of the circuit draws another sleep window. -/
def drawWindow (dependency : Dependency α) (millis : Nat) : Dependency α :=
  { dependency with circuit := dependency.circuit.draw millis }

/-- Write a notice into the journal. -/
def note (dependency : Dependency α) (notice : Notice) : Dependency α :=
  { dependency with journal := notice :: dependency.journal }

/-- Write the reports of the circuit into the journal, in order. -/
def noteAll (dependency : Dependency α) (reports : List Transition) : Dependency α :=
  reports.foldl (fun noted report => noted.note (.circuit report)) dependency

/-- Notices written since the journal had the given length, in order. -/
def noticesSince (dependency : Dependency α) (length : Nat) : List Notice :=
  (dependency.journal.take (dependency.journal.length - length)).reverse

/-- Add a command that is not submitted yet. -/
def addCommand (dependency : Dependency α) (hasFallback : Bool) : Nat × Dependency α :=
  (dependency.commands.length,
    { dependency with commands := dependency.commands ++ [.create hasFallback] })

/-- Ask the circuit to let a request pass. -/
def allowRequest (dependency : Dependency α) (now : Nat) : Bool × Dependency α :=
  let (allowed, circuit, reports) := dependency.circuit.allowRequest now
  (allowed, { dependency with circuit }.noteAll reports)

def isCircuitOpen (dependency : Dependency α) (now : Nat) : Bool × Dependency α :=
  let (tripped, circuit, reports) := dependency.circuit.isOpen now
  (tripped, { dependency with circuit }.noteAll reports)

def allowSingleTest (dependency : Dependency α) (now : Nat) : Bool × Dependency α :=
  let (admitted, circuit, reports) := dependency.circuit.allowSingleTest now
  (admitted, { dependency with circuit }.noteAll reports)

/-- Tell the circuit of a success. -/
def markSuccess (dependency : Dependency α) (now : Nat) : Dependency α :=
  let (circuit, reports) := dependency.circuit.markSuccess now
  { dependency with circuit }.noteAll reports

/-- Tell the circuit of an end that was no success. -/
def markNonSuccess (dependency : Dependency α) : Dependency α :=
  { dependency with circuit := dependency.circuit.markNonSuccess }

/-- The semaphore of a bulkhead. -/
def semaphoreOf (dependency : Dependency α) : Bulkhead → Semaphore
  | .main => dependency.semaphore
  | .fallback => dependency.fallbackSemaphore

def setSemaphore (dependency : Dependency α) (bulkhead : Bulkhead) (semaphore : Semaphore)
    : Dependency α :=
  match bulkhead with
  | .main => { dependency with semaphore }
  | .fallback => { dependency with fallbackSemaphore := semaphore }

/-- Take a permit that no command holds; answers its number. -/
def acquireOutside (dependency : Dependency α) (bulkhead : Bulkhead)
    : Option Nat × Dependency α :=
  match (dependency.semaphoreOf bulkhead).tryAcquire with
  | none => (none, dependency)
  | some (permit, semaphore) =>
      let taken := dependency.setSemaphore bulkhead semaphore
      (some taken.outside.length,
        { taken with outside := taken.outside ++ [⟨bulkhead, permit⟩] })

/-- Give a permit back that no command holds. -/
def releaseOutside (dependency : Dependency α) (number : Nat) : Dependency α :=
  match dependency.outside[number]? with
  | none => dependency
  | some held =>
      let (permit, semaphore) := (dependency.semaphoreOf held.bulkhead).release held.permit
      let released := dependency.setSemaphore held.bulkhead semaphore
      { released with outside := released.outside.set number ⟨held.bulkhead, permit⟩ }

/-- Take no more work into the pool. -/
def shutdown (dependency : Dependency α) : Dependency α :=
  { dependency with pool := dependency.pool.map WorkerPool.shutdown }

def describe (dependency : Dependency α) : String :=
  Text.record "Dependency" [
    ("key", Text.quoted dependency.key),
    ("config", dependency.config.describe),
    ("breaker", dependency.circuit.describe),
    ("metrics", dependency.metrics.describe),
    ("pool", Text.optional WorkerPool.describe dependency.pool),
    ("classifier", dependency.classifier.name)
  ]

end Dependency

end Breakwater
