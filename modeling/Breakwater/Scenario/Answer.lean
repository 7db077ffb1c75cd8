import Breakwater.Registry

/-!
What a scenario answers step by step.
-/

namespace Breakwater.Scenario

/-- How far a command has come, for those who hold the command itself. -/
structure Progress where
  lifecycle : Lifecycle
  timeout : TimeoutStatus
  threadState : ThreadState
  deriving DecidableEq, Repr

/-- What can be seen of a command. -/
structure CommandReport where
  key : String
  record : ExecutionRecord
  progress : Option Progress
  /-- Whether the outcome was written, for those who hold a handle. -/
  done : Option Bool
  deriving DecidableEq, Repr

/-- What can be seen of a dependency at a glance. -/
structure DependencyStatus where
  circuit : CircuitState
  permits : Nat
  fallbackPermits : Nat
  concurrent : Nat
  pool : Option PoolStats
  timers : Nat
  deriving DecidableEq, Repr

/-- Free places and limit of a semaphore. -/
structure Places where
  free : Nat
  limit : Nat
  deriving DecidableEq, Repr

/-- All that can be seen of a dependency. -/
structure DependencyReport where
  keys : List String
  health : Health
  rolling : Tally
  totals : Tally
  concurrent : Nat
  late : Nat
  dropped : Nat
  circuitClosed : Bool
  sleepWindow : Nat
  main : Places
  fallback : Places
  hasPool : Bool
  now : Nat
  deriving DecidableEq, Repr

/-- All that can be seen of a registry. -/
structure RegistryReport where
  keys : List String
  size : Nat
  isEmpty : Bool
  pending : Nat
  now : Nat
  deriving DecidableEq, Repr

/-- What became of a command that is waited for. -/
inductive Waiting where
  | outcome (outcome : Outcome Int)
  | pending
  | noHandle
  /-- The time ran out first. -/
  | expired
  deriving DecidableEq, Repr

/-- The result of one step. -/
inductive StepResult where
  | nothing
  | flag (value : Bool)
  | number (value : Nat)
  | text (value : Option String)
  | settingsRefused
  | argumentRefused (error : ArgumentError)
  | buildRefused (error : BuildError)
  | built (config : CommandConfig) (description : Option String)
  | created (report : Option CommandReport)
  | command (report : Option CommandReport)
  | submitted (report : Option CommandReport)
  | submissionRefused (error : CommandError) (report : Option CommandReport)
  | launchRefused (error : CommandError)
  | executed (waiting : Waiting) (report : Option CommandReport)
  | waited (waiting : Waiting)
  | cancelled (answer : Bool) (report : Option CommandReport)
  | outcomes (outcomes : List (Outcome Int))
  | state (report : DependencyReport)
  | news (news : Option Metrics.News)
  | registered (identity : Nat) (config : CommandConfig)
  | identity (identity : Option Nat)
  | registry (report : RegistryReport)

mutual

/-- What happened during a step. -/
inductive LogEntry where
  | work (command : String)
  | fallback (command : String) (cause : String)
  | transition (transition : Transition)
  /-- Steps that user code took. -/
  | during (answers : List StepAnswer)

/-- The answer to one step. -/
inductive StepAnswer where
  | mk (result : StepResult) (log : List LogEntry) (status : Option DependencyStatus)

end

instance : Inhabited StepAnswer := ⟨.mk .nothing [] none⟩

end Breakwater.Scenario
