import Breakwater.Config.Change
import Breakwater.Config.Setting
import Breakwater.Registry
import Breakwater.Scenario.BreakerRun

/-!
Scripts for a fleet: what is done step by step, and what the work and the fallbacks of the
commands do while they run, further steps included.
-/

namespace Breakwater.Scenario

/-- Dependency and command that a step names; a step may leave either out. -/
structure Target where
  dependency : String
  command : String
  deriving DecidableEq, Repr, Inhabited

/-- What a dependency is to be built from. -/
structure BuildPlan where
  key : String
  settings : Setting
  changes : List ConfigChange
  classifier : Classifier
  /-- Whether someone listens to the circuit. -/
  listened : Bool
  /-- Whether the dependency starts a timer of its own. -/
  ownTimer : Bool
  driven : Option Bool
  /-- Whether the builder is to be described. -/
  described : Bool

/-- The two pieces of user code of a command. -/
inductive Stage where
  | work
  | fallback
  deriving DecidableEq, Repr, Inhabited

/-- Things that can be described. -/
inductive Subject where
  | dependency
  | circuit
  | metrics
  | pool
  | registry
  | record
  | command
  | handle
  deriving DecidableEq, Repr, Inhabited

/-- Steps that start no command. -/
inductive Action where
  | build (plan : BuildPlan)
  | advance (millis : Nat)
  | setClock (millis : Nat)
  /-- Pump the metrics; when they are driven, nobody is told how many slices were closed. -/
  | pump (driven : Bool)
  | submitCreated
  | wait
  | waitTimeout
  | cancel
  | inspect
  | openGate (stage : Stage)
  | acquire (bulkhead : Bulkhead) (permit : String)
  | release (permit : String)
  | dropPermit (permit : String)
  | mark (tags : List Tag) (times : Nat)
  | resetHealth
  | breaker (call : BreakerCall)
  | classify (error : WorkError) (millis : Nat)
  | state
  | observe (topic : Metrics.Topic) (subscription : String)
  | drain (subscription : String)
  /-- Let every short timeout that is armed fire. -/
  | fire
  | shutdownTimer
  | shutdown
  | registryGetOrCreate (key : String) (settings : Setting)
  | registryGet (key : String)
  | registryRemove (key : String)
  | registryInfo
  | describe (subject : Subject)

/-- Ways to start a command. -/
inductive Launch where
  | create
  | submit
  | execute
  | repeated (times : Nat)
  | throughDependency
  | throughRegistry (key : String) (settings : Setting)

mutual

/-- What a piece of user code does: let time pass, take further steps unless it runs on a pool
worker, wait at a gate if it does, let time pass again, and end.
-/
inductive Script where
  | mk (advance : Nat) (during : List Step) (gated : Bool) (advanceAfter : Nat)
      (result : Except WorkError Int)

/-- One step of a scenario. -/
inductive Step where
  | act (target : Target) (action : Action)
  | launch (target : Target) (way : Launch) (work : Script) (fallback : Option Script)

end

namespace Script

/-- Milliseconds that pass first. -/
def advance : Script → Nat
  | mk advance _ _ _ _ => advance

/-- Steps taken while the code runs. -/
def during : Script → List Step
  | mk _ during _ _ _ => during

/-- Whether the code waits at a gate on a pool worker. -/
def gated : Script → Bool
  | mk _ _ gated _ _ => gated

/-- Milliseconds that pass last. -/
def advanceAfter : Script → Nat
  | mk _ _ _ advanceAfter _ => advanceAfter

/-- How the code ends. -/
def result : Script → Except WorkError Int
  | mk _ _ _ _ result => result

/-- Code that returns zero at once. -/
def idle : Script := mk 0 [] false 0 (.ok 0)

instance : Inhabited Script := ⟨idle⟩

end Script

instance : Inhabited Step := ⟨.act default .fire⟩

/-- Names that a step gives. -/
def Step.target : Step → Target
  | act target _ | launch target _ _ _ => target

mutual

/-- Steps inside a piece of user code, at any depth. -/
def Script.stepCount : Script → Nat
  | .mk _ during _ _ _ => stepCountAll during

/-- Steps in a step, itself included. -/
def Step.stepCount : Step → Nat
  | .act _ _ => 1
  | .launch _ _ work none => 1 + work.stepCount
  | .launch _ _ work (some fallback) => 1 + work.stepCount + fallback.stepCount

/-- Steps in a list of steps, at any depth. -/
def stepCountAll : List Step → Nat
  | [] => 0
  | step :: rest => step.stepCount + stepCountAll rest

end

end Breakwater.Scenario
