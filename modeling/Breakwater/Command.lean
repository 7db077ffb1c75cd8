import Breakwater.Error
import Breakwater.ExecutionRecord
import Breakwater.Semaphore
import Breakwater.Timer

/-!
One call to a dependency. Three words decide who may still write its outcome: the lifecycle,
the timeout status and the completion slot.
-/

namespace Breakwater

/-- How far a command has come. It is left once, for `unsubscribed` or for `terminal`. -/
inductive Lifecycle where
  | notStarted
  | chainCreated
  | userCodeExecuted
  | unsubscribed
  | terminal
  deriving DecidableEq, Repr, Inhabited

namespace Lifecycle

def caseName : Lifecycle → String
  | notStarted => "NotStarted"
  | chainCreated => "ChainCreated"
  | userCodeExecuted => "UserCodeExecuted"
  | unsubscribed => "Unsubscribed"
  | terminal => "Terminal"

/-- Whether a command has been submitted and has not ended. -/
def isActive : Lifecycle → Bool
  | chainCreated | userCodeExecuted => true
  | _ => false

end Lifecycle

/-- What a pool worker has to do with a command. -/
inductive ThreadState where
  | notUsingThread
  | started
  | unsubscribed
  | terminal
  deriving DecidableEq, Repr, Inhabited

def ThreadState.caseName : ThreadState → String
  | notUsingThread => "NotUsingThread"
  | started => "Started"
  | unsubscribed => "Unsubscribed"
  | terminal => "Terminal"

/-- Who claimed the end of the work: nobody yet, the work itself, or the timeout. -/
inductive TimeoutStatus where
  | notExecuted
  | completed
  | timedOut
  deriving DecidableEq, Repr, Inhabited

def TimeoutStatus.caseName : TimeoutStatus → String
  | notExecuted => "NotExecuted"
  | completed => "Completed"
  | timedOut => "TimedOut"

/-- Who runs a piece of user code. -/
inductive Runner where
  | caller
  | worker
  | timer
  deriving DecidableEq, Repr, Inhabited

/-- Where the work of a command is. -/
inductive WorkPhase where
  | ready
  /-- Admitted, and about to be handed to the pool. -/
  | handingOff
  | queued
  | running (since : Nat) (runner : Runner)
  | over
  deriving DecidableEq, Repr, Inhabited

/-- Where the fallback of a command is. -/
inductive FallbackPhase where
  | absent
  | ready
  | running (cause : CommandError) (runner : Runner)
  | over
  deriving DecidableEq, Repr, Inhabited

/-- What a command ends with. -/
abbrev Outcome (α : Type) := Except CommandError α

instance Outcome.decidableEq {α : Type} [DecidableEq α] : DecidableEq (Outcome α)
  | .ok left, .ok right => decidable_of_iff (left = right) (by simp)
  | .error left, .error right => decidable_of_iff (left = right) (by simp)
  | .ok _, .error _ | .error _, .ok _ => isFalse (by simp)

/-- The slot that hands a command's outcome to its caller once. -/
inductive Completion (α : Type) where
  | pending
  | ready (outcome : Outcome α)
  | consumed
  deriving DecidableEq, Repr, Inhabited

namespace Completion

variable {α : Type}

/-- Write the outcome, unless one was written before. -/
def complete (completion : Completion α) (outcome : Outcome α) : Completion α :=
  match completion with
  | .pending => .ready outcome
  | written => written

def isDone : Completion α → Bool
  | .pending => false
  | .ready _ | .consumed => true

end Completion

/-- One call to a dependency, with values of type `α`. -/
structure Command (α : Type) where
  lifecycle : Lifecycle
  threadState : ThreadState
  timeout : TimeoutStatus
  record : ExecutionRecord
  /-- The place held in the dependency's semaphore. -/
  permit : Option Permit
  /-- The registration of the timeout. -/
  timer : Option TimerHandle
  /-- Whether the command is counted among those that run their work. -/
  gaugeHeld : Bool
  /-- When the command was submitted. -/
  invokedAt : Nat
  work : WorkPhase
  fallback : FallbackPhase
  completion : Completion α
  deriving DecidableEq, Repr

namespace Command

variable {α : Type}

/-- A command that was not submitted yet. -/
def create (hasFallback : Bool) : Command α where
  lifecycle := .notStarted
  threadState := .notUsingThread
  timeout := .notExecuted
  record := .empty
  permit := none
  timer := none
  gaugeHeld := false
  invokedAt := 0
  work := .ready
  fallback := if hasFallback then .ready else .absent
  completion := .pending

instance : Inhabited (Command α) := ⟨create false⟩

/-- Whether the caller's thread is still inside the submission. -/
def occupiesCaller (command : Command α) : Bool :=
  match command.work, command.fallback with
  | .handingOff, _ | .running _ .caller, _ | _, .running _ .caller => true
  | _, _ => false

/-- Whether the submission has returned, and with it the caller's handle. -/
def hasReturned (command : Command α) : Bool :=
  command.lifecycle != .notStarted && !command.occupiesCaller

/-- Description of a command of the given key, or of its handle. -/
def describe (command : Command α) (name key : String) : String :=
  Text.record name [
    ("command_key", Text.quoted key),
    ("lifecycle", Text.record "CommandLifecycle" [
      ("state", Text.quoted command.lifecycle.caseName)])
  ]

end Command

end Breakwater
