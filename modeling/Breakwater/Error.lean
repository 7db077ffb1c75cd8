import Breakwater.Tag

/-!
The errors of the library as causes, each with its wording: what the work can end with,
what a command can end with, and what building a dependency can fail with.
-/

namespace Breakwater

/-- What the work or a fallback can end with instead of a value. -/
inductive WorkError where
  | plain (text : String)
  | validation (text : String)
  | http (text : String) (status : Int)
  | io (text : String)
  | panic (text : String)
  deriving DecidableEq, Repr, Inhabited

namespace WorkError

def message : WorkError → String
  | plain text | validation text | http text _ | io text => text
  | panic text => s!"panicked: {text}"

/-- A panic whose payload is no text. -/
def panicWithoutText : WorkError := .panic "non-string panic payload"

end WorkError

/-- The two ways to bound the work that runs at once. -/
inductive Isolation where
  | semaphore
  | threadPool
  deriving DecidableEq, Repr, Inhabited

namespace Isolation

/-- Name in sentences. -/
def phrase : Isolation → String
  | semaphore => "semaphore"
  | threadPool => "thread pool"

/-- The tag of a command that the bulkhead turned away. -/
def rejectionTag : Isolation → Tag
  | semaphore => .semaphoreRejected
  | threadPool => .threadPoolRejected

end Isolation

/-- A setting that is not allowed, by its key. -/
structure ConfigError where
  key : String
  problem : String
  deriving DecidableEq, Repr, Inhabited

def ConfigError.message (error : ConfigError) : String :=
  s!"invalid configuration for '{error.key}': {error.problem}"

/-- What a command can end with instead of a value. -/
inductive CommandError where
  | shortCircuited (command : String)
  | isolationRejected (command : String) (isolation : Isolation)
  | timeout (command : String) (limit : Nat)
  | executionFailed (command : String) (source : WorkError)
  | badRequest (command : String) (source : WorkError)
  | fallbackFailed (command : String) (cause : CommandError) (source : WorkError)
  | fallbackRejected (command : String) (cause : CommandError)
  | cancelled (command : String)
  | invalidState (command : String) (state : String)
  | config (error : ConfigError)
  | startup (command : String) (problem : String)
  deriving DecidableEq, Repr, Inhabited

namespace CommandError

def message : CommandError → String
  | shortCircuited command => s!"command '{command}' short-circuited: circuit is open"
  | isolationRejected command isolation =>
      s!"command '{command}' rejected: {isolation.phrase} is at capacity"
  | timeout command limit => s!"command '{command}' timed out after {limit}ms"
  | executionFailed command source => s!"command '{command}' failed: {source.message}"
  | badRequest command source => s!"command '{command}' bad request: {source.message}"
  | fallbackFailed command cause source =>
      s!"command '{command}' fallback failed after {cause.message}: {source.message}"
  | fallbackRejected command cause =>
      s!"command '{command}' fallback rejected after {cause.message}"
  | cancelled command => s!"command '{command}' was cancelled"
  | invalidState command state =>
      s!"command '{command}' can only be executed once (state: {state})"
  | config error => error.message
  | startup command problem => s!"command '{command}' unavailable: {problem}"

/-- The tag recorded with the error, where there is one. -/
def tag? : CommandError → Option Tag
  | shortCircuited _ => some .shortCircuited
  | isolationRejected _ isolation => some isolation.rejectionTag
  | timeout _ _ => some .timeout
  | executionFailed _ _ => some .failure
  | badRequest _ _ => some .badRequest
  | fallbackFailed _ _ _ => some .fallbackFailure
  | fallbackRejected _ _ => some .fallbackRejection
  | cancelled _ => some .cancelled
  | invalidState _ _ | config _ | startup _ _ => none

/-- Whether the command was turned away before its work could start. -/
def isRejection : CommandError → Bool
  | shortCircuited _ | isolationRejected _ _ => true
  | _ => false

/-- The error that called for the first fallback. -/
def rootCause : CommandError → CommandError
  | fallbackFailed _ cause _ | fallbackRejected _ cause => cause.rootCause
  | error => error

/-- The error of the work or of the fallback behind this one. -/
def source? : CommandError → Option WorkError
  | executionFailed _ source | badRequest _ source | fallbackFailed _ _ source => some source
  | _ => none

/-- Name of the case. -/
def caseName : CommandError → String
  | shortCircuited _ => "ShortCircuited"
  | isolationRejected _ _ => "IsolationRejected"
  | timeout _ _ => "Timeout"
  | executionFailed _ _ => "ExecutionFailed"
  | badRequest _ _ => "BadRequest"
  | fallbackFailed _ _ _ => "FallbackFailed"
  | fallbackRejected _ _ => "FallbackRejected"
  | cancelled _ => "Cancelled"
  | invalidState _ _ => "InvalidState"
  | config _ => "Config"
  | startup _ _ => "Startup"

/-- A root cause has no further cause. -/
theorem rootCause_rootCause (error : CommandError)
    : error.rootCause.rootCause = error.rootCause := by
  induction error with
  | fallbackFailed _ _ _ ih => simpa [rootCause] using ih
  | fallbackRejected _ _ ih => simpa [rootCause] using ih
  | _ => rfl

end CommandError

/-- Why a timer could not be used. -/
inductive TimerError where
  | shutdown (name : String)
  | spawn (problem : String)
  deriving DecidableEq, Repr, Inhabited

def TimerError.message : TimerError → String
  | shutdown name => s!"timer '{name}' is shut down"
  | spawn _ => "failed to spawn timer thread"

/-- Why a dependency could not be built. -/
inductive BuildError where
  | config (error : ConfigError)
  | timer (error : TimerError)
  | spawn (command : String) (problem : String)
  deriving DecidableEq, Repr, Inhabited

namespace BuildError

def message : BuildError → String
  | config error => error.message
  | timer error => error.message
  | spawn command _ => s!"failed to start threads for '{command}'"

/-- The error of a command that needed the dependency. -/
def toCommandError (error : BuildError) (command : String) : CommandError :=
  match error with
  | .config error => .config error
  | other => .startup command other.message

/-- Name of the case. -/
def caseName : BuildError → String
  | config _ => "Config"
  | timer _ => "Timer"
  | spawn _ _ => "Spawn"

end BuildError

/-- An argument that a constructor refuses outright. -/
inductive ArgumentError where
  | semaphoreLimit
  | busCapacity
  | sliceCount
  | sliceDuration
  | windowLength
  deriving DecidableEq, Repr, Inhabited

def ArgumentError.message : ArgumentError → String
  | semaphoreLimit => "Semaphore limit must be greater than 0"
  | busCapacity => "Event bus capacity must be greater than 0"
  | sliceCount => "Bucketed stream needs at least one bucket"
  | sliceDuration => "Bucket duration must be greater than 0"
  | windowLength => "Rolling window needs at least one bucket"

end Breakwater
