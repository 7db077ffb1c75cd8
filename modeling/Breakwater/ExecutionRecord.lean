import Breakwater.Tally
import Breakwater.Text.Record

/-!
The record of one execution: its tags, the moments it was stamped with, and the texts of
the errors met on the way.
-/

namespace Breakwater

/-- What is known about one execution so far. -/
structure ExecutionRecord where
  tags : Tally
  /-- When the execution was admitted by its bulkhead. -/
  startedAt : Option Nat
  /-- How long the work took. -/
  executionLatency : Option Nat
  /-- How long the caller waited in all. -/
  callerLatency : Option Nat
  /-- Text of the error that the work ended with. -/
  failure : Option String
  /-- Text of the error that called for the fallback. -/
  cause : Option String
  /-- Whether the work was started. -/
  occurred : Bool
  /-- Whether the work was started on a pool worker. -/
  onWorker : Bool
  deriving DecidableEq, Repr

namespace ExecutionRecord

/-- The record of an execution that has not begun. -/
def empty : ExecutionRecord where
  tags := .empty
  startedAt := none
  executionLatency := none
  callerLatency := none
  failure := none
  cause := none
  occurred := false
  onWorker := false

instance : Inhabited ExecutionRecord := ⟨empty⟩

/-- A record that carries the given tags; it occurred if one of them implies so. -/
def ofTags (tags : List Tag) : ExecutionRecord :=
  { empty with tags := .ofTags tags, occurred := tags.any Tag.impliesExecution }

def markOccurred (record : ExecutionRecord) : ExecutionRecord := { record with occurred := true }

def markOnWorker (record : ExecutionRecord) : ExecutionRecord := { record with onWorker := true }

def markStarted (record : ExecutionRecord) (now : Nat) : ExecutionRecord :=
  { record with startedAt := some now }

def setExecutionLatency (record : ExecutionRecord) (latency : Nat) : ExecutionRecord :=
  { record with executionLatency := some latency }

def setFailure (record : ExecutionRecord) (text : String) : ExecutionRecord :=
  { record with failure := some text }

def setCause (record : ExecutionRecord) (text : String) : ExecutionRecord :=
  { record with cause := some text }

/-- The caller's latency is kept only for an execution that was started. -/
def markReturned (record : ExecutionRecord) (latency : Nat) : ExecutionRecord :=
  if record.startedAt.isSome then { record with callerLatency := some latency } else record

def addTag (record : ExecutionRecord) (tag : Tag) : ExecutionRecord :=
  { record with tags := record.tags.add tag }

/-- A tag with the time it took; the time is kept only for an execution that was started. -/
def addTimedTag (record : ExecutionRecord) (latency : Nat) (tag : Tag) : ExecutionRecord :=
  let tagged := record.addTag tag
  if tagged.startedAt.isSome then tagged.setExecutionLatency latency else tagged

/-- One-line description. -/
def describe (record : ExecutionRecord) : String :=
  Text.record "ExecutionResult" [
    ("events", Text.listed (record.tags.present.map Tag.caseName)),
    ("start_timestamp", Text.optional toString record.startedAt),
    ("execution_latency", Text.optional toString record.executionLatency),
    ("user_thread_latency", Text.optional toString record.callerLatency),
    ("exception", Text.optional Text.quoted record.failure),
    ("execution_exception", Text.optional Text.quoted record.cause),
    ("execution_occurred", toString record.occurred),
    ("executed_in_thread", toString record.onWorker)
  ]

end ExecutionRecord

/-- The completion of one command, as published to the observers of its key. -/
structure CompletionEvent where
  key : String
  completedAt : Nat
  record : ExecutionRecord
  deriving DecidableEq, Repr, Inhabited

end Breakwater
