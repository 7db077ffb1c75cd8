import Breakwater.Bus
import Breakwater.Stream.Slices

/-!
A window of the latest slices, folded into a summary once it is full.
-/

namespace Breakwater

/-- How slices of type `β` are folded into summaries of type `α`. -/
structure SummaryRule (β α : Type) where
  /-- Summary of no slices. -/
  blank : α
  /-- A summary after one more slice. -/
  add : α → β → α

/-- Summary of slices, oldest first. -/
def SummaryRule.summary {β α : Type} (rule : SummaryRule β α) (slices : List β) : α :=
  slices.foldl rule.add rule.blank

/-- The latest slices, with the observers of their summaries. -/
structure RollingWindow (β α : Type) where
  /-- Slices in a full window. -/
  size : Nat
  /-- The slices held, oldest first. -/
  window : List β
  /-- The last summary, if the window has been full since it started afresh. -/
  last : Option α
  observers : Bus α
  deriving Repr, DecidableEq, Inhabited

namespace RollingWindow

variable {β α : Type}

/-- A window that holds nothing yet. -/
def empty (size : Nat) : RollingWindow β α := ⟨size, [], none, .empty Bus.defaultCapacity⟩

/-- A window of at least one slice. -/
def create (size : Nat) : Except ArgumentError (RollingWindow β α) :=
  if size = 0 then .error .windowLength else .ok (empty size)

/-- Whether the window holds all the slices it can. -/
def isFull (rolling : RollingWindow β α) : Bool := rolling.size ≤ rolling.window.length

/-- The last summary. A window that reports by one rule is asked by that rule. -/
def latest (_ : SummaryRule β α) (rolling : RollingWindow β α) : Option α := rolling.last

/-- The last summary, or else that of nothing. -/
def latestOrBlank (rule : SummaryRule β α) (rolling : RollingWindow β α) : α :=
  (rolling.latest rule).getD rule.blank

/-- Add a slice to the window; the oldest one leaves a window that has grown too long. -/
def slide (rolling : RollingWindow β α) (slice : β) : RollingWindow β α :=
  let grown := rolling.window ++ [slice]
  { rolling with window := if rolling.size < grown.length then grown.drop 1 else grown }

/-- Take in a slice; a window that is full then tells its observers. -/
def push (rule : SummaryRule β α) (rolling : RollingWindow β α) (slice : β) : RollingWindow β α :=
  let moved := rolling.slide slice
  if moved.isFull then
    let summary := rule.summary moved.window
    { moved with last := some summary, observers := moved.observers.publish summary }
  else moved

/-- Forget the slices held, and the last summary of them. -/
def reset (rolling : RollingWindow β α) : RollingWindow β α :=
  { rolling with window := [], last := none }

/-- Receive the summaries from now on. -/
def observe (rolling : RollingWindow β α) : Nat × RollingWindow β α :=
  let (id, observers) := rolling.observers.subscribe
  (id, { rolling with observers })

def describe (rolling : RollingWindow β α) : String :=
  Text.record "RollingStream" [
    ("num_buckets", toString rolling.size),
    ("window_len", toString rolling.window.length)
  ]

end RollingWindow

end Breakwater
