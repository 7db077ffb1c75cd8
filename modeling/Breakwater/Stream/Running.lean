import Breakwater.Stream.Rolling

/-!
A running total over all slices ever seen, reported once as many of them were seen as a
window holds.
-/

namespace Breakwater

/-- The total so far, with the observers of its values. -/
structure RunningTotal (α : Type) where
  /-- Slices to see before the total is reported. -/
  size : Nat
  total : α
  /-- Slices seen. -/
  folded : Nat
  /-- The total that was reported last. -/
  latest : Option α
  observers : Bus α
  deriving Repr, DecidableEq, Inhabited

namespace RunningTotal

variable {β α : Type}

/-- The total of nothing. -/
def empty (rule : SummaryRule β α) (size : Nat) : RunningTotal α :=
  ⟨size, rule.blank, 0, none, .empty Bus.defaultCapacity⟩

/-- The total that was reported last, or else that of nothing. -/
def latestOrBlank (rule : SummaryRule β α) (running : RunningTotal α) : α :=
  running.latest.getD rule.blank

/-- Add a slice. Once enough of them were seen, the total is reported and told to the observers. -/
def push (rule : SummaryRule β α) (running : RunningTotal α) (slice : β) : RunningTotal α :=
  let grown := { running with
    total := rule.add running.total slice
    folded := running.folded + 1 }
  if grown.folded < grown.size then grown
  else { grown with latest := some grown.total, observers := grown.observers.publish grown.total }

/-- Receive the totals from now on. -/
def observe (running : RunningTotal α) : Nat × RunningTotal α :=
  let (id, observers) := running.observers.subscribe
  (id, { running with observers })

def describe (running : RunningTotal α) : String :=
  Text.record "CumulativeStream" [
    ("num_buckets", toString running.size),
    ("folded", toString running.folded)
  ]

end RunningTotal

end Breakwater
