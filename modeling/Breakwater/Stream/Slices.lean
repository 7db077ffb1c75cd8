import Breakwater.Error
import Breakwater.Text.Record

/-!
Time cut into slices of equal length. Events are added to the slice that is open, a slice is
closed once an event or the clock lies past its end, and closed slices are handed on in order.
-/

namespace Breakwater

/-- How events of type `ε` are collected into slices of type `β`. -/
structure SliceRule (ε β : Type) where
  /-- When an event happened. -/
  stamp : ε → Nat
  /-- The slice in which nothing happened. -/
  blank : β
  /-- A slice after one more event. -/
  add : β → ε → β

/-- The open slice, with counts of what was closed and what came too late. -/
structure SliceStream (β : Type) where
  /-- Most blank slices handed on for one idle gap. -/
  sliceCount : Nat
  /-- Milliseconds of one slice. -/
  duration : Nat
  /-- Contents of the open slice. -/
  current : β
  /-- First millisecond of the open slice. -/
  start : Nat
  /-- Slices closed so far. -/
  closed : Nat
  /-- Events that lay before the open slice when they were drained. -/
  late : Nat
  deriving Repr, DecidableEq, Inhabited

namespace SliceStream

variable {ε β : Type}

/-- A stream whose open slice contains `now`. -/
def opening (rule : SliceRule ε β) (sliceCount duration now : Nat) : SliceStream β where
  sliceCount := sliceCount
  duration := duration
  current := rule.blank
  start := now - now % duration
  closed := 0
  late := 0

/-- A stream with at least one slice of at least a millisecond. -/
def create (rule : SliceRule ε β) (sliceCount duration now : Nat)
    : Except ArgumentError (SliceStream β) :=
  if sliceCount = 0 then .error .sliceCount
  else if duration = 0 then .error .sliceDuration
  else .ok (opening rule sliceCount duration now)

/-- Slices handed on when the clock reaches `now`: the open one and then blank ones for the gap.
Past a full window of blank slices more of them would change nothing.
-/
def closing (rule : SliceRule ε β) (stream : SliceStream β) (now : Nat) : List β :=
  let elapsed := (now - stream.start) / stream.duration
  stream.current :: List.replicate (min (elapsed - 1) stream.sliceCount) rule.blank

/-- Close slices until `now` lies in the open one. -/
def rollForward (rule : SliceRule ε β) (stream : SliceStream β) (now : Nat)
    : SliceStream β × List β :=
  if now < stream.start + stream.duration then (stream, [])
  else
    let emitted := closing rule stream now
    let elapsed := (now - stream.start) / stream.duration
    ({ stream with
        current := rule.blank
        start := stream.start + elapsed * stream.duration
        closed := stream.closed + emitted.length }, emitted)

/-- Take in one event. -/
def absorb (rule : SliceRule ε β) (stream : SliceStream β) (event : ε) : SliceStream β × List β :=
  if rule.stamp event < stream.start then ({ stream with late := stream.late + 1 }, [])
  else
    let (rolled, emitted) := stream.rollForward rule (rule.stamp event)
    ({ rolled with current := rule.add rolled.current event }, emitted)

/-- Take in events in order. -/
def absorbAll (rule : SliceRule ε β) (stream : SliceStream β) : List ε → SliceStream β × List β
  | [] => (stream, [])
  | event :: rest =>
      let (absorbed, first) := stream.absorb rule event
      let (final, more) := absorbAll rule absorbed rest
      (final, first ++ more)

/-- Take in the events that are due, then close every slice that has ended by `now`. -/
def pump (rule : SliceRule ε β) (stream : SliceStream β) (events : List ε) (now : Nat)
    : SliceStream β × List β :=
  let (absorbed, first) := stream.absorbAll rule events
  let (rolled, more) := absorbed.rollForward rule now
  (rolled, first ++ more)

/-- Milliseconds until the open slice ends. -/
def untilRollover (stream : SliceStream β) (now : Nat) : Nat :=
  stream.start + stream.duration - now

/-- Description of a stream with the given number of sinks. -/
def describe (stream : SliceStream β) (sinks : Nat) : String :=
  Text.record "BucketedStream" [
    ("num_buckets", toString stream.sliceCount),
    ("bucket_duration_ms", toString stream.duration),
    ("sinks", toString sinks),
    ("closed_buckets", toString stream.closed),
    ("late_events", toString stream.late)
  ]

end SliceStream

end Breakwater
