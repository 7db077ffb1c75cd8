import Breakwater.Config
import Breakwater.ExecutionRecord
import Breakwater.Health
import Breakwater.Stream.Running

/-!
The metrics of one key. Completions are published on a bus; one of its subscribers cuts them
into slices, and every closed slice feeds the health, the rolling counts and the totals.
-/

namespace Breakwater

/-- Completions collected into tallies of their tags. -/
def completionSlices : SliceRule CompletionEvent Tally where
  stamp := CompletionEvent.completedAt
  blank := .empty
  add tally event := tally.merge event.record.tags

/-- Slices summed up as health. -/
def healthSummary : SummaryRule Tally Health where
  blank := .empty
  add := Health.plus

/-- Slices summed up tag by tag. -/
def tallySummary : SummaryRule Tally Tally where
  blank := .empty
  add := Tally.merge

/-- Counters and health of one key. -/
structure Metrics where
  key : String
  bus : Bus CompletionEvent
  /-- The subscription that feeds the slices. -/
  source : Nat
  slices : SliceStream Tally
  health : RollingWindow Tally Health
  rolling : RollingWindow Tally Tally
  totals : RunningTotal Tally
  /-- Commands whose work is running. -/
  concurrent : Nat
  deriving Repr, DecidableEq, Inhabited

namespace Metrics

/-- Metrics that have seen nothing, with the open slice at `now`. -/
def create (key : String) (config : MetricsConfig) (now : Nat) : Except ArgumentError Metrics := do
  let bus ← Bus.create config.busCapacity
  let (source, bus) := bus.subscribe
  let slices ← SliceStream.create completionSlices config.sliceCount config.sliceDuration now
  let health ← RollingWindow.create config.sliceCount
  let rolling ← RollingWindow.create config.sliceCount
  let totals := RunningTotal.empty tallySummary config.sliceCount
  return ⟨key, bus, source, slices, health, rolling, totals, 0⟩

/-- Publish the record of a command that completed now. -/
def markDone (metrics : Metrics) (record : ExecutionRecord) (now : Nat) : Metrics :=
  { metrics with bus := metrics.bus.publish ⟨metrics.key, now, record⟩ }

/-- Hand a closed slice to the windows and the totals. -/
def pushSlice (metrics : Metrics) (slice : Tally) : Metrics :=
  { metrics with
    health := metrics.health.push healthSummary slice
    rolling := metrics.rolling.push tallySummary slice
    totals := metrics.totals.push tallySummary slice }

/-- Take in the completions published so far and close the slices that have ended; answers how
many were handed on.
-/
def pump (metrics : Metrics) (now : Nat) : Nat × Metrics :=
  let (events, bus) := metrics.bus.drain metrics.source
  let (slices, emitted) := metrics.slices.pump completionSlices events now
  (emitted.length, emitted.foldl pushSlice { metrics with bus, slices })

/-- Health over the rolling window; that of nothing until the window is full. -/
def healthCounts (metrics : Metrics) : Health := metrics.health.latestOrBlank healthSummary

/-- Tags over the rolling window; none until the window is full. -/
def rollingCounts (metrics : Metrics) : Tally := metrics.rolling.latestOrBlank tallySummary

/-- Tags since the beginning; none until a window's worth of slices was closed. -/
def totalCounts (metrics : Metrics) : Tally := metrics.totals.latestOrBlank tallySummary

/-- Forget the window that the health is taken from. -/
def resetHealth (metrics : Metrics) : Metrics := { metrics with health := metrics.health.reset }

def incrementConcurrent (metrics : Metrics) : Metrics :=
  { metrics with concurrent := metrics.concurrent + 1 }

def decrementConcurrent (metrics : Metrics) : Metrics :=
  { metrics with concurrent := metrics.concurrent - 1 }

/-- Completions that came after their slice was closed. -/
def lateCount (metrics : Metrics) : Nat := metrics.slices.late

/-- Completions that some subscriber had no room for. -/
def droppedCount (metrics : Metrics) : Nat := metrics.bus.dropped

/-- What an observer of the metrics can ask to be told. -/
inductive Topic where
  | events
  | rolling
  | totals
  | health
  deriving DecidableEq, Repr

/-- A subscription to one of the topics. -/
structure Observer where
  topic : Topic
  id : Nat
  deriving DecidableEq, Repr

/-- Receive what a topic has to tell from now on. -/
def observe (metrics : Metrics) : Topic → Observer × Metrics
  | .events =>
      let (id, bus) := metrics.bus.subscribe
      (⟨.events, id⟩, { metrics with bus })
  | .rolling =>
      let (id, rolling) := metrics.rolling.observe
      (⟨.rolling, id⟩, { metrics with rolling })
  | .totals =>
      let (id, totals) := metrics.totals.observe
      (⟨.totals, id⟩, { metrics with totals })
  | .health =>
      let (id, health) := metrics.health.observe
      (⟨.health, id⟩, { metrics with health })

/-- What an observer was told since it last asked. -/
inductive News where
  | events (events : List CompletionEvent)
  | tallies (tallies : List Tally)
  | healths (healths : List Health)
  deriving DecidableEq, Repr

/-- Take all that an observer was told. -/
def drain (metrics : Metrics) (observer : Observer) : News × Metrics :=
  match observer.topic with
  | .events =>
      let (events, bus) := metrics.bus.drain observer.id
      (.events events, { metrics with bus })
  | .rolling =>
      let (tallies, observers) := metrics.rolling.observers.drain observer.id
      (.tallies tallies, { metrics with rolling := { metrics.rolling with observers } })
  | .totals =>
      let (tallies, observers) := metrics.totals.observers.drain observer.id
      (.tallies tallies, { metrics with totals := { metrics.totals with observers } })
  | .health =>
      let (healths, observers) := metrics.health.observers.drain observer.id
      (.healths healths, { metrics with health := { metrics.health with observers } })

/-- Let an observer go. -/
def forget (metrics : Metrics) (observer : Observer) : Metrics :=
  match observer.topic with
  | .events => { metrics with bus := metrics.bus.unsubscribe observer.id }
  | .rolling =>
      { metrics with rolling := { metrics.rolling with
          observers := metrics.rolling.observers.unsubscribe observer.id } }
  | .totals =>
      { metrics with totals := { metrics.totals with
          observers := metrics.totals.observers.unsubscribe observer.id } }
  | .health =>
      { metrics with health := { metrics.health with
          observers := metrics.health.observers.unsubscribe observer.id } }

def describe (metrics : Metrics) : String :=
  Text.record "CommandMetrics" [
    ("command_key", Text.quoted metrics.key),
    ("bucketed", metrics.slices.describe 3),
    ("concurrent", toString metrics.concurrent)
  ]

end Metrics

end Breakwater
