import Breakwater.Clock
import Breakwater.Metrics
import Breakwater.Scenario.Names

/-!
Scenarios for the metrics of one key, whose observers are held under names.
-/

namespace Breakwater.Scenario

/-- One step of a metrics scenario. -/
inductive MetricsAction where
  | mark (tags : List Tag) (times : Nat)
  | advance (millis : Nat)
  | setClock (millis : Nat)
  | pump
  /-- Let the time of one slice pass and pump, again and again. -/
  | tick (times : Nat)
  | resetHealth
  | observe (topic : Metrics.Topic) (name : String)
  | drain (name : String)
  | look

/-- The result of one step. -/
inductive MetricsResult where
  | nothing
  | number (value : Nat)
  | news (news : Metrics.News)

/-- Metrics on a clock, with their observers by name. -/
structure MetricsWorld where
  clock : Clock
  metrics : Metrics
  observers : Names Metrics.Observer

namespace MetricsWorld

/-- Pump; answers how many slices were closed. -/
def pump (world : MetricsWorld) : Nat × MetricsWorld :=
  let (closed, metrics) := world.metrics.pump world.clock.now
  (closed, { world with metrics })

/-- Let time pass slice by slice, and pump after each; answers how many slices were closed. -/
def tick (world : MetricsWorld) : Nat → Nat × MetricsWorld
  | 0 => (0, world)
  | times + 1 =>
      let passed := { world with clock := world.clock.advance world.metrics.slices.duration }
      let (closed, pumped) := passed.pump
      let (more, final) := pumped.tick times
      (closed + more, final)

/-- Observe under a name; an observer that had the name is let go. -/
def observe (world : MetricsWorld) (topic : Metrics.Topic) (name : String) : MetricsWorld :=
  let (observer, metrics) := world.metrics.observe topic
  let metrics := match world.observers.lookup name with
    | some held => metrics.forget held
    | none => metrics
  { world with metrics, observers := world.observers.put name observer }

def setNow (world : MetricsWorld) (clock : Clock) : MetricsResult × MetricsWorld :=
  (.number clock.now, { world with clock })

/-- Take one step. -/
def takeStep (world : MetricsWorld) : MetricsAction → MetricsResult × MetricsWorld
  | .mark tags times =>
      let record := ExecutionRecord.ofTags tags
      let metrics := (List.range times).foldl
        (fun metrics _ => metrics.markDone record world.clock.now) world.metrics
      (.nothing, { world with metrics })
  | .advance millis => world.setNow (world.clock.advance millis)
  | .setClock millis => world.setNow (world.clock.set millis)
  | .pump =>
      let (closed, next) := world.pump
      (.number closed, next)
  | .tick times =>
      let (closed, next) := world.tick times
      (.number closed, next)
  | .resetHealth => (.nothing, { world with metrics := world.metrics.resetHealth })
  | .observe topic name => (.nothing, world.observe topic name)
  | .drain name =>
      match world.observers.lookup name with
      | none => (.nothing, world)
      | some observer =>
          let (news, metrics) := world.metrics.drain observer
          (.news news, { world with metrics })
  | .look => (.nothing, world)

end MetricsWorld

end Breakwater.Scenario
