import Breakwater.Clock
import Breakwater.Scenario.BusRun
import Breakwater.Stream.Running

/-!
Scenarios for single streams: a rolling window, a running total, and numbers cut into slices.
-/

namespace Breakwater.Scenario

/-! ### Windows and totals -/

/-- One step of a scenario for a stream of slices. -/
inductive StreamAction (β : Type) where
  | push (slices : List β)
  | reset
  | observer (name : String) (action : SubscriptionAction)
  | look

/-- A rolling window with its observers by name. -/
structure WindowWorld (β α : Type) where
  window : RollingWindow β α
  names : Names Nat

/-- Take one step. -/
def WindowWorld.takeStep {β α : Type} (rule : SummaryRule β α) (world : WindowWorld β α)
    : StreamAction β → BusResult α × WindowWorld β α
  | .push slices => (.nothing, { world with window := slices.foldl (·.push rule) world.window })
  | .reset => (.nothing, { world with window := world.window.reset })
  | .observer name action =>
      let (result, next) :=
        (BusWorld.create world.window.observers world.names).act name action
      (result, ⟨{ world.window with observers := next.bus }, next.names⟩)
  | .look => (.nothing, world)

/-- A running total with its observers by name. -/
structure TotalWorld (α : Type) where
  total : RunningTotal α
  names : Names Nat

/-- Take one step; a running total is never started afresh. -/
def TotalWorld.takeStep {β α : Type} (rule : SummaryRule β α) (world : TotalWorld α)
    : StreamAction β → BusResult α × TotalWorld α
  | .push slices => (.nothing, { world with total := slices.foldl (·.push rule) world.total })
  | .observer name action =>
      let (result, next) :=
        (BusWorld.create world.total.observers world.names).act name action
      (result, ⟨{ world.total with observers := next.bus }, next.names⟩)
  | .reset | .look => (.nothing, world)

/-! ### Slices -/

/-- Numbers with the moment that each belongs to, summed up slice by slice. -/
def numberSlices : SliceRule (Nat × Int) Int where
  stamp event := event.1
  blank := 0
  add sum event := sum + event.2

/-- Sums of slices summed up. -/
def numberSums : SummaryRule Int Int where
  blank := 0
  add := (· + ·)

/-- Where closed slices go: they are kept until they are asked for, or summed up. -/
inductive Sink where
  | collector (slices : List Int)
  | window (window : RollingWindow Int Int)

/-- A sink after one more slice. -/
def Sink.push (sink : Sink) (slice : Int) : Sink :=
  match sink with
  | collector slices => collector (slices ++ [slice])
  | window rolling => window (rolling.push numberSums slice)

/-- One step of a scenario for slices. -/
inductive SliceAction where
  | addCollector (name : String)
  | addWindow (name : String)
  /-- Publish a number for a moment, or for the present one. -/
  | publish (moment : Option Nat) (value : Int)
  | advance (millis : Nat)
  | setClock (millis : Nat)
  | pump
  /-- Ask a sink for what it has. -/
  | take (name : String)
  | look

/-- The result of one step. -/
inductive SliceResult where
  | nothing
  | number (value : Nat)
  | slices (slices : List Int)
  | sum (sum : Option Int)

/-- A stream of slices, fed by a bus and read by sinks. -/
structure SliceWorld where
  clock : Clock
  bus : Bus (Nat × Int)
  source : Nat
  stream : SliceStream Int
  /-- The sinks by name, the latest first. -/
  sinks : List (String × Sink)

namespace SliceWorld

/-- A stream without sinks. -/
def create (capacity sliceCount duration start : Nat) : Except ArgumentError SliceWorld := do
  let bus ← Bus.create capacity
  let (source, bus) := bus.subscribe
  let stream ← SliceStream.create numberSlices sliceCount duration start
  return ⟨⟨start⟩, bus, source, stream, []⟩

def setNow (world : SliceWorld) (clock : Clock) : SliceResult × SliceWorld :=
  (.number clock.now, { world with clock })

/-- The sinks with the latest one of a name emptied. -/
def emptied (name : String) : List (String × Sink) → List (String × Sink)
  | [] => []
  | (other, sink) :: rest =>
      if other = name then (other, .collector []) :: rest else (other, sink) :: emptied name rest

/-- Take one step. -/
def takeStep (world : SliceWorld) : SliceAction → SliceResult × SliceWorld
  | .addCollector name => (.nothing, { world with sinks := (name, .collector []) :: world.sinks })
  | .addWindow name =>
      let window := RollingWindow.empty world.stream.sliceCount
      (.nothing, { world with sinks := (name, .window window) :: world.sinks })
  | .publish moment value =>
      (.nothing, { world with bus := world.bus.publish (moment.getD world.clock.now, value) })
  | .advance millis => world.setNow (world.clock.advance millis)
  | .setClock millis => world.setNow (world.clock.set millis)
  | .pump =>
      let (events, bus) := world.bus.drain world.source
      let (stream, slices) := world.stream.pump numberSlices events world.clock.now
      let sinks := world.sinks.map fun (name, sink) => (name, slices.foldl Sink.push sink)
      (.number slices.length, { world with bus, stream, sinks })
  | .take name =>
      match world.sinks.lookup name with
      | none => (.nothing, world)
      | some (.window window) => (.sum (window.latest numberSums), world)
      | some (.collector slices) =>
          (.slices slices, { world with sinks := emptied name world.sinks })
  | .look => (.nothing, world)

end SliceWorld

end Breakwater.Scenario
