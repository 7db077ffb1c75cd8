import Breakwater.Gateway

/-!
Several dependencies on one clock. Each of them uses one of the fleet's timers, alone or
together with others.
-/

namespace Breakwater

/-- The dependencies on one clock, with the timers that they use. -/
structure Fleet (α : Type) where
  clock : Clock
  timers : List (Timer CommandRef)
  dependencies : List (Dependency α)

namespace Fleet

variable {α β : Type}

/-- A fleet without dependencies. -/
def create (clock : Clock) : Fleet α := ⟨clock, [], []⟩

instance : Inhabited (Fleet α) := ⟨create ⟨0⟩⟩

/-- A dependency with the clock and its timer. -/
def gateway? (fleet : Fleet α) (id : Nat) : Option (Gateway α) := do
  let dependency ← fleet.dependencies[id]?
  let timer ← fleet.timers[dependency.timer]?
  return ⟨fleet.clock, timer, dependency⟩

/-- Put a dependency and its timer back. -/
def store (fleet : Fleet α) (id : Nat) (gateway : Gateway α) : Fleet α :=
  { fleet with
    timers := fleet.timers.set gateway.dependency.timer gateway.timer
    dependencies := fleet.dependencies.set id gateway.dependency }

/-- Take a step at one dependency. -/
def atDependency (fleet : Fleet α) (id : Nat) (step : Gateway α → β × Gateway α)
    : Option β × Fleet α :=
  match fleet.gateway? id with
  | none => (none, fleet)
  | some gateway =>
      let (answer, next) := step gateway
      (some answer, fleet.store id next)

/-- Start a timer; answers its number. -/
def addTimer (fleet : Fleet α) (name : String) : Nat × Fleet α :=
  (fleet.timers.length, { fleet with timers := fleet.timers ++ [.create name] })

/-- Build a dependency; answers its number. It shares the timer given, or else starts its own. -/
def build (fleet : Fleet α) (builder : DependencyBuilder) (timer : Option Nat)
    : Except BuildFault (Nat × Fleet α) := do
  let (timer, equipped) := match timer with
    | some timer => (timer, fleet)
    | none => fleet.addTimer s!"{builder.key}-timer"
  let id := fleet.dependencies.length
  let dependency ← builder.build id timer fleet.clock.now
  return (id, { equipped with dependencies := equipped.dependencies ++ [dependency] })

def advance (fleet : Fleet α) (millis : Nat) : Fleet α :=
  { fleet with clock := fleet.clock.advance millis }

def setClock (fleet : Fleet α) (millis : Nat) : Fleet α :=
  { fleet with clock := fleet.clock.set millis }

/-- Stop a timer. -/
def shutdownTimer (fleet : Fleet α) (timer : Nat) : Fleet α :=
  { fleet with timers := fleet.timers.modify timer Timer.shutdown }

/-- Stop a dependency's pool. -/
def shutdown (fleet : Fleet α) (id : Nat) : Fleet α :=
  { fleet with dependencies := fleet.dependencies.modify id Dependency.shutdown }

end Fleet

end Breakwater
