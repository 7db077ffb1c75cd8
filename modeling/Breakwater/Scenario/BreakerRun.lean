import Breakwater.Breaker
import Breakwater.Clock

/-!
Scenarios for a single circuit, whose health is set by hand.
-/

namespace Breakwater.Scenario

/-- Questions to a circuit, and reports to it. -/
inductive BreakerCall where
  | allowRequest
  | isOpen
  | allowSingleTest
  | markSuccess
  | markNonSuccess
  deriving DecidableEq, Repr, Inhabited

/-- One step of a circuit scenario. -/
inductive BreakerAction where
  | call (call : BreakerCall)
  | setHealth (total errors : Nat)
  | advance (millis : Nat)
  | setClock (millis : Nat)
  | look

/-- The result of one step. -/
inductive BreakerResult where
  | nothing
  | answer (allowed : Bool)
  | number (value : Nat)

/-- A circuit on a clock. -/
structure BreakerWorld where
  clock : Clock
  breaker : Breaker HealthGauge

namespace BreakerWorld

/-- A closed circuit that nobody listens to, over an empty gauge. -/
def create (name : String) (config : BreakerConfig) (start : Nat) : BreakerWorld :=
  ⟨⟨start⟩, .create name config {} ⟨.empty, 0⟩⟩

/-- The world after a question to the circuit. -/
def answered (world : BreakerWorld) (answer : Bool × Breaker HealthGauge × List Transition)
    : BreakerResult × BreakerWorld :=
  (.answer answer.1, { world with breaker := answer.2.1 })

def call (world : BreakerWorld) : BreakerCall → BreakerResult × BreakerWorld
  | .allowRequest => world.answered (world.breaker.allowRequest world.clock.now)
  | .isOpen => world.answered (world.breaker.isOpen world.clock.now)
  | .allowSingleTest => world.answered (world.breaker.allowSingleTest world.clock.now)
  | .markSuccess =>
      (.nothing, { world with breaker := (world.breaker.markSuccess world.clock.now).1 })
  | .markNonSuccess => (.nothing, { world with breaker := world.breaker.markNonSuccess })

def setNow (world : BreakerWorld) (clock : Clock) : BreakerResult × BreakerWorld :=
  (.number clock.now, { world with clock })

/-- Take one step. -/
def takeStep (world : BreakerWorld) : BreakerAction → BreakerResult × BreakerWorld
  | .call call => world.call call
  | .setHealth total errors =>
      let source := { world.breaker.source with reading := .ofTotals total errors }
      (.nothing, { world with breaker := { world.breaker with source } })
  | .advance millis => world.setNow (world.clock.advance millis)
  | .setClock millis => world.setNow (world.clock.set millis)
  | .look => (.nothing, world)

end BreakerWorld

end Breakwater.Scenario
