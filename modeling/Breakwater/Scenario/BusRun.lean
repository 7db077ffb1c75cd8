import Breakwater.Bus
import Breakwater.Scenario.Names

/-!
Scenarios for a bus whose subscriptions are held under names.
-/

namespace Breakwater.Scenario

/-- What is done with the subscription of a name. -/
inductive SubscriptionAction where
  | subscribe
  | unsubscribe
  /-- Take the oldest event, if there is one. -/
  | next
  /-- Take the oldest event, and wait for it if the bus may still deliver one. -/
  | await
  | pending
  | drain
  deriving DecidableEq, Repr

/-- One step of a bus scenario. -/
inductive BusAction (α : Type) where
  | publish (events : List α)
  | subscription (name : String) (action : SubscriptionAction)
  /-- The bus goes away; its subscribers keep what they have not taken yet. -/
  | close

/-- The result of one step. -/
inductive BusResult (α : Type) where
  | nothing
  | existed (answer : Bool)
  | event (event : α)
  | blocked
  | count (number : Nat)
  | events (events : List α)

/-- A bus with the subscriptions that are held. -/
structure BusWorld (α : Type) where
  bus : Bus α
  names : Names Nat
  isClosed : Bool

namespace BusWorld

variable {α : Type}

/-- A bus that lives, with the subscriptions that are held. -/
def create (bus : Bus α) (names : Names Nat) : BusWorld α := ⟨bus, names, false⟩

/-- Take up a subscription under a name; one that had the name is given up. -/
def subscribe (world : BusWorld α) (name : String) : BusWorld α :=
  let (id, bus) := world.bus.subscribe
  let bus := match world.names.lookup name with
    | some held => bus.unsubscribe held
    | none => bus
  { world with bus, names := world.names.put name id }

/-- Act on a subscription that is held. -/
def actHeld (world : BusWorld α) (name : String) (id : Nat)
    : SubscriptionAction → BusResult α × BusWorld α
  | .subscribe => (.nothing, if world.isClosed then world else world.subscribe name)
  | .unsubscribe =>
      let bus := world.bus.unsubscribe id
      (.existed true, { world with bus, names := world.names.erase name })
  | .next =>
      match world.bus.next? id with
      | some (event, bus) => (.event event, { world with bus })
      | none => (.nothing, world)
  | .await =>
      match world.bus.next? id with
      | some (event, bus) => (.event event, { world with bus })
      | none => (if world.isClosed then .nothing else .blocked, world)
  | .pending => (.count (world.bus.pending id).length, world)
  | .drain =>
      let (events, bus) := world.bus.drain id
      (.events events, { world with bus })

/-- Act on the subscription of a name. -/
def act (world : BusWorld α) (name : String) (action : SubscriptionAction)
    : BusResult α × BusWorld α :=
  match world.names.lookup name, action with
  | some id, action => world.actHeld name id action
  | none, .subscribe => (.nothing, if world.isClosed then world else world.subscribe name)
  | none, .unsubscribe => (.existed false, world)
  | none, _ => (.nothing, world)

/-- Take one step. -/
def takeStep (world : BusWorld α) : BusAction α → BusResult α × BusWorld α
  | .publish events =>
      (.nothing,
        if world.isClosed then world else { world with bus := events.foldl Bus.publish world.bus })
  | .subscription name action => world.act name action
  | .close => (.nothing, { world with isClosed := true })

end BusWorld

end Breakwater.Scenario
