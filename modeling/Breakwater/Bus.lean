import Breakwater.Error

/-!
A bus delivers every event to the subscribers it has at that moment. Each subscriber has a
queue of its own; an event that finds the queue full is lost to that subscriber and counted.
-/

namespace Breakwater

/-- One subscriber of a bus. -/
structure Subscriber (α : Type) where
  id : Nat
  /-- Whether the subscription is still held by someone. -/
  live : Bool
  /-- Events not taken yet, oldest first. -/
  pending : List α
  deriving Repr, DecidableEq

/-- A bus, with the queues of its subscribers in order of subscription. -/
structure Bus (α : Type) where
  capacity : Nat
  subscribers : List (Subscriber α)
  nextId : Nat
  /-- Events handed to the bus so far. -/
  published : Nat
  /-- Deliveries lost because a queue was full. -/
  dropped : Nat
  deriving Repr, DecidableEq

namespace Bus

variable {α : Type}

/-- Places in a subscriber's queue unless another capacity is asked for. -/
def defaultCapacity : Nat := 1024

/-- A bus without subscribers. -/
def empty (capacity : Nat) : Bus α := ⟨capacity, [], 0, 0, 0⟩

instance : Inhabited (Bus α) := ⟨empty defaultCapacity⟩

/-- A bus whose subscribers can each hold `capacity` events, at least one. -/
def create (capacity : Nat) : Except ArgumentError (Bus α) :=
  if capacity = 0 then .error .busCapacity else .ok (empty capacity)

/-- Add a subscriber for the events from now on. -/
def subscribe (bus : Bus α) : Nat × Bus α :=
  (bus.nextId, { bus with
    subscribers := bus.subscribers ++ [⟨bus.nextId, true, []⟩]
    nextId := bus.nextId + 1 })

/-- Give up a subscription; the bus notices when it next publishes. -/
def unsubscribe (bus : Bus α) (id : Nat) : Bus α :=
  { bus with subscribers := bus.subscribers.map fun subscriber =>
      if subscriber.id = id then { subscriber with live := false, pending := [] }
      else subscriber }

/-- Whether an event can be queued for a subscriber. -/
def hasRoom (bus : Bus α) (subscriber : Subscriber α) : Bool :=
  subscriber.pending.length < bus.capacity

/-- A subscriber after one more event. -/
def offer (bus : Bus α) (event : α) (subscriber : Subscriber α) : Subscriber α :=
  if bus.hasRoom subscriber then { subscriber with pending := subscriber.pending ++ [event] }
  else subscriber

/-- Deliver an event to every subscriber, and forget those that gave up. -/
def publish (bus : Bus α) (event : α) : Bus α :=
  let live := bus.subscribers.filter (·.live)
  { bus with
    subscribers := live.map (bus.offer event)
    published := bus.published + 1
    dropped := bus.dropped + live.countP (fun subscriber => !bus.hasRoom subscriber) }

/-- Subscribers, those included that gave up since the last event. -/
def subscriberCount (bus : Bus α) : Nat := bus.subscribers.length

/-- The subscriber of that number. -/
def subscriber? (bus : Bus α) (id : Nat) : Option (Subscriber α) :=
  bus.subscribers.find? (fun subscriber => subscriber.id == id)

/-- Events that a subscriber has not taken yet. -/
def pending (bus : Bus α) (id : Nat) : List α :=
  match bus.subscriber? id with
  | some subscriber => subscriber.pending
  | none => []

/-- Replace a subscriber's queue. -/
def setPending (bus : Bus α) (id : Nat) (events : List α) : Bus α :=
  { bus with subscribers := bus.subscribers.map fun subscriber =>
      if subscriber.id = id then { subscriber with pending := events } else subscriber }

/-- Take a subscriber's oldest event. -/
def next? (bus : Bus α) (id : Nat) : Option (α × Bus α) :=
  match bus.pending id with
  | [] => none
  | event :: rest => some (event, bus.setPending id rest)

/-- Take all of a subscriber's events. -/
def drain (bus : Bus α) (id : Nat) : List α × Bus α :=
  (bus.pending id, bus.setPending id [])

end Bus

end Breakwater
