import Breakwater.Fleet

/-!
A registry keeps one dependency per key, built from the settings of the first use.
-/

namespace Breakwater

/-- The dependencies by key, in order of the keys. They share the registry's timer. -/
structure Registry where
  timer : Nat
  entries : List (String × Nat)
  deriving DecidableEq, Repr, Inhabited

namespace Registry

variable {α : Type}

/-- Name of the timer that the dependencies of a registry share. -/
def timerName : String := "command-registry-timer"

/-- An empty registry, with a timer of its own in the fleet. -/
def create (fleet : Fleet α) : Registry × Fleet α :=
  let (timer, equipped) := fleet.addTimer timerName
  (⟨timer, []⟩, equipped)

/-- The dependency of a key. -/
def get? (registry : Registry) (key : String) : Option Nat := registry.entries.lookup key

def keys (registry : Registry) : List String := registry.entries.map (·.1)

def size (registry : Registry) : Nat := registry.entries.length

def isEmpty (registry : Registry) : Bool := registry.entries.isEmpty

/-- Entries with one more, at the place of its key. -/
def insertEntry (key : String) (id : Nat) : List (String × Nat) → List (String × Nat)
  | [] => [(key, id)]
  | (other, held) :: rest =>
      if key < other then (key, id) :: (other, held) :: rest
      else if key = other then (key, id) :: rest
      else (other, held) :: insertEntry key id rest

/-- The dependency at the entry of a key. Somebody else may have built it since the key was looked
up; an entry that is vacant still gets one from the settings.
-/
def atEntry (registry : Registry) (fleet : Fleet α) (key : String) (config : CommandConfig)
    : Except BuildFault (Nat × Registry × Fleet α) :=
  match registry.get? key with
  | some occupant => .ok (occupant, registry, fleet)
  | none =>
      match fleet.build { key, config, driven := some false } (some registry.timer) with
      | .error fault => .error fault
      | .ok (id, built) =>
          .ok (id, { registry with entries := insertEntry key id registry.entries }, built)

/-- The dependency of a key, built from the settings if there is none yet. The settings of a
later use are ignored. The entry is only gone for if the key is looked up in vain.
-/
def getOrCreate (registry : Registry) (fleet : Fleet α) (key : String) (config : CommandConfig)
    : Except BuildFault (Nat × Registry × Fleet α) :=
  match registry.get? key with
  | some id => .ok (id, registry, fleet)
  | none => registry.atEntry fleet key config

/-- Looking a key up first makes no difference to what is found at its entry. -/
theorem getOrCreate_eq (registry : Registry) (fleet : Fleet α) (key : String)
    (config : CommandConfig)
    : registry.getOrCreate fleet key config = registry.atEntry fleet key config := by
  unfold getOrCreate
  split
  · rename_i registered
    rw [atEntry, registered]
  · rfl

/-- Forget a key and stop its dependency. Its commands go on, and the next use of the key builds
a new one.
-/
def remove (registry : Registry) (fleet : Fleet α) (key : String)
    : Option Nat × Registry × Fleet α :=
  match registry.get? key with
  | none => (none, registry, fleet)
  | some id =>
      (some id, { registry with entries := registry.entries.filter (·.1 != key) },
        fleet.shutdown id)

/-- Description of a registry whose timer is the one given. -/
def describe (registry : Registry) (timer : Timer CommandRef) : String :=
  Text.record "CommandRegistry" [
    ("keys", Text.listed (registry.keys.map Text.quoted)),
    ("timer", timer.describe),
    ("drive_metrics", "false")
  ]

end Registry

end Breakwater
