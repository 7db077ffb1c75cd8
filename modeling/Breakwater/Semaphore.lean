import Breakwater.Error
import Breakwater.Text.Record

/-!
A semaphore hands out permits without ever waiting. A permit gives its place back once,
whether it is released or dropped and however often.
-/

namespace Breakwater

/-- A bounded number of places, and how many are taken. -/
structure Semaphore where
  name : String
  limit : Nat
  acquired : Nat
  deriving DecidableEq, Repr, Inhabited

/-- The right to one place of a semaphore. -/
structure Permit where
  released : Bool
  deriving DecidableEq, Repr, Inhabited

namespace Semaphore

/-- A semaphore with all places free; it has at least one. -/
def create (name : String) (limit : Nat) : Except ArgumentError Semaphore :=
  if limit = 0 then .error .semaphoreLimit else .ok ⟨name, limit, 0⟩

/-- Take a place if one is free. -/
def tryAcquire (semaphore : Semaphore) : Option (Permit × Semaphore) :=
  if semaphore.acquired < semaphore.limit then
    some (⟨false⟩, { semaphore with acquired := semaphore.acquired + 1 })
  else none

/-- One place less is taken. -/
def giveBack (semaphore : Semaphore) : Semaphore :=
  { semaphore with acquired := semaphore.acquired - 1 }

/-- Give a permit's place back, unless it was given back before. -/
def release (semaphore : Semaphore) (permit : Permit) : Permit × Semaphore :=
  if permit.released then (permit, semaphore) else (⟨true⟩, semaphore.giveBack)

/-- A permit that goes away gives its place back. -/
def drop (semaphore : Semaphore) (permit : Permit) : Semaphore :=
  (semaphore.release permit).2

/-- Free places. -/
def available (semaphore : Semaphore) : Nat := semaphore.limit - semaphore.acquired

def describe (semaphore : Semaphore) : String :=
  Text.record "TryableSemaphore" [
    ("name", Text.quoted semaphore.name),
    ("limit", toString semaphore.limit),
    ("acquired", toString semaphore.acquired)
  ]

/-- A place is granted exactly while one is free. -/
theorem tryAcquire_isSome {semaphore : Semaphore}
    : semaphore.tryAcquire.isSome ↔ semaphore.acquired < semaphore.limit := by
  unfold tryAcquire
  split <;> simp_all

end Semaphore

end Breakwater
