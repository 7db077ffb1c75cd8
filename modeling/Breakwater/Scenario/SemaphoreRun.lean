import Breakwater.Scenario.Names
import Breakwater.Semaphore

/-!
Scenarios for a single semaphore, whose permits are held under names.
-/

namespace Breakwater.Scenario

/-- One step of a semaphore scenario. -/
inductive SemaphoreAction where
  | acquire (name : String)
  | release (name : String)
  | drop (name : String)
  | isReleased (name : String)
  | look

/-- A semaphore with the permits that are held. -/
structure SemaphoreWorld where
  semaphore : Semaphore
  permits : Names Permit

namespace SemaphoreWorld

/-- Take a permit under a name. A permit that had the name goes away, but only after that. -/
def acquire (world : SemaphoreWorld) (name : String) : Bool × SemaphoreWorld :=
  match world.semaphore.tryAcquire with
  | none => (false, world)
  | some (permit, semaphore) =>
      let semaphore := match world.permits.lookup name with
        | some held => semaphore.drop held
        | none => semaphore
      (true, ⟨semaphore, world.permits.put name permit⟩)

/-- Take one step; a question about an unknown name is left open. -/
def takeStep (world : SemaphoreWorld) : SemaphoreAction → Option Bool × SemaphoreWorld
  | .acquire name =>
      let (answer, next) := world.acquire name
      (some answer, next)
  | .release name =>
      match world.permits.lookup name with
      | none => (none, world)
      | some held =>
          let (permit, semaphore) := world.semaphore.release held
          (some true, ⟨semaphore, world.permits.put name permit⟩)
  | .drop name =>
      match world.permits.lookup name with
      | none => (some false, world)
      | some held => (some true, ⟨world.semaphore.drop held, world.permits.erase name⟩)
  | .isReleased name => ((world.permits.lookup name).map (·.released), world)
  | .look => (none, world)

end SemaphoreWorld

end Breakwater.Scenario
