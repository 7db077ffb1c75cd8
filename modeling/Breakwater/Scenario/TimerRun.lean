import Breakwater.Timer

/-!
Scenarios for a single timer. Its listeners log their names, cancel other registrations and
may panic. The timer stands still but for the steps that let it run, and it stops each time at
a registration of its own.
-/

namespace Breakwater.Scenario

/-- A listener of a timer scenario. A panic after its cancellations harms nobody. -/
structure TimerListener where
  label : String
  cancels : List String
  panics : Bool
  deriving DecidableEq, Repr, Inhabited

/-- One step of a timer scenario. -/
inductive TimerAction where
  | register (listener : TimerListener) (delay : Nat)
  | cancel (label : String)
  | status (label : String)
  | fire (within : Nat)
  | pending
  | shutdown
  | describe (label : String)

/-- What the listeners did. -/
inductive TimerLog where
  | fired (label : String)
  | cancelled (label : String) (answer : Option Bool)
  deriving DecidableEq, Repr

/-- A timer with the handles of its registrations by name. -/
structure TimerWorld where
  timer : Timer TimerListener
  handles : List (String × TimerHandle)
  /-- What the listeners did in this step, the latest first. -/
  log : List TimerLog

/-- The result of one step. -/
inductive TimerResult where
  | nothing
  | registered (token : TimerToken)
  | refused (error : TimerError)
  | cancelled (answer : Option Bool)
  | status (state : Option Registration)
  | text (text : String)
  deriving DecidableEq, Repr

/-- The answer to one step. -/
structure TimerAnswer where
  result : TimerResult
  pending : Nat
  log : List TimerLog
  deriving DecidableEq, Repr

namespace TimerWorld

/-- The registration at which the timer stops. -/
def stop : TimerListener := ⟨"", [], false⟩

/-- So many moments, in which one registration can be made each, make up one unit of a delay. -/
def resolution : Nat := 0x100000000

/-- Register a listener at a moment of its own, so that no two are due at the same time. -/
def register (world : TimerWorld) (listener : TimerListener) (delay : Nat)
    : Except TimerError (TimerHandle × Timer TimerListener) :=
  world.timer.register listener (delay * resolution + world.timer.registrations.length)

/-- Fire the registration at which the timer stops. -/
def fireStop (world : TimerWorld) (handle : TimerHandle) : TimerWorld :=
  match world.timer.fire? handle.token with
  | none => world
  | some (_, timer) => { world with timer }

/-- Cancel the registration of a name. -/
def cancel (world : TimerWorld) (label : String) : Option Bool × TimerWorld :=
  match world.handles.lookup label with
  | none => (none, world)
  | some handle =>
      let (answer, timer) := world.timer.cancel handle
      (some answer, { world with timer })

/-- Run a listener that has fired. -/
def tick (world : TimerWorld) (listener : TimerListener) : TimerWorld :=
  let fired := { world with log := .fired listener.label :: world.log }
  listener.cancels.foldl (fun world label =>
    let (answer, next) := world.cancel label
    { next with log := .cancelled label answer :: next.log }) fired

/-- Fire what is due before the horizon, at most so many registrations. -/
def fireUpTo (horizon : Nat) : Nat → TimerWorld → TimerWorld
  | 0, world => world
  | count + 1, world =>
      match world.timer.fireNext? horizon with
      | none => world
      | some (listener, timer) => fireUpTo horizon count ({ world with timer }.tick listener)

/-- Let the timer run until everything is fired that is due before the horizon. -/
def fire (world : TimerWorld) (within : Nat) : TimerWorld :=
  match world.register stop within with
  | .error _ => world
  | .ok (handle, timer) =>
      (fireUpTo (within * resolution) timer.pending { world with timer }).fireStop handle

/-- A timer that has just stopped for the first time. -/
def create (name : String) : TimerWorld := fire ⟨.create name, [], []⟩ 0

def act (world : TimerWorld) : TimerAction → TimerResult × TimerWorld
  | .register listener delay =>
      match world.register listener delay with
      | .error error => (.refused error, world)
      | .ok (handle, timer) =>
          (.registered handle.token,
            { world with timer, handles := (listener.label, handle) :: world.handles })
  | .cancel label =>
      let (answer, next) := world.cancel label
      (.cancelled answer, next)
  | .status label => (.status ((world.handles.lookup label).map world.timer.registration), world)
  | .fire within => (.nothing, world.fire within)
  | .pending => (.nothing, world)
  | .shutdown => (.nothing, { world with timer := world.timer.shutdown })
  | .describe label =>
      match world.handles.lookup label with
      | some handle => (.text (world.timer.describeHandle handle), world)
      | none => (.text world.timer.describe, world)

/-- Take one step with a log of its own. -/
def takeStep (world : TimerWorld) (action : TimerAction) : TimerAnswer × TimerWorld :=
  let (result, next) := { world with log := [] }.act action
  (⟨result, next.timer.pending, next.log.reverse⟩, next)

end TimerWorld

end Breakwater.Scenario
