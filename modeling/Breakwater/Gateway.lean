import Breakwater.Gateway.Call

/-!
The steps that the commands of one dependency can take. User code is not part of a step: a
step may note that work or a fallback was started, and a later one says what it returned. Any
order of the steps is a run; a step that does not apply changes nothing.
-/

namespace Breakwater.Gateway

variable {α : Type}

/-- Work on one command. -/
def onCommand (gateway : Gateway α) (number : Nat) (change : Call α → Call α) : Gateway α :=
  match gateway.dependency.commands[number]? with
  | none => gateway
  | some command => (change ⟨gateway, number, command⟩).store

def mapDependency (gateway : Gateway α) (change : Dependency α → Dependency α) : Gateway α :=
  { gateway with dependency := change gateway.dependency }

/-- Create a command; answers its number. -/
def create (gateway : Gateway α) (hasFallback : Bool) : Nat × Gateway α :=
  let (number, dependency) := gateway.dependency.addCommand hasFallback
  (number, { gateway with dependency })

/-- Submit a command. Only the first submission counts; a later one is told the command's state
and changes nothing.
-/
def submit (gateway : Gateway α) (number : Nat) : Except CommandError Unit × Gateway α :=
  match gateway.dependency.commands[number]? with
  | none => (.ok (), gateway)
  | some command =>
      if command.lifecycle = .notStarted then
        (.ok (), (Call.submit ⟨gateway, number, command⟩).store)
      else
        (.error (.invalidState gateway.dependency.key command.lifecycle.caseName), gateway)

/-- Hand an admitted command to the pool. -/
def handOff (gateway : Gateway α) (number : Nat) : Gateway α :=
  gateway.onCommand number Call.handOff

/-- An idle worker of the pool takes the oldest command in the queue; answers which. -/
def pickUp? (gateway : Gateway α) : Option (Nat × Gateway α) := do
  let pool ← gateway.dependency.pool
  let (number, pool) ← pool.pickUp?
  let taken := gateway.mapDependency ({ · with pool := some pool })
  return (number, taken.onCommand number (·.startWork .worker))

/-- The work of a command returned. -/
def workReturned (gateway : Gateway α) (number : Nat) (result : Except WorkError α) : Gateway α :=
  gateway.onCommand number (·.workReturned result)

/-- The fallback of a command returned. -/
def fallbackReturned (gateway : Gateway α) (number : Nat) (result : Except WorkError α)
    : Gateway α :=
  gateway.onCommand number (·.fallbackReturned result)

/-- The timer fires the timeout of a command, if that is still armed. Which of the armed
timeouts is due is left to the surroundings: the timer counts in real time, not on the clock.
-/
def timeoutFired (gateway : Gateway α) (number : Nat) : Gateway α :=
  match gateway.dependency.commands[number]? with
  | none => gateway
  | some command =>
      match command.timer.bind (fun handle => gateway.timer.fire? handle.token) with
      | none => gateway
      | some (_, timer) => (Call.timedOut ⟨{ gateway with timer }, number, command⟩).store

/-- The caller cancels a command; answers whether that ended it. Only a caller to whom the
submission has returned can do so.
-/
def cancel (gateway : Gateway α) (number : Nat) : Bool × Gateway α :=
  match gateway.dependency.commands[number]? with
  | none => (false, gateway)
  | some command =>
      if command.lifecycle.isActive && command.hasReturned then
        (true, (Call.abandon ⟨gateway, number, command⟩).store)
      else (false, gateway)

/-- Take the outcome of a command if it has one. It is handed out once; after that the handle is
told so.
-/
def take (gateway : Gateway α) (number : Nat) : Option (Outcome α) × Gateway α :=
  match gateway.dependency.commands[number]? with
  | none => (none, gateway)
  | some command =>
      match command.completion with
      | .pending => (none, gateway)
      | .consumed => (some (.error (.invalidState gateway.dependency.key "Consumed")), gateway)
      | .ready outcome =>
          (some outcome, (Call.mapCommand ⟨gateway, number, command⟩
            ({ · with completion := .consumed })).store)

/-- Take in the completions and close the slices that have ended; answers how many were. -/
def pump (gateway : Gateway α) : Nat × Gateway α :=
  let (closed, metrics) := gateway.dependency.metrics.pump gateway.clock.now
  (closed, gateway.mapDependency (·.mapMetrics fun _ => metrics))

/-- Publish a record that belongs to no command. -/
def markDone (gateway : Gateway α) (record : ExecutionRecord) : Gateway α :=
  gateway.mapDependency (·.mapMetrics (·.markDone record gateway.clock.now))

end Breakwater.Gateway
