import Breakwater.Scenario.Schedule

/-!
What each step of a scenario does and answers, and the run of a whole scenario.
-/

namespace Breakwater.Scenario

/-! ### Reports -/

/-- What can be seen of a command by its name. -/
def reportOf (name : String) : Run (Option CommandReport) := do
  let some named ← commandNamed? name | return none
  let some command ← commandAt? named.ref | return none
  let some dependency ← dependency? named.ref.dependency | return none
  if named.owned || named.hasHandle then
    return some {
      key := dependency.key
      record := command.record
      progress :=
        if named.owned then some ⟨command.lifecycle, command.timeout, command.threadState⟩
        else none
      done := if named.hasHandle then some command.completion.isDone else none
    }
  else return none

/-- Armed registrations of a timer. -/
def pendingOf (timer : Nat) : Run Nat := do
  return ((← get).fleet.timers[timer]?.map Timer.pending).getD 0

/-- The dependency that a step is about: the one it names, or else that of its command. -/
def subjectOf? (target : Target) : Run (Option Nat) := do
  match ← dependencyNamed? target.dependency with
  | some id => return some id
  | none => return (← commandNamed? target.command).map (·.ref.dependency)

def statusOf (target : Target) : Run (Option DependencyStatus) := do
  let some id ← subjectOf? target | return none
  let some dependency ← dependency? id | return none
  return some {
    circuit := dependency.circuit.state
    permits := dependency.semaphore.acquired
    fallbackPermits := dependency.fallbackSemaphore.acquired
    concurrent := dependency.metrics.concurrent
    pool := dependency.pool.map WorkerPool.stats
    timers := ← pendingOf dependency.timer
  }

def placesOf (semaphore : Semaphore) : Places := ⟨semaphore.available, semaphore.limit⟩

/-- All that can be seen of a dependency. -/
def dependencyReport (dependency : Dependency Int) (now : Nat) : DependencyReport where
  keys := [dependency.key, dependency.circuit.name, dependency.metrics.key]
  health := dependency.metrics.healthCounts
  rolling := dependency.metrics.rollingCounts
  totals := dependency.metrics.totalCounts
  concurrent := dependency.metrics.concurrent
  late := dependency.metrics.lateCount
  dropped := dependency.metrics.droppedCount
  circuitClosed := dependency.circuit.state = .closed
  sleepWindow := dependency.circuit.sleepWindow
  main := placesOf dependency.semaphore
  fallback := placesOf dependency.fallbackSemaphore
  hasPool := dependency.pool.isSome
  now := now

/-! ### Commands -/

/-- Name a command. -/
def nameCommand (name : String) (ref : CommandRef) (owned hasHandle : Bool) : Run Unit :=
  modify fun world => { world with commands := world.commands.put name ⟨ref, owned, hasHandle⟩ }

/-- Say of a named command whether its handle is held. -/
def setHandle (name : String) (hasHandle : Bool) : Run Unit := do
  if let some named ← commandNamed? name then nameCommand name named.ref named.owned hasHandle

/-- Take the outcome of a command if it has one. -/
def takeOutcome (ref : CommandRef) : Run (Option (Outcome Int)) := do
  return (← atDependency ref.dependency (·.take ref.command)).join

/-- Submit a command under its name. -/
def submitNamed (nested : Nested) (name : String) (ref : CommandRef) : Run StepResult := do
  match ← submit nested ref with
  | .error error => return .submissionRefused error (← reportOf name)
  | .ok () =>
      setHandle name true
      return .submitted (← reportOf name)

/-- Wait for the outcome of a command under its name; its handle goes with the outcome. -/
def awaitNamed (name : String) (ref : CommandRef) : Run Waiting := do
  match ← takeOutcome ref with
  | none => return .pending
  | some outcome =>
      setHandle name false
      return .outcome outcome

/-- Submit a command and wait for it, and the same again with new commands. -/
def executeRepeatedly (nested : Nested) (dependency : Nat) (label : String) (work : Script)
    : Nat → Run (List (Outcome Int))
  | 0 => return []
  | times + 1 => do
      let some ref ← createCommand dependency label work none | return []
      let _ ← submit nested ref
      let outcome ← takeOutcome ref
      let more ← executeRepeatedly nested dependency label work times
      return outcome.toList ++ more

/-- Submit a command of which only the handle is kept. A fallback always goes with it. -/
def submitForHandle (nested : Nested) (dependency : Nat) (name : String) (work : Script)
    (fallback : Option Script) : Run StepResult := do
  let some ref ← createCommand dependency name work (some (fallback.getD .idle)) | return .nothing
  match ← submit nested ref with
  | .error error => return .launchRefused error
  | .ok () =>
      nameCommand name ref false true
      return .command (← reportOf name)

/-! ### Registry -/

/-- The registry, which is created on its first use. -/
def theRegistry : Run Registry := do
  let world ← get
  match world.registry with
  | some registry => return registry
  | none =>
      let (registry, fleet) := Registry.create world.fleet
      set { world with registry := some registry, fleet }
      return registry

/-- The dependency of a key, built on its first use. -/
def getOrCreate (key : String) (config : CommandConfig) : Run (Except BuildFault Nat) := do
  let registry ← theRegistry
  match registry.getOrCreate (← get).fleet key config with
  | .error fault => return .error fault
  | .ok (id, registry, fleet) =>
      modify ({ · with registry := some registry, fleet })
      return .ok id

/-- Name a dependency. -/
def nameDependency (name : String) (id : Nat) : Run Unit :=
  modify fun world => { world with dependencies := world.dependencies.put name id }

/-- Submit a command to the dependency of a key. -/
def submitThroughRegistry (nested : Nested) (name key : String) (settings : Setting)
    (work : Script) (fallback : Option Script) : Run StepResult := do
  let some config := CommandConfig.ofSetting? settings | return .settingsRefused
  match ← getOrCreate key config with
  | .error (.argument error) => return .argumentRefused error
  | .error (.refused error) => return .launchRefused (error.toCommandError key)
  | .ok id =>
      let pooled := ((← dependency? id).bind (·.pool)).isSome
      if pooled || work.gated || (fallback.map (·.gated)).getD false then
        let _ ← identify id
      submitForHandle nested id name work fallback

/-! ### Steps -/

/-- Build a dependency and name it. -/
def build (target : Target) (plan : BuildPlan) : Run StepResult := do
  let some settings := CommandConfig.ofSetting? plan.settings | return .settingsRefused
  let builder : DependencyBuilder := {
    key := plan.key
    config := settings.changeAll plan.changes
    classifier := plan.classifier
    listeners := if plan.listened then .all else {}
    driven := plan.driven
  }
  let timer := if plan.ownTimer then none else some World.sharedTimer
  match (← get).fleet.build builder timer with
  | .error (.argument error) => return .argumentRefused error
  | .error (.refused error) => return .buildRefused error
  | .ok (id, fleet) =>
      modify ({ · with fleet })
      nameDependency target.dependency id
      let _ ← identify id
      return .built builder.config (if plan.described then some builder.describe else none)

/-- Ask a circuit or report to it. -/
def callBreaker (id : Nat) (call : BreakerCall) : Run StepResult := do
  let ask (question : Dependency Int → Nat → Bool × Dependency Int) : Run StepResult := do
    let answer ← atDependency id fun gateway =>
      let (answer, dependency) := question gateway.dependency gateway.clock.now
      (answer, { gateway with dependency })
    match answer with
    | some answer => return .flag answer
    | none => return .nothing
  match call with
  | .allowRequest => ask Dependency.allowRequest
  | .isOpen => ask Dependency.isCircuitOpen
  | .allowSingleTest => ask Dependency.allowSingleTest
  | .markSuccess =>
      changeDependency id fun gateway => gateway.mapDependency (·.markSuccess gateway.clock.now)
      return .nothing
  | .markNonSuccess =>
      changeDependency id (·.mapDependency Dependency.markNonSuccess)
      return .nothing

/-- Take a permit under a name; a permit that had the name goes away. -/
def acquire (id : Nat) (bulkhead : Bulkhead) (name : String) : Run StepResult := do
  let number ← atDependency id fun gateway =>
    let (number, dependency) := gateway.dependency.acquireOutside bulkhead
    (number, { gateway with dependency })
  match number with
  | some (some number) =>
      if let some (holder, held) := (← get).permits.lookup name then
        changeDependency holder (·.mapDependency (·.releaseOutside held))
      modify fun world => { world with permits := world.permits.put name (id, number) }
      return .flag true
  | _ => return .flag false

/-- Subscribe to a topic under a name; a subscription that had the name goes away. -/
def observe (id : Nat) (topic : Metrics.Topic) (name : String) : Run StepResult := do
  let observer ← atDependency id fun gateway =>
    let (observer, metrics) := gateway.dependency.metrics.observe topic
    (observer, gateway.mapDependency (·.mapMetrics fun _ => metrics))
  if let some observer := observer then
    if let some (holder, held) := (← get).subscriptions.lookup name then
      changeDependency holder (·.mapDependency (·.mapMetrics (·.forget held)))
    modify fun world =>
      { world with subscriptions := world.subscriptions.put name (id, observer) }
  return .nothing

/-- Describe something. -/
def describe (target : Target) (subject : Subject) : Run (Option String) := do
  let dependencies := (← get).fleet.dependencies
  let dependency := (← dependencyNamed? target.dependency).bind (dependencies[·]?)
  let named ← commandNamed? target.command
  let holder := named.bind fun named => dependencies[named.ref.dependency]?
  let command := named.bind fun named => holder.bind (·.commands[named.ref.command]?)
  let owned := if (named.map (·.owned)).getD false then command else none
  let key := (holder.map (·.key)).getD ""
  match subject with
  | .dependency => return dependency.map Dependency.describe
  | .circuit => return dependency.map (·.circuit.describe)
  | .metrics => return dependency.map (·.metrics.describe)
  | .pool =>
      return dependency.map fun dependency => Text.optional WorkerPool.describe dependency.pool
  | .registry =>
      let registry ← theRegistry
      return (← get).fleet.timers[registry.timer]?.map registry.describe
  | .record => return owned.map (·.record.describe)
  | .command => return owned.map (·.describe "Command" key)
  | .handle =>
      if (named.map (·.hasHandle)).getD false then
        return command.map (·.describe "CommandHandle" key)
      else return none

/-- Steps about the dependency that the step names. -/
def actOnDependency (id : Nat) (action : Action) : Run StepResult := do
  match action with
  | .pump driven =>
      let closed ← atDependency id Gateway.pump
      if driven then return .nothing
      else return (closed.map StepResult.number).getD .nothing
  | .acquire bulkhead permit => acquire id bulkhead permit
  | .mark tags times =>
      times.forM fun _ _ => changeDependency id (·.markDone (.ofTags tags))
      return .nothing
  | .resetHealth =>
      changeDependency id (·.mapDependency (·.mapMetrics Metrics.resetHealth))
      return .nothing
  | .breaker call => callBreaker id call
  | .classify error millis =>
      let some dependency ← dependency? id | return .nothing
      return .flag (dependency.classifier.trips ⟨dependency.key, error, millis⟩)
  | .state =>
      let some dependency ← dependency? id | return .nothing
      return .state (dependencyReport dependency (← get).fleet.clock.now)
  | .observe topic subscription => observe id topic subscription
  | .shutdown =>
      openGates id
      modify fun world => { world with fleet := world.fleet.shutdown id }
      return .nothing
  | _ => return .nothing

/-- Steps about the command that the step names. -/
def actOnCommand (nested : Nested) (name : String) (named : NamedCommand) (action : Action)
    : Run StepResult := do
  match action with
  | .submitCreated =>
      if named.owned then submitNamed nested name named.ref else return .nothing
  | .wait =>
      if named.hasHandle then return .waited (← awaitNamed name named.ref)
      else return .waited .noHandle
  | .waitTimeout =>
      if named.hasHandle then
        match ← takeOutcome named.ref with
        | none => return .waited .expired
        | some outcome => return .waited (.outcome outcome)
      else return .waited .noHandle
  | .cancel =>
      if named.hasHandle then
        let answer ← atDependency named.ref.dependency (·.cancel named.ref.command)
        return .cancelled (answer.getD false) (← reportOf name)
      else return .waited .noHandle
  | .inspect => return .command (← reportOf name)
  | _ => return .nothing

/-- The answer of a step about a command that does not exist. -/
def withoutCommand : Action → StepResult
  | .wait | .waitTimeout | .cancel => .waited .noHandle
  | .inspect => .command none
  | _ => .nothing

/-- Steps about the registry. -/
def actOnRegistry (target : Target) (action : Action) : Run StepResult := do
  match action with
  | .registryGetOrCreate key settings =>
      let some config := CommandConfig.ofSetting? settings | return .settingsRefused
      match ← getOrCreate key config with
      | .error (.argument error) => return .argumentRefused error
      | .error (.refused error) => return .buildRefused error
      | .ok id =>
          nameDependency target.dependency id
          let identity ← identify id
          let some dependency ← dependency? id | return .nothing
          return .registered identity dependency.config
  | .registryGet key =>
      match (← theRegistry).get? key with
      | none => return .identity none
      | some id =>
          nameDependency target.dependency id
          return .identity (some (← identify id))
  | .registryRemove key =>
      let registry ← theRegistry
      match registry.get? key with
      | none => return .identity none
      | some id =>
          let identity ← identify id
          openGates id
          let (_, registry, fleet) := registry.remove (← get).fleet key
          modify ({ · with registry := some registry, fleet })
          return .identity (some identity)
  | .registryInfo =>
      let registry ← theRegistry
      return .registry {
        keys := registry.keys
        size := registry.size
        isEmpty := registry.isEmpty
        pending := ← pendingOf registry.timer
        now := (← get).fleet.clock.now
      }
  | _ => return .nothing

/-- Steps that start no command. -/
def act (nested : Nested) (target : Target) (action : Action) : Run StepResult := do
  match action with
  | .build plan => build target plan
  | .advance millis =>
      pass millis
      return .number (← get).fleet.clock.now
  | .setClock millis =>
      modify fun world => { world with fleet := world.fleet.setClock millis }
      return .number (← get).fleet.clock.now
  | .openGate stage =>
      match ← openGate target.command stage with
      | none => return .nothing
      | some waited => return .flag waited
  | .release permit =>
      match (← get).permits.lookup permit with
      | none => return .nothing
      | some (holder, number) =>
          changeDependency holder (·.mapDependency (·.releaseOutside number))
          return .flag true
  | .dropPermit permit =>
      match (← get).permits.lookup permit with
      | none => return .flag false
      | some (holder, number) =>
          changeDependency holder (·.mapDependency (·.releaseOutside number))
          modify fun world =>
            { world with permits := world.permits.erase permit }
          return .flag true
  | .drain subscription =>
      match (← get).subscriptions.lookup subscription with
      | none => return .news none
      | some (id, observer) =>
          let news ← atDependency id fun gateway =>
            let (news, metrics) := gateway.dependency.metrics.drain observer
            (news, gateway.mapDependency (·.mapMetrics fun _ => metrics))
          return .news news
  | .fire =>
      fire nested
      return .nothing
  | .shutdownTimer =>
      modify fun world => { world with fleet := world.fleet.shutdownTimer World.sharedTimer }
      return .nothing
  | .describe subject => return .text (← describe target subject)
  | .registryGetOrCreate _ _ | .registryGet _ | .registryRemove _ | .registryInfo =>
      actOnRegistry target action
  | .submitCreated | .wait | .waitTimeout | .cancel | .inspect =>
      match ← commandNamed? target.command with
      | some named => actOnCommand nested target.command named action
      | none => return withoutCommand action
  | _ =>
      match ← dependencyNamed? target.dependency with
      | some id => actOnDependency id action
      | none => return .nothing

/-- Steps that start a command at the dependency named. -/
def launchAt (nested : Nested) (id : Nat) (name : String) (way : Launch) (work : Script)
    (fallback : Option Script) : Run StepResult := do
  match way with
  | .throughDependency => submitForHandle nested id name work fallback
  | .repeated times => return .outcomes (← executeRepeatedly nested id name work times)
  | _ =>
      let some ref ← createCommand id name work fallback | return .nothing
      nameCommand name ref true false
      match way with
      | .create => return .created (← reportOf name)
      | .submit => submitNamed nested name ref
      | _ =>
          match ← submitNamed nested name ref with
          | .submitted _ =>
              let waiting ← awaitNamed name ref
              return .executed waiting (← reportOf name)
          | refused => return refused

/-- Steps that start a command. -/
def launch (nested : Nested) (target : Target) (way : Launch) (work : Script)
    (fallback : Option Script) : Run StepResult := do
  match way with
  | .throughRegistry key settings =>
      submitThroughRegistry nested target.command key settings work fallback
  | _ =>
      match ← dependencyNamed? target.dependency with
      | some id => launchAt nested id target.command way work fallback
      | none => return .nothing

/-- Take one step with a log of its own. -/
def takeStep (nested : Nested) (step : Step) : Run StepAnswer := do
  let outer := (← get).log
  modify ({ · with log := [] })
  let result ← match step with
    | .act target action => act nested target action
    | .launch target way work fallback => launch nested target way work fallback
  let status ← statusOf step.target
  let inner := (← get).log.reverse
  modify ({ · with log := outer })
  return .mk result inner status

/-- Take steps, with steps inside user code nested at most so deep. -/
def takeSteps : Nat → Nested
  | 0, _ => return []
  | depth + 1, steps => steps.mapM (takeStep (takeSteps depth))

/-- Take the steps of a scenario. User code nests no deeper than there are steps, since each
piece of it runs once for the step that brought it.
-/
def run (start : Nat) (steps : List Step) : List StepAnswer :=
  ((takeSteps (stepCountAll steps + 1) steps).run (World.create start)).1

end Breakwater.Scenario
