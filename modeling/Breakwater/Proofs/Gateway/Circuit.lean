import Breakwater.Proofs.Call.Circuit

/-! The circuit along the steps of a dependency: it moves when it is asked to let a command pass,
and when it is told of one, and then as what it is told demands.
-/

namespace Breakwater

variable {α : Type}

/-- A breaker that is in use and not forced either way. -/
structure BreakerConfig.IsFree (config : BreakerConfig) : Prop where
  enabled : config.enabled = true
  notForcedOpen : config.forceOpen = false
  notForcedClosed : config.forceClosed = false

namespace Breaker

/-- The state of a circuit that is not forced open shows in its moving parts. -/
theorem state_eq_switch {σ : Type} {breaker : Breaker σ} (free : breaker.config.IsFree)
    : breaker.state = breaker.switch.state := by
  cases opened : breaker.opened <;> cases probing : breaker.probing <;>
    simp [state, Switch.state, switch, free.notForcedOpen, opened, probing]

variable {σ : Type} [HealthSource σ]

/-- Whether a request that is made now would pass as the probe of an open circuit. -/
def admitsProbe (breaker : Breaker σ) (now : Nat) : Bool :=
  breaker.config.enabled && !breaker.config.forceOpen && !breaker.config.forceClosed
    && (breaker.isOpen now).1 && ((breaker.isOpen now).2.1.allowSingleTest now).1

/-- An open circuit lets a probe pass, and nothing else. -/
theorem allowRequest_of_opened {breaker : Breaker σ} (free : breaker.config.IsFree)
    (opened : breaker.opened) (now : Nat)
    : (breaker.allowRequest now).1 = breaker.admitsProbe now
      ∧ (breaker.allowRequest now).2.1.switch
        = if breaker.admitsProbe now then
            { breaker.switch with lastAttempt := now, probing := true }
          else breaker.switch := by
  have still : breaker.isOpen now = (true, breaker, []) := by simp [isOpen, opened]
  simp only [allowRequest, admitsProbe]
  simp only [free.enabled, free.notForcedOpen, free.notForcedClosed, still]
  by_cases waits : now ≤ breaker.lastAttempt + breaker.sleepWindow
  · have test : breaker.allowSingleTest now = (false, breaker, []) := by
      simp [allowSingleTest, opened, waits]
    simp [test]
  · have test : breaker.allowSingleTest now
        = (true, { breaker with lastAttempt := now, probing := true },
            [breaker.report .probed now]) := by
      simp [allowSingleTest, opened, waits]
    simp [test, switch]

end Breaker

namespace Gateway

/-- The command that a step is about. -/
def Step.command? : Step α → Option Nat
  | .submit number | .handOff number | .workReturned number _ | .fallbackReturned number _
  | .timeoutFired number | .cancel number | .take number => some number
  | _ => none

/-- What a step tells the circuit of its command. -/
def verdict (gateway : Gateway α) (step : Step α) : Option Verdict :=
  step.command?.bind fun number =>
    gateway.dependency.commands[number]?.bind fun command =>
      Call.verdict ⟨gateway, number, command⟩ step

/-- Whether a step submits a command that was not submitted before. -/
def submits (gateway : Gateway α) : Step α → Bool
  | .submit number =>
      gateway.dependency.commands[number]?.any (·.lifecycle == .notStarted)
  | _ => false

/-- The circuit after a step asked it or its jitter, and before the step told it of a command. -/
def asked (gateway : Gateway α) (step : Step α) : Switch :=
  if gateway.submits step then
    (gateway.dependency.allowRequest gateway.clock.now).2.circuit.switch
  else
    match step with
    | .askCircuit => (gateway.dependency.isCircuitOpen gateway.clock.now).2.circuit.switch
    | .drawWindow millis => { gateway.dependency.circuit.switch with sleepWindow := millis }
    | _ => gateway.dependency.circuit.switch

/-- The circuit and its health after a step did all it does to them but tell of a command. -/
def readied (gateway : Gateway α) (step : Step α) : Pulse :=
  { gateway.dependency.pulse with
    switch := gateway.asked step
    health :=
      match step with
      | .pump => (gateway.dependency.metrics.pump gateway.clock.now).2.health
      | .resetHealth => gateway.dependency.metrics.health.reset
      | _ => gateway.dependency.metrics.health }

/-- What is done about a command reaches the circuit only as what it is told of that. -/
theorem pulse_onCommand {gateway : Gateway α} {number : Nat} {change : Call α → Call α}
    {step : Step α} (about : step.command? = some number)
    (quiet : gateway.readied step = gateway.dependency.pulse)
    (told : ∀ call, (change call).pulse = call.pulse.told (call.verdict step))
    : (gateway.onCommand number change).dependency.pulse
      = (gateway.readied step).told (gateway.verdict step) := by
  rw [quiet, verdict, about, Option.bind_some]
  simp only [onCommand]
  cases found : gateway.dependency.commands[number]? with
  | none => rfl
  | some command => exact told ⟨gateway, number, command⟩

/-- A submission asks the circuit, and tells it of a command that finds no place. -/
theorem pulse_submit (gateway : Gateway α) (number : Nat)
    : (gateway.submit number).2.dependency.pulse
      = (gateway.readied (.submit number)).told (gateway.verdict (.submit number)) := by
  unfold submit readied asked submits verdict
  cases found : gateway.dependency.commands[number]? with
  | none => simp [Step.command?, found]; rfl
  | some command =>
      by_cases notStarted : command.lifecycle = .notStarted
      · simp only [notStarted, if_true, Step.command?, Option.bind_some, found, Option.any_some,
          BEq.rfl]
        have submitted := Call.pulse_submit ⟨gateway, number, command⟩ number notStarted
        exact submitted.trans (congrArg (Pulse.told · _) (Dependency.pulse_allowRequest _ _))
      · simp [Step.command?, found, notStarted, Call.verdict]
        rfl

/-- A worker that picks a command up tells the circuit nothing. -/
theorem pulse_pickUp (gateway : Gateway α)
    : (gateway.step .pickUp).dependency.pulse = gateway.dependency.pulse := by
  obtain none | ⟨_, number, rest, _, _, taken⟩ := pickUp_cases gateway
  · rw [none]
  · rw [taken, onCommand]
    split
    · rfl
    · exact Call.pulse_startWork _ _

/-- A timeout that fires tells the circuit of the command that it claims. -/
theorem pulse_timeoutFired (gateway : Gateway α) (number : Nat)
    : (gateway.timeoutFired number).dependency.pulse
      = gateway.dependency.pulse.told (gateway.verdict (.timeoutFired number)) := by
  simp only [timeoutFired, verdict]
  cases found : gateway.dependency.commands[number]? with
  | none => simp [Step.command?, found]
  | some command =>
      simp only [Step.command?, Option.bind_some, found, Call.verdict, Call.isArmed]
      split
      · rename_i disarmed
        simp [disarmed]
      · rename_i slot timer fired
        simp only [fired, Option.isSome_some, true_and]
        exact Call.pulse_timedOut _

/-- A cancellation tells the circuit of the command that it ends. -/
theorem pulse_cancel (gateway : Gateway α) (number : Nat)
    : (gateway.cancel number).2.dependency.pulse
      = gateway.dependency.pulse.told (gateway.verdict (.cancel number)) := by
  simp only [cancel, verdict]
  cases found : gateway.dependency.commands[number]? with
  | none => simp [Step.command?, found]
  | some command =>
      by_cases allowed : command.lifecycle.isActive ∧ command.hasReturned
      · simp only [Step.command?, Option.bind_some, found, Call.verdict, allowed, and_self,
          Bool.and_self, if_true, Call.pulse_store, Call.pulse_abandon]
        rfl
      · simp [Step.command?, found, Call.verdict, allowed]

/-- Taking an outcome tells the circuit nothing. -/
theorem pulse_take (gateway : Gateway α) (number : Nat)
    : (gateway.take number).2.dependency.pulse = gateway.dependency.pulse := by
  simp only [take]
  split
  · rfl
  · split <;> rfl

/-- A permit for somebody else is nothing to the circuit. -/
theorem pulse_acquireOutside (dependency : Dependency α) (bulkhead : Bulkhead)
    : (dependency.acquireOutside bulkhead).2.pulse = dependency.pulse := by
  simp only [Dependency.acquireOutside]
  split
  · rfl
  · cases bulkhead <;> rfl

/-- Giving back a permit of somebody else is nothing to the circuit. -/
theorem pulse_releaseOutside (dependency : Dependency α) (permit : Nat)
    : (dependency.releaseOutside permit).pulse = dependency.pulse := by
  simp only [Dependency.releaseOutside]
  split
  · rfl
  · rename_i held found
    obtain ⟨bulkhead, permit⟩ := held
    cases bulkhead <;> rfl

/-- A step moves the circuit by asking it or its jitter and by telling it of a command, and in no
other way. Its health moves on with a pump, and starts afresh if it is reset or the circuit closes
for that.
-/
theorem pulse_step (gateway : Gateway α) (step : Step α)
    : (gateway.step step).dependency.pulse
      = (gateway.readied step).told (gateway.verdict step) := by
  cases step with
  | submit number => exact gateway.pulse_submit number
  | handOff number => exact pulse_onCommand rfl rfl (fun call => call.pulse_handOff number)
  | workReturned number result =>
      exact pulse_onCommand rfl rfl (fun call => call.pulse_workReturned number result)
  | fallbackReturned number result =>
      exact pulse_onCommand rfl rfl (fun call => call.pulse_fallbackReturned result)
  | timeoutFired number => exact gateway.pulse_timeoutFired number
  | cancel number => exact gateway.pulse_cancel number
  | take number =>
      have untold : gateway.verdict (.take number) = none := by
        simp [verdict, Step.command?, Call.verdict]
      rw [untold]
      exact gateway.pulse_take number
  | pickUp => exact gateway.pulse_pickUp
  | acquireOutside bulkhead => exact pulse_acquireOutside _ bulkhead
  | releaseOutside permit => exact pulse_releaseOutside _ permit
  | askCircuit => exact gateway.dependency.pulse_isCircuitOpen gateway.clock.now
  | _ => rfl

/-- The moving parts of a circuit after a step are those it was asked with, told of the command. -/
theorem switch_step (gateway : Gateway α) (step : Step α)
    : (gateway.step step).dependency.circuit.switch
      = (gateway.asked step).told (gateway.verdict step) :=
  congrArg Pulse.switch (gateway.pulse_step step)

-----------------------------------------------------------------------------------------
-- An open circuit
-----------------------------------------------------------------------------------------

/-- The command that a step makes a probe of the open circuit. -/
def probe? (gateway : Gateway α) (step : Step α) : Option Nat :=
  if gateway.submits step && gateway.dependency.circuit.admitsProbe gateway.clock.now then
    step.command?
  else none

variable {gateway : Gateway α}

/-- Of a request the circuit alone decides, and the reports of it do not move it. -/
theorem switch_allowRequest (dependency : Dependency α) (now : Nat)
    : (dependency.allowRequest now).2.circuit.switch
      = (dependency.circuit.allowRequest now).2.1.switch :=
  Dependency.switch_noteAll _ _

/-- The circuit alone says whether it is open, and the reports of that do not move it. -/
theorem switch_isCircuitOpen (dependency : Dependency α) (now : Nat)
    : (dependency.isCircuitOpen now).2.circuit.switch
      = (dependency.circuit.isOpen now).2.1.switch :=
  Dependency.switch_noteAll _ _

/-- To how an open circuit looks it makes no difference to be asked, but for a probe. -/
theorem asked_of_opened (free : gateway.dependency.circuit.config.IsFree)
    (opened : gateway.dependency.circuit.opened) (step : Step α)
    : (gateway.asked step).opened = true
      ∧ (gateway.asked step).probing
        = ((gateway.probe? step).isSome || gateway.dependency.circuit.probing) := by
  unfold asked probe?
  cases asks : gateway.submits step with
  | true =>
      have about : step.command?.isSome := by
        cases step <;> first | rfl | simp [submits] at asks
      rw [if_pos rfl, switch_allowRequest, (Breaker.allowRequest_of_opened free opened _).2]
      cases gateway.dependency.circuit.admitsProbe gateway.clock.now <;>
        simp [about, Breaker.switch, opened]
  | false =>
      rw [if_neg Bool.false_ne_true]
      cases step with
      | askCircuit =>
          dsimp only
          rw [switch_isCircuitOpen, Breaker.isOpen, opened, Bool.or_true, if_pos rfl]
          exact ⟨opened, rfl⟩
      | _ => exact ⟨opened, rfl⟩

/-- How an open circuit looks after a step: what it is told decides, then whether it let a probe
pass.
-/
theorem state_step_of_opened (free : gateway.dependency.circuit.config.IsFree)
    (opened : gateway.dependency.circuit.opened) (step : Step α)
    : (gateway.step step).dependency.circuit.switch.state
      = match gateway.verdict step with
        | some .success => .closed
        | some .nonSuccess => .isOpen
        | none =>
            if (gateway.probe? step).isSome then .halfOpen
            else gateway.dependency.circuit.switch.state := by
  obtain ⟨still, probing⟩ := asked_of_opened free opened step
  rw [switch_step]
  cases gateway.verdict step with
  | none =>
      cases probe : (gateway.probe? step).isSome <;>
        simp [Switch.told, Switch.state, still, probing, probe, Breaker.switch, opened]
  | some verdict => cases verdict <;> simp [Switch.told, Switch.state, still]

/-- Only the return of a value tells the circuit of a success. -/
theorem verdict_of_success {step : Step α} (told : gateway.verdict step = some .success)
    : ∃ number value, step = .workReturned number (.ok value) := by
  unfold verdict at told
  obtain ⟨number, about, told⟩ := Option.bind_eq_some_iff.mp told
  obtain ⟨command, found, told⟩ := Option.bind_eq_some_iff.mp told
  cases step with
  | workReturned other result =>
      cases result with
      | ok value => exact ⟨other, value, rfl⟩
      | error error => simp [Call.verdict, Verdict.ofResult] at told
  | _ => simp [Call.verdict] at told

/-- A command that is submitted to an open circuit is no matter to it unless it is a probe. -/
theorem verdict_submit_of_opened (free : gateway.dependency.circuit.config.IsFree)
    (opened : gateway.dependency.circuit.opened) {number : Nat}
    (turnedAway : gateway.probe? (.submit number) = none)
    : gateway.verdict (.submit number) = none := by
  have passes : (gateway.dependency.allowRequest gateway.clock.now).1
      = gateway.dependency.circuit.admitsProbe gateway.clock.now :=
    (Breaker.allowRequest_of_opened free opened _).1
  simp only [verdict]
  simp only [Step.command?, Option.bind_some]
  cases found : gateway.dependency.commands[number]? with
  | none => rfl
  | some command =>
      rw [Option.bind_some, Call.verdict, if_neg]
      rintro ⟨notStarted, allowed, _⟩
      have admits : gateway.dependency.circuit.admitsProbe gateway.clock.now :=
        passes.symm.trans allowed
      simp [probe?, submits, found, admits, Step.command?] at turnedAway
      exact turnedAway notStarted

end Gateway

end Breakwater
