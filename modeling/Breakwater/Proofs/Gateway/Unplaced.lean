import Breakwater.Proofs.Call.Unplaced
import Breakwater.Proofs.Gateway.Agenda

/-! The steps of a dependency without the places that its timeouts have in the timer. -/

namespace Breakwater.Gateway

variable {α : Type}

variable (gateway : Gateway α)

theorem unplaced_unplaced : gateway.unplaced.unplaced = gateway.unplaced := by
  rw [unplaced, unplaced, Dependency.unplaced_unplaced]
  rfl

theorem unplaced_of_eq {left right : Gateway α} (same : left.unplaced = right)
    : left.unplaced = right.unplaced := by
  rw [← same, unplaced_unplaced]

theorem commands_unplaced (number : Nat)
    : gateway.unplaced.dependency.commands[number]?
      = gateway.dependency.commands[number]?.map Command.unplaced :=
  List.getElem?_map

theorem unplaced_onCommand (number : Nat) {change : Call α → Call α}
    (same : ∀ call, (change call).unplaced = change call.unplaced)
    : (gateway.onCommand number change).unplaced = gateway.unplaced.onCommand number change := by
  rw [onCommand, onCommand, commands_unplaced]
  cases gateway.dependency.commands[number]? with
  | none => rfl
  | some command =>
      simp only [Option.map_some]
      rw [Call.unplaced_store, same]
      rfl

theorem unplaced_mapDependency (change : Dependency α → Dependency α)
    (same : (change gateway.dependency).unplaced = change gateway.dependency.unplaced)
    : (gateway.mapDependency change).unplaced = gateway.unplaced.mapDependency change := by
  show Gateway.mk _ _ (change gateway.dependency).unplaced = _
  rw [same]
  rfl

theorem unplaced_submit (number : Nat)
    : (gateway.submit number).2.unplaced = (gateway.unplaced.submit number).2.unplaced := by
  rw [submit, submit, commands_unplaced]
  cases gateway.dependency.commands[number]? with
  | none => exact gateway.unplaced_unplaced.symm
  | some command =>
      have fresh : command.unplaced.lifecycle = command.lifecycle := rfl
      simp only [Option.map_some, fresh]
      split
      · rw [Call.unplaced_store, Call.unplaced_store, Call.unplaced_submit]
        rfl
      · exact gateway.unplaced_unplaced.symm

theorem unplaced_pickUp
    : (gateway.step .pickUp).unplaced = (gateway.unplaced.step .pickUp).unplaced := by
  show ((gateway.pickUp?.map (·.2)).getD gateway).unplaced
    = ((gateway.unplaced.pickUp?.map (·.2)).getD gateway.unplaced).unplaced
  have pool : gateway.unplaced.dependency.pool = gateway.dependency.pool := rfl
  simp only [pickUp?, pool]
  cases gateway.dependency.pool with
  | none => exact gateway.unplaced_unplaced.symm
  | some pool =>
      simp only [Option.bind_eq_bind, Option.bind_some, Option.pure_def]
      cases pool.pickUp? with
      | none => exact gateway.unplaced_unplaced.symm
      | some answer =>
          let taken := gateway.mapDependency ({ · with pool := some answer.2 })
          exact unplaced_of_eq
            (taken.unplaced_onCommand answer.1 (Call.unplaced_startWork · .worker))

theorem unplaced_cancel (number : Nat)
    : (gateway.cancel number).2.unplaced = (gateway.unplaced.cancel number).2 := by
  rw [cancel, cancel, commands_unplaced]
  cases gateway.dependency.commands[number]? with
  | none => rfl
  | some command =>
      have active : command.unplaced.lifecycle = command.lifecycle := rfl
      have returned : command.unplaced.hasReturned = command.hasReturned := rfl
      simp only [Option.map_some, active, returned]
      split
      · rw [Call.unplaced_store, Call.unplaced_abandon]
        rfl
      · rfl

theorem unplaced_take (number : Nat)
    : (gateway.take number).2.unplaced = (gateway.unplaced.take number).2 := by
  rw [take, take, commands_unplaced]
  cases gateway.dependency.commands[number]? with
  | none => rfl
  | some command =>
      have completion : command.unplaced.completion = command.completion := rfl
      simp only [Option.map_some, completion]
      split
      · rfl
      · rfl
      · rw [Call.unplaced_store]
        rfl

theorem unplaced_step {step : Step α} (own : step.isLocal)
    : (gateway.step step).unplaced = (gateway.unplaced.step step).unplaced := by
  cases step with
  | advance | setClock | timeoutFired | timerUsed => cases own
  | create hasFallback =>
      refine unplaced_of_eq ?_
      simp only [step, create, unplaced, Dependency.addCommand, Dependency.unplaced,
        List.map_append]
      cases hasFallback <;> rfl
  | submit number => exact gateway.unplaced_submit number
  | handOff number =>
      exact unplaced_of_eq (gateway.unplaced_onCommand number Call.unplaced_handOff)
  | pickUp => exact gateway.unplaced_pickUp
  | workReturned number result =>
      exact unplaced_of_eq
        (gateway.unplaced_onCommand number (Call.unplaced_workReturned · result))
  | fallbackReturned number result =>
      exact unplaced_of_eq
        (gateway.unplaced_onCommand number (Call.unplaced_fallbackReturned · result))
  | cancel number => exact unplaced_of_eq (gateway.unplaced_cancel number)
  | take number => exact unplaced_of_eq (gateway.unplaced_take number)
  | pump => exact unplaced_of_eq rfl
  | askCircuit =>
      exact unplaced_of_eq
        (gateway.unplaced_mapDependency _ (Dependency.unplaced_isCircuitOpen _ _))
  | drawWindow millis => exact unplaced_of_eq rfl
  | resetHealth => exact unplaced_of_eq rfl
  | acquireOutside bulkhead =>
      exact unplaced_of_eq
        (gateway.unplaced_mapDependency _ (Dependency.unplaced_acquireOutside _ bulkhead))
  | releaseOutside permit =>
      exact unplaced_of_eq
        (gateway.unplaced_mapDependency _ (Dependency.unplaced_releaseOutside _ permit))
  | shutdownPool => exact unplaced_of_eq rfl

/-- A timeout that waits in a timer that runs goes the same way without its place, once it fires. -/
theorem Timed.unplaced_timeoutFired {gateway : Gateway α} (timed : gateway.Timed)
    (running : gateway.timer.isShutdown = false) {number : Nat} {handle : TimerHandle}
    (holds : gateway.timer.Holds ⟨gateway.dependency.id, number⟩ handle)
    : (gateway.timeoutFired number).unplaced
      = gateway.unplaced.onCommand number Call.timedOut := by
  obtain ⟨command, found, _, held⟩ := timed.found_of_holds holds
  have blank : gateway.unplaced.dependency.commands[number]? = some command.unplaced := by
    rw [commands_unplaced, found]
    rfl
  simp only [timeoutFired, found, held, Option.bind_some, Timer.fire?_of_holds running holds,
    onCommand, blank]
  rw [Call.unplaced_store, Call.unplaced_timedOut]
  have runs : (gateway.timer.drop handle .fired).isShutdown = gateway.timer.isShutdown := by
    rw [Timer.drop_eq holds]
  simp only [Call.unplaced, unplaced, runs]

@[simp]
theorem isArmed_unplaced (number : Nat)
    : gateway.unplaced.isArmed number = gateway.isArmed number := by
  rw [isArmed, isArmed, commands_unplaced]
  cases gateway.dependency.commands[number]? with
  | none => rfl
  | some command =>
      have timeout : command.unplaced.timeout = command.timeout := rfl
      simp only [Option.map_some, Option.bind_some, Command.armedHandle, timeout]
      split
      · exact Option.isSome_map
      · rfl

theorem subject_unplaced (step : Step α)
    : step.subject gateway.unplaced = step.subject gateway := by
  cases step <;> rfl

end Breakwater.Gateway
