import Breakwater.Gateway
import Breakwater.Proofs.Dependency.Built

/-! Runs of one dependency: whatever its commands and their surroundings do, in any order. -/

namespace Breakwater

/-- What other dependencies do with the timer that they share with this one. -/
inductive TimerUse where
  | register (listener : CommandRef) (due : Nat)
  | cancel (token : TimerToken)
  | fire (token : TimerToken)
  | shutdown
  deriving DecidableEq, Repr

namespace Gateway

variable {α : Type}

/-- One thing that can happen at a dependency. -/
inductive Step (α : Type) where
  | advance (millis : Nat)
  | setClock (millis : Nat)
  | create (hasFallback : Bool)
  | submit (number : Nat)
  | handOff (number : Nat)
  | pickUp
  | workReturned (number : Nat) (result : Except WorkError α)
  | fallbackReturned (number : Nat) (result : Except WorkError α)
  | timeoutFired (number : Nat)
  | cancel (number : Nat)
  | take (number : Nat)
  | pump
  | askCircuit
  /-- The jitter draws another sleep window. It does so at a trip, but no probe can be admitted in
  the step that trips, so that a draw may come as a step of its own.
  -/
  | drawWindow (millis : Nat)
  | resetHealth
  | acquireOutside (bulkhead : Bulkhead)
  | releaseOutside (permit : Nat)
  | shutdownPool
  | timerUsed (use : TimerUse)

/-- The armed registration of a token, if another dependency made it. -/
def foreignSlot? (gateway : Gateway α) (token : TimerToken) : Option (TimerSlot CommandRef) :=
  (gateway.timer.slot? token).filter fun slot =>
    slot.listener.any (fun listener => listener.dependency != gateway.dependency.id)

/-- The shared timer after another dependency used it. Each dependency only touches the
registrations that it made.
-/
def timerAfter (gateway : Gateway α) : TimerUse → Timer CommandRef
  | .register listener due =>
      if listener.dependency = gateway.dependency.id then gateway.timer
      else
        match gateway.timer.register listener due with
        | .ok (_, timer) => timer
        | .error _ => gateway.timer
  | .cancel token =>
      match gateway.foreignSlot? token with
      | some slot => (gateway.timer.cancel ⟨token, slot.number⟩).2
      | none => gateway.timer
  | .fire token =>
      match gateway.foreignSlot? token, gateway.timer.fire? token with
      | some _, some (_, timer) => timer
      | _, _ => gateway.timer
  | .shutdown => gateway.timer.shutdown

/-- Take one step; one that does not apply changes nothing. -/
def step (gateway : Gateway α) : Step α → Gateway α
  | .advance millis => { gateway with clock := gateway.clock.advance millis }
  | .setClock millis => { gateway with clock := gateway.clock.set millis }
  | .create hasFallback => (gateway.create hasFallback).2
  | .submit number => (gateway.submit number).2
  | .handOff number => gateway.handOff number
  | .pickUp => (gateway.pickUp?.map (·.2)).getD gateway
  | .workReturned number result => gateway.workReturned number result
  | .fallbackReturned number result => gateway.fallbackReturned number result
  | .timeoutFired number => gateway.timeoutFired number
  | .cancel number => (gateway.cancel number).2
  | .take number => (gateway.take number).2
  | .pump => gateway.pump.2
  | .askCircuit =>
      gateway.mapDependency fun dependency => (dependency.isCircuitOpen gateway.clock.now).2
  | .drawWindow millis => gateway.mapDependency (·.drawWindow millis)
  | .resetHealth => gateway.mapDependency (·.mapMetrics Metrics.resetHealth)
  | .acquireOutside bulkhead =>
      gateway.mapDependency fun dependency => (dependency.acquireOutside bulkhead).2
  | .releaseOutside permit => gateway.mapDependency (·.releaseOutside permit)
  | .shutdownPool => gateway.mapDependency Dependency.shutdown
  | .timerUsed use => { gateway with timer := gateway.timerAfter use }

/-- Take steps in order. -/
def run (gateway : Gateway α) (steps : List (Step α)) : Gateway α := steps.foldl step gateway

@[simp]
theorem run_nil (gateway : Gateway α) : gateway.run [] = gateway := rfl

@[simp]
theorem run_cons (gateway : Gateway α) (first : Step α) (rest : List (Step α))
    : gateway.run (first :: rest) = (gateway.step first).run rest := rfl

@[simp]
theorem run_append (gateway : Gateway α) (first rest : List (Step α))
    : gateway.run (first ++ rest) = (gateway.run first).run rest :=
  List.foldl_append

/-- The dependency was put together just now, from any settings that its parts accept. Whatever
`DependencyBuilder.build` answers is such a dependency.
-/
def JustBuilt (gateway : Gateway α) : Prop :=
  ∃ builder : DependencyBuilder,
    builder.assemble gateway.dependency.id gateway.dependency.timer gateway.clock.now
      = .ok gateway.dependency

theorem justBuilt_of_build {gateway : Gateway α} {builder : DependencyBuilder}
    (built
      : builder.build gateway.dependency.id gateway.dependency.timer gateway.clock.now
        = .ok gateway.dependency)
    : gateway.JustBuilt :=
  ⟨builder, DependencyBuilder.assemble_of_build built⟩

/-- A dependency put together at time zero, on a clock and a timer of its own. -/
def ofBuilder (builder : DependencyBuilder)
    (accepted : (builder.assemble 0 0 0 : Except _ (Dependency α)).toOption.isSome)
    : Gateway α where
  clock := ⟨0⟩
  timer := .create builder.key
  dependency := (builder.assemble 0 0 0).toOption.get accepted

theorem assemble_ofBuilder (builder : DependencyBuilder)
    (accepted : (builder.assemble 0 0 0 : Except _ (Dependency α)).toOption.isSome)
    : builder.assemble (ofBuilder builder accepted).dependency.id
          (ofBuilder builder accepted).dependency.timer (ofBuilder builder accepted).clock.now
        = .ok (ofBuilder builder accepted).dependency := by
  have assembled
      : builder.assemble 0 0 0 = .ok (ofBuilder builder accepted).dependency := by
    show _ = Except.ok ((builder.assemble 0 0 0).toOption.get accepted)
    generalize (builder.assemble 0 0 0 : Except _ (Dependency α)) = answer at accepted
    cases answer with
    | error fault => cases accepted
    | ok dependency => rfl
  obtain ⟨_, _, same⟩ := DependencyBuilder.assemble_eq_ok assembled
  rw [same] at assembled ⊢
  exact assembled

theorem justBuilt_ofBuilder (builder : DependencyBuilder)
    (accepted : (builder.assemble 0 0 0 : Except _ (Dependency α)).toOption.isSome)
    : (ofBuilder builder accepted).JustBuilt :=
  ⟨builder, assemble_ofBuilder builder accepted⟩

/-- A dependency that was just built has no commands. -/
theorem JustBuilt.commands {gateway : Gateway α} (built : gateway.JustBuilt)
    : gateway.dependency.commands = [] := by
  obtain ⟨builder, assembled⟩ := built
  obtain ⟨_, _, same⟩ := DependencyBuilder.assemble_eq_ok assembled
  rw [same]

/-- What holds at the start and is kept by every step holds after every run, by induction on
the steps.
-/
theorem run_keeps (holds : Gateway α → Prop)
    (kept : ∀ gateway step, holds gateway → holds (gateway.step step))
    {gateway : Gateway α} (start : holds gateway) (steps : List (Step α))
    : holds (gateway.run steps) := by
  induction steps generalizing gateway with
  | nil => exact start
  | cons first rest ih => exact ih (kept gateway first start)

/-- What holds of no steps and of every run with one more step holds of every run. -/
theorem run_induction {motive : List (Step α) → Prop} (nil : motive [])
    (snoc : ∀ steps last, motive steps → motive (steps ++ [last])) (steps : List (Step α))
    : motive steps := by
  rw [← steps.reverse_reverse]
  induction steps.reverse with
  | nil => exact nil
  | cons last rest ih =>
      rw [List.reverse_cons]
      exact snoc rest.reverse last ih

theorem run_snoc (gateway : Gateway α) (steps : List (Step α)) (last : Step α)
    : gateway.run (steps ++ [last]) = (gateway.run steps).step last := by
  rw [run_append, run_cons, run_nil]

/-- Something holds at every step of a run, of the dependency as it is before the step. -/
def Throughout (start : Gateway α) (steps : List (Step α)) (holds : Gateway α → Step α → Prop)
    : Prop :=
  ∀ earlier step later, steps = earlier ++ step :: later → holds (start.run earlier) step

/-- Something holds at one of the steps of a run, of the dependency as it is before the step. -/
def Sometime (start : Gateway α) (steps : List (Step α)) (holds : Gateway α → Step α → Prop)
    : Prop :=
  ∃ earlier step later, steps = earlier ++ step :: later ∧ holds (start.run earlier) step

section

variable {start : Gateway α} {steps : List (Step α)} {holds : Gateway α → Step α → Prop}

theorem throughout_nil : start.Throughout [] holds := by
  intro earlier step later split
  simp at split

theorem throughout_cons {first : Step α}
    : start.Throughout (first :: steps) holds
      ↔ holds start first ∧ (start.step first).Throughout steps holds := by
  constructor
  · intro throughout
    refine ⟨throughout [] first steps rfl, ?_⟩
    intro earlier step later split
    exact throughout (first :: earlier) step later (by rw [split, List.cons_append])
  · rintro ⟨head, tail⟩ earlier step later split
    cases earlier with
    | nil =>
        obtain ⟨rfl, rfl⟩ := List.cons.inj split
        exact head
    | cons other more =>
        obtain ⟨rfl, rfl⟩ := List.cons.inj split
        exact tail more step later rfl

theorem Throughout.of_append {more : List (Step α)}
    (throughout : start.Throughout (steps ++ more) holds) : start.Throughout steps holds := by
  intro earlier step later split
  refine throughout earlier step (later ++ more) ?_
  rw [split, List.append_assoc, List.cons_append]

theorem Throughout.snoc {last : Step α} (throughout : start.Throughout steps holds)
    (final : holds (start.run steps) last) : start.Throughout (steps ++ [last]) holds := by
  intro earlier step later split
  rcases List.eq_nil_or_concat later with rfl | ⟨later, other, rfl⟩
  · obtain ⟨rfl, same⟩ := List.append_inj' split rfl
    obtain rfl : last = step := by simpa using same
    exact final
  · rw [List.concat_eq_append, ← List.cons_append, ← List.append_assoc] at split
    obtain ⟨rfl, _⟩ := List.append_inj' split rfl
    exact throughout earlier step later rfl

theorem Throughout.of_snoc {last : Step α} (throughout : start.Throughout (steps ++ [last]) holds)
    : start.Throughout steps holds ∧ holds (start.run steps) last :=
  ⟨throughout.of_append, throughout steps last [] rfl⟩

theorem not_sometime_nil : ¬start.Sometime [] holds := by
  rintro ⟨earlier, step, later, split, _⟩
  simp at split

theorem sometime_snoc {last : Step α}
    : start.Sometime (steps ++ [last]) holds
      ↔ start.Sometime steps holds ∨ holds (start.run steps) last := by
  constructor
  · rintro ⟨earlier, step, later, split, here⟩
    rcases List.eq_nil_or_concat later with rfl | ⟨later, other, rfl⟩
    · obtain ⟨rfl, same⟩ := List.append_inj' split rfl
      obtain rfl : last = step := by simpa using same
      exact .inr here
    · rw [List.concat_eq_append, ← List.cons_append, ← List.append_assoc] at split
      obtain ⟨rfl, _⟩ := List.append_inj' split rfl
      exact .inl ⟨earlier, step, later, rfl, here⟩
  · rintro (⟨earlier, step, later, rfl, here⟩ | here)
    · exact ⟨earlier, step, later ++ [last], by rw [List.append_assoc, List.cons_append], here⟩
    · exact ⟨steps, last, [], rfl, here⟩

end

end Gateway

end Breakwater
