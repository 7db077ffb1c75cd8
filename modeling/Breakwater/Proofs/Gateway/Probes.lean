import Breakwater.Proofs.Gateway.Circuit
import Breakwater.Proofs.Gateway.ExactlyOnce

/-! Which commands move an open circuit. The circuit does not know whom it is told of, so a
command from before the trip counts as much as a probe does; without such commands only the
probes count.
-/

namespace Breakwater.Gateway

variable {α : Type}

-----------------------------------------------------------------------------------------
-- Probes
-----------------------------------------------------------------------------------------

/-- The probes of the open period in which a run ends, the latest first, given those known when it
starts.
-/
def probesFrom (gateway : Gateway α) (known : List Nat) : List (Step α) → List Nat
  | [] => known
  | step :: rest =>
      let next :=
        if (gateway.step step).dependency.circuit.opened then
          (gateway.probe? step).toList ++ known
        else []
      probesFrom (gateway.step step) next rest

/-- The probes that were admitted since the circuit last opened, none if it is closed. -/
def probes (start : Gateway α) (steps : List (Step α)) : List Nat := start.probesFrom [] steps

theorem probesFrom_append (gateway : Gateway α) (known : List Nat) (first rest : List (Step α))
    : gateway.probesFrom known (first ++ rest)
      = (gateway.run first).probesFrom (gateway.probesFrom known first) rest := by
  induction first generalizing gateway known with
  | nil => rfl
  | cons step more ih => exact ih (gateway.step step) _

theorem probes_snoc (start : Gateway α) (steps : List (Step α)) (last : Step α)
    : start.probes (steps ++ [last])
      = if ((start.run steps).step last).dependency.circuit.opened then
          ((start.run steps).probe? last).toList ++ start.probes steps
        else [] :=
  probesFrom_append start [] steps [last]

-----------------------------------------------------------------------------------------
-- One step
-----------------------------------------------------------------------------------------

/-- Only probes count in a step at an open circuit: a step of another command leaves the state as it
is, and the circuit closes only when a probe succeeds.
-/
structure OnlyProbesCount (gateway : Gateway α) (probes : List Nat) (step : Step α) : Prop where
  unmoved
    : ∀ number, step.command? = some number → number ∉ probes → gateway.probe? step = none
        → (gateway.step step).dependency.circuit.state = gateway.dependency.circuit.state
  closes
    : (gateway.step step).dependency.circuit.state = .closed
        → ∃ number ∈ probes, ∃ value, step = .workReturned number (.ok value)

/-- The step tells the circuit nothing of a straggler, a command that is no probe, that would move
it: no success, and while a probe is out, no other end of its work either.
-/
def StragglersHarmless (gateway : Gateway α) (probes : List Nat) (step : Step α) : Prop :=
  ∀ number, step.command? = some number → number ∉ probes → gateway.probe? step = none
    → gateway.verdict step ≠ some .success
      ∧ (gateway.dependency.circuit.state = .halfOpen
          → gateway.verdict step ≠ some .nonSuccess)

variable {gateway : Gateway α} {known : List Nat} {step : Step α}

theorem onlyProbesCount_iff (free : gateway.dependency.circuit.config.IsFree)
    (stillFree : (gateway.step step).dependency.circuit.config.IsFree)
    (opened : gateway.dependency.circuit.opened)
    : gateway.OnlyProbesCount known step ↔ gateway.StragglersHarmless known step := by
  have moves := state_step_of_opened free opened step
  rw [← Breaker.state_eq_switch free, ← Breaker.state_eq_switch stillFree] at moves
  have before : gateway.dependency.circuit.state = .isOpen
      ∨ gateway.dependency.circuit.state = .halfOpen := by
    rw [Breaker.state_eq_switch free]
    have still : gateway.dependency.circuit.switch.opened = true := opened
    cases probing : gateway.dependency.circuit.switch.probing <;>
      simp [Switch.state, still, probing]
  constructor
  · intro counts number about straggler unprobed
    have same := counts.unmoved number about straggler unprobed
    rw [moves] at same
    constructor
    · intro told
      rw [told] at same
      rcases before with is | is <;> simp [is] at same
    · intro halfOpen told
      simp [told, halfOpen] at same
  · intro harmless
    constructor
    · intro number about straggler unprobed
      obtain ⟨unsuccessful, quiet⟩ := harmless number about straggler unprobed
      rw [moves]
      cases told : gateway.verdict step with
      | none => simp [unprobed]
      | some verdict =>
          cases verdict with
          | success => exact absurd told unsuccessful
          | nonSuccess => exact (before.resolve_right (fun is => quiet is told)).symm
    · intro closed
      rw [moves] at closed
      cases told : gateway.verdict step with
      | none =>
          rw [told] at closed
          dsimp only at closed
          split at closed
          · cases closed
          · rcases before with is | is <;> simp [is] at closed
      | some verdict =>
          cases verdict with
          | nonSuccess => simp [told] at closed
          | success =>
              obtain ⟨number, value, rfl⟩ := verdict_of_success told
              refine ⟨number, ?_, value, rfl⟩
              by_cases probe : number ∈ known
              · exact probe
              · exact absurd told (harmless number rfl probe rfl).1

-----------------------------------------------------------------------------------------
-- Runs without stragglers
-----------------------------------------------------------------------------------------

/-- Something holds of every step of a run at which the circuit is open, given the probes of that
open period so far.
-/
def WhileOpen (start : Gateway α) (steps : List (Step α))
    (holds : Gateway α → List Nat → Step α → Prop) : Prop :=
  ∀ earlier step later, steps = earlier ++ step :: later
    → (start.run earlier).dependency.circuit.opened
    → holds (start.run earlier) (start.probes earlier) step

/-- Whenever the circuit trips in a run, it will not be told of any of the commands there are. -/
def CalmTrips (start : Gateway α) (steps : List (Step α)) : Prop :=
  start.Throughout steps fun gateway step =>
    gateway.dependency.circuit.opened = false → (gateway.step step).dependency.circuit.opened
      → ∀ command ∈ (gateway.step step).dependency.commands, command.Unheard

/-- The circuit will only be told of the known probes. -/
def OnlyProbesHeard (gateway : Gateway α) (known : List Nat) : Prop :=
  ∀ number command, gateway.dependency.commands[number]? = some command
    → command.Unheard ∨ number ∈ known

/-- A command that an open circuit does not take for a probe is turned away. -/
theorem allowRequest_of_unprobed (free : gateway.dependency.circuit.config.IsFree)
    (opened : gateway.dependency.circuit.opened) {number : Nat} {command : Command α}
    (found : gateway.dependency.commands[number]? = some command)
    (notStarted : command.lifecycle = .notStarted)
    (unprobed : gateway.probe? (.submit number) = none)
    : (gateway.dependency.allowRequest gateway.clock.now).1 = false := by
  refine (Breaker.allowRequest_of_opened free opened _).1.trans ?_
  simpa [probe?, submits, found, notStarted, Step.command?] using unprobed

/-- A command that is submitted to an open circuit is turned away or becomes a probe. -/
theorem unheard_or_probe_of_submit (free : gateway.dependency.circuit.config.IsFree)
    (opened : gateway.dependency.circuit.opened) (timer : Timer CommandRef)
    (pool : Option (WorkerPool Nat)) {number : Nat} {command : Command α}
    (found : gateway.dependency.commands[number]? = some command)
    (notStarted : command.lifecycle = .notStarted)
    : (gateway.entered timer pool number command).submit.command.Unheard
      ∨ number ∈ (gateway.probe? (.submit number)).toList := by
  cases probed : gateway.probe? (.submit number) with
  | none =>
      have turnedAway := allowRequest_of_unprobed free opened found notStarted probed
      exact .inl (Call.unheard_submit _ turnedAway)
  | some probe =>
      have own : probe = number := by
        simp only [probe?] at probed
        split at probed <;> simp_all [Step.command?]
      exact .inr (by simp [own])

/-- A step at an open circuit makes no other command heard of than a new probe. -/
theorem OnlyProbesHeard.next (heard : gateway.OnlyProbesHeard known)
    (orderly : gateway.dependency.account.Orderly)
    (free : gateway.dependency.circuit.config.IsFree)
    (opened : gateway.dependency.circuit.opened) (step : Step α)
    : (gateway.step step).OnlyProbesHeard ((gateway.probe? step).toList ++ known) := by
  intro number command found
  have kept {old : Command α} (there : gateway.dependency.commands[number]? = some old)
      : old.Unheard ∨ number ∈ (gateway.probe? step).toList ++ known :=
    (heard number old there).imp_right (List.mem_append_right _)
  cases (change_step orderly step).fate number with
  | kept same => exact kept (same ▸ found)
  | created asked absent new =>
      cases found.symm.trans new
      exact .inl (.inl rfl)
  | taken asked there new =>
      have before := kept there
      cases found.symm.trans new
      exact before
  | @turned timer pool old call there op new =>
      cases found.symm.trans new
      rcases heard number old there with unheard | probe
      · by_cases submitted : step = .submit number
        · subst submitted
          cases op with
          | submit notStarted =>
              exact (unheard_or_probe_of_submit free opened timer pool there notStarted).imp_right
                (List.mem_append_left _)
        · exact .inl (op.unheard (orderly.stage there) unheard submitted)
      · exact .inr (List.mem_append_right _ probe)

theorem config_run {start : Gateway α} (sound : start.Sound) (steps : List (Step α))
    : (start.run steps).dependency.circuit.config = start.dependency.circuit.config :=
  congrArg Settings.circuitConfig (settings_run sound.orderly steps)

/-- After calm trips only probes are heard of while the circuit is open, by induction on the
steps.
-/
theorem onlyProbesHeard_run {start : Gateway α} (sound : start.Sound)
    (free : start.dependency.circuit.config.IsFree)
    (closed : start.dependency.circuit.opened = false) (steps : List (Step α))
    : CalmTrips start steps → (start.run steps).dependency.circuit.opened
      → (start.run steps).OnlyProbesHeard (start.probes steps) := by
  induction steps using run_induction with
  | nil =>
      intro _ opened
      rw [run_nil, closed] at opened
      cases opened
  | snoc steps last ih =>
      intro calm opened
      obtain ⟨calmBefore, calmTrip⟩ := calm.of_snoc
      rw [run_snoc] at opened ⊢
      rw [probes_snoc, if_pos opened]
      cases before : (start.run steps).dependency.circuit.opened with
      | false =>
          intro number command found
          exact .inl (calmTrip before opened command (List.mem_of_getElem? found))
      | true =>
          refine (ih calmBefore before).next (sound_run sound steps).orderly ?_ before last
          rw [config_run sound]
          exact free

/-- Where only probes are heard of, there are no stragglers to do harm. -/
theorem OnlyProbesHeard.stragglersHarmless (heard : gateway.OnlyProbesHeard known)
    (orderly : gateway.dependency.account.Orderly)
    (free : gateway.dependency.circuit.config.IsFree)
    (opened : gateway.dependency.circuit.opened) (step : Step α)
    : gateway.StragglersHarmless known step := by
  intro number about straggler unprobed
  have untold : gateway.verdict step = none := by
    by_cases submitted : ∃ other, step = .submit other
    · obtain ⟨other, rfl⟩ := submitted
      exact verdict_submit_of_opened free opened unprobed
    · simp only [verdict]
      rw [about, Option.bind_some]
      cases found : gateway.dependency.commands[number]? with
      | none => rfl
      | some command =>
          have unheard := (heard number command found).resolve_right straggler
          exact Call.verdict_of_unheard ⟨gateway, number, command⟩ (orderly.stage found) unheard
            (fun other same => submitted ⟨other, same⟩)
  simp [untold]

theorem closed_of_justBuilt {start : Gateway α} (built : start.JustBuilt)
    : start.dependency.circuit.opened = false := by
  obtain ⟨builder, assembled⟩ := built
  obtain ⟨_, _, same⟩ := DependencyBuilder.assemble_eq_ok assembled
  rw [same]
  rfl

/-- In which runs only probes count while the circuit is open: in those where no straggler tells it
of a success, or of another end while a probe is out. Runs in which nothing else is left to be
heard of whenever the circuit trips are among these.
-/
theorem only_probes_count_iff {start : Gateway α} (built : start.JustBuilt)
    (free : start.dependency.circuit.config.IsFree) (steps : List (Step α))
    : (start.WhileOpen steps OnlyProbesCount ↔ start.WhileOpen steps StragglersHarmless)
      ∧ (start.CalmTrips steps → start.WhileOpen steps OnlyProbesCount) := by
  have sound := sound_of_justBuilt built
  have freeAfter (earlier : List (Step α))
      : (start.run earlier).dependency.circuit.config.IsFree := by
    rw [config_run sound]
    exact free
  have exact_when (earlier : List (Step α)) (step : Step α)
      (opened : (start.run earlier).dependency.circuit.opened)
      : (start.run earlier).OnlyProbesCount (start.probes earlier) step
        ↔ (start.run earlier).StragglersHarmless (start.probes earlier) step :=
    onlyProbesCount_iff (freeAfter earlier) (run_snoc start earlier step ▸ freeAfter _) opened
  refine ⟨⟨?_, ?_⟩, ?_⟩
  · intro counts earlier step later split opened
    exact (exact_when earlier step opened).mp (counts earlier step later split opened)
  · intro harmless earlier step later split opened
    exact (exact_when earlier step opened).mpr (harmless earlier step later split opened)
  · intro calm earlier step later split opened
    have heard := onlyProbesHeard_run sound free (closed_of_justBuilt built) earlier
      (split ▸ calm).of_append opened
    exact (exact_when earlier step opened).mpr
      (heard.stragglersHarmless (sound_run sound earlier).orderly (freeAfter earlier) opened step)

/-- A circuit that trips by a failure while nothing is under way, and that its probe closes. -/
theorem only_probes_count_iff_calm
    : let start : Gateway Nat :=
        ofBuilder
          { key := "sample"
            config := {
              breaker := { volumeThreshold := 1, errorThresholdPercentage := 50 } } } rfl
      let steps : List (Step Nat) :=
        [.create false, .submit 0, .workReturned 0 (.error (.plain "down")), .advance 1000, .pump,
          .askCircuit, .advance 6000, .create false, .submit 1, .workReturned 1 (.ok 7)]
      start.JustBuilt ∧ start.dependency.circuit.config.IsFree ∧ start.CalmTrips steps
        ∧ start.WhileOpen steps OnlyProbesCount ∧ start.probes (steps.take 9) = [1]
        ∧ (start.run steps).dependency.circuit.state = .closed := by
  intro start steps
  have built : start.JustBuilt := justBuilt_ofBuilder _ _
  have free : start.dependency.circuit.config.IsFree := ⟨rfl, rfl, rfl⟩
  have calm : start.CalmTrips steps := by
    refine throughout_cons.mpr ⟨?_, throughout_cons.mpr ⟨?_, throughout_cons.mpr ⟨?_,
      throughout_cons.mpr ⟨?_, throughout_cons.mpr ⟨?_, throughout_cons.mpr ⟨?tripping,
      throughout_cons.mpr ⟨?_, throughout_cons.mpr ⟨?_, throughout_cons.mpr ⟨?_,
      throughout_cons.mpr ⟨?_, throughout_nil⟩⟩⟩⟩⟩⟩⟩⟩⟩⟩
    case tripping =>
      intro _ _ command listed
      apply Or.inl
      revert command
      decide +kernel
    -- Every other step finds the circuit open, or leaves it closed.
    all_goals
      intro closed opened
      first
      | exact absurd opened (by decide +kernel)
      | exact absurd closed (by decide +kernel)
  refine ⟨built, free, calm, (only_probes_count_iff built free steps).2 calm, ?_, ?_⟩
  · decide +kernel
  · decide +kernel

/-- A straggler that succeeds breaks the rule that only probes count. -/
theorem not_onlyProbesCount_of_straggler {start : Gateway α} (sound : start.Sound)
    (free : start.dependency.circuit.config.IsFree) {earlier : List (Step α)} {number : Nat}
    {value : α} (opened : (start.run earlier).dependency.circuit.opened)
    (straggler : number ∉ start.probes earlier)
    (succeeds : (start.run earlier).verdict (.workReturned number (.ok value)) = some .success)
    : ¬start.WhileOpen (earlier ++ [.workReturned number (.ok value)]) OnlyProbesCount := by
  intro rule
  have freeAfter (steps : List (Step α)) : (start.run steps).dependency.circuit.config.IsFree := by
    rw [config_run sound]
    exact free
  have counts := rule earlier (.workReturned number (.ok value)) [] rfl opened
  have stillFree := run_snoc start earlier (.workReturned number (.ok value)) ▸ freeAfter _
  have harmless := (onlyProbesCount_iff (freeAfter earlier) stillFree opened).mp counts
  exact (harmless number rfl straggler rfl).1 succeeds

/-- The circuit closes for a command that was admitted before the trip, without any probe. -/
theorem straggler_closes_circuit
    : let start : Gateway Nat :=
        ofBuilder
          { key := "sample"
            config := {
              isolation := .threadPool
              timeoutEnabled := false
              breaker := { volumeThreshold := 1, errorThresholdPercentage := 50 }
              pool := { coreSize := 2, maxQueueSize := 10 } } } rfl
      let tripping : List (Step Nat) :=
        [.create false, .submit 0, .handOff 0, .pickUp, .create false, .submit 1, .handOff 1,
          .pickUp, .workReturned 1 (.error (.plain "down")), .advance 1000, .pump, .askCircuit]
      start.JustBuilt ∧ start.dependency.circuit.config.IsFree
        ∧ ¬start.WhileOpen (tripping ++ [.workReturned 0 (.ok 1)]) OnlyProbesCount := by
  intro start tripping
  have built : start.JustBuilt := justBuilt_ofBuilder _ _
  have free : start.dependency.circuit.config.IsFree := ⟨rfl, rfl, rfl⟩
  have opened : (start.run tripping).dependency.circuit.opened := by decide +kernel
  have straggler : 0 ∉ start.probes tripping := by decide +kernel
  have succeeds : (start.run tripping).verdict (.workReturned 0 (.ok 1)) = some .success := by
    decide +kernel
  have broken :=
    not_onlyProbesCount_of_straggler (sound_of_justBuilt built) free opened straggler succeeds
  exact ⟨built, free, broken⟩

end Breakwater.Gateway
