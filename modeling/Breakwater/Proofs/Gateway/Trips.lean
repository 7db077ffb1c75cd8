import Breakwater.Proofs.Gateway.Health

/-! When the circuit trips: if it is asked while the completions of the window warrant that, and
never otherwise.
-/

namespace Breakwater

variable {α : Type}

/-- Whether a health lets a circuit trip. -/
def BreakerConfig.Warrants (config : BreakerConfig) (health : Health) : Prop :=
  config.volumeThreshold ≤ health.total ∧ config.errorThresholdPercentage ≤ health.percentage

namespace Breaker

variable {σ : Type} [HealthSource σ] {breaker : Breaker σ}

theorem warrantsTrip_iff
    : breaker.warrantsTrip = true ↔ breaker.config.Warrants breaker.health := by
  rw [warrantsTrip, Bool.and_eq_true, decide_eq_true_eq, decide_eq_true_eq, BreakerConfig.Warrants]

/-- A closed circuit that is asked opens exactly if its health warrants that. -/
theorem opened_isOpen (free : breaker.config.IsFree) (closed : breaker.opened = false) (now : Nat)
    : (breaker.isOpen now).2.1.opened = breaker.warrantsTrip := by
  cases warranted : breaker.warrantsTrip <;>
    simp [isOpen, free.notForcedOpen, free.enabled, closed, warranted, trip]

theorem opened_allowSingleTest (now : Nat)
    : (breaker.allowSingleTest now).2.1.opened = breaker.opened := by
  simp only [allowSingleTest]
  split
  · rfl
  · split <;> rfl

theorem opened_allowRequest_of_closed (free : breaker.config.IsFree)
    (closed : breaker.opened = false) (now : Nat)
    : (breaker.allowRequest now).2.1.opened = breaker.warrantsTrip := by
  rw [← opened_isOpen free closed now]
  simp only [allowRequest, free.enabled, free.notForcedOpen, free.notForcedClosed]
  simp only [Bool.not_true, Bool.false_eq_true, if_false, Bool.false_or]
  split
  · rfl
  · exact opened_allowSingleTest now

end Breaker

namespace Gateway

variable {gateway : Gateway α}

/-- Whether a step asks the circuit. -/
def asks (gateway : Gateway α) (step : Step α) : Bool :=
  match step with
  | .askCircuit => true
  | _ => gateway.submits step

/-- A closed circuit opens exactly at a step that asks it while its health warrants that. -/
theorem opened_step_of_closed (free : gateway.dependency.circuit.config.IsFree)
    (closed : gateway.dependency.circuit.opened = false) (step : Step α)
    : (gateway.step step).dependency.circuit.opened
      = (gateway.asks step && gateway.dependency.circuit.warrantsTrip) := by
  have asked : (gateway.asked step).opened
      = (gateway.asks step && gateway.dependency.circuit.warrantsTrip) := by
    unfold Gateway.asked
    cases submitted : gateway.submits step with
    | true =>
        have asks : gateway.asks step = true := by
          cases step <;> first | exact submitted | rfl
        rw [if_pos rfl, switch_allowRequest, asks, Bool.true_and]
        exact Breaker.opened_allowRequest_of_closed free closed _
    | false =>
        rw [if_neg Bool.false_ne_true]
        cases step with
        | askCircuit =>
            dsimp only
            rw [switch_isCircuitOpen]
            exact Breaker.opened_isOpen free closed _
        | submit number =>
            rw [show gateway.asks (.submit number) = false from submitted]
            exact closed
        | _ => exact closed
  have moved : (gateway.step step).dependency.circuit.opened
      = ((gateway.asked step).told (gateway.verdict step)).opened :=
    congrArg Switch.opened (gateway.switch_step step)
  rw [moved, ← asked]
  cases told : gateway.verdict step with
  | none => rfl
  | some verdict =>
      cases verdict with
      | nonSuccess =>
          simp only [Switch.told]
          split <;> rfl
      | success =>
          obtain ⟨number, value, rfl⟩ := verdict_of_success told
          have still : (gateway.asked (.workReturned number (.ok value))).opened = false := closed
          simp [Switch.told, still]

-----------------------------------------------------------------------------------------
-- Runs
-----------------------------------------------------------------------------------------

/-- How the circuit of a dependency can open after a run. -/
structure TripsByHealth (start : Gateway α) (steps : List (Step α)) : Prop where
  /-- A closed circuit that is asked, in either way, opens exactly if the window warrants that, -/
  asked
    : (start.run steps).dependency.circuit.opened = false
        → ∀ now,
            (((start.run steps).dependency.allowRequest now).2.circuit.opened = true
                ↔ start.dependency.circuit.config.Warrants (start.windowHealth steps))
              ∧ (((start.run steps).dependency.isCircuitOpen now).2.circuit.opened = true
                ↔ start.dependency.circuit.config.Warrants (start.windowHealth steps))
  /-- and it opens at no other step. -/
  stepped
    : (start.run steps).dependency.circuit.opened = false
        → ∀ step,
            ((start.run steps).step step).dependency.circuit.opened = true
              ↔ (start.run steps).asks step = true
                  ∧ start.dependency.circuit.config.Warrants (start.windowHealth steps)
  /-- After it closed and started its health afresh, it is not open again before a window's worth
  of slices was closed, unless no health at all warrants it to trip.
  -/
  rests
    : ∀ earlier step later, steps = earlier ++ step :: later
        → (start.run earlier).closes step = true
        → start.dependency.circuit.config.resetHealthOnClose = true
        → ¬start.dependency.circuit.config.Warrants .empty
        → (start.run steps).dependency.circuit.opened = true
        → (start.run earlier).openSlice + start.dependency.config.metrics.sliceCount
            ≤ (start.run steps).openSlice

/-- What a circuit goes by is the health of the window's completions. -/
theorem warrantsTrip_run {start : Gateway α} (built : start.JustBuilt) {steps : List (Step α)}
    (unwrapped : Unwrapped start steps) (paced : Paced start steps)
    : (start.run steps).dependency.circuit.warrantsTrip = true
      ↔ start.dependency.circuit.config.Warrants (start.windowHealth steps) := by
  have config := config_run (sound_of_justBuilt built) steps
  have health : (start.run steps).dependency.circuit.health = start.windowHealth steps :=
    healthCounts_run built unwrapped paced
  rw [Breaker.warrantsTrip_iff, config, health]

/-- A circuit that closed and started its health afresh waits for a window of new slices, by
induction on the steps since.
-/
theorem rests_after_reset {start : Gateway α} (built : start.JustBuilt)
    (free : start.dependency.circuit.config.IsFree)
    (some_health : ¬start.dependency.circuit.config.Warrants .empty)
    (resets : start.dependency.circuit.config.resetHealthOnClose = true)
    {earlier : List (Step α)} {step : Step α} (closes : (start.run earlier).closes step = true)
    (later : List (Step α)) (unwrapped : Unwrapped start (earlier ++ [step] ++ later))
    (paced : Paced start (earlier ++ [step] ++ later))
    (opened : (start.run (earlier ++ [step] ++ later)).dependency.circuit.opened = true)
    : (start.run earlier).openSlice + start.dependency.config.metrics.sliceCount
        ≤ (start.run (earlier ++ [step] ++ later)).openSlice := by
  have sound := sound_of_justBuilt built
  induction later using run_induction with
  | nil =>
      rw [List.append_nil, run_snoc] at opened
      simp [Gateway.closes, opened] at closes
  | snoc later last ih =>
      rw [← List.append_assoc] at unwrapped paced opened ⊢
      have onward := openSlice_snoc_le built unwrapped paced
      have unwrappedBefore := unwrapped.of_snoc.1
      have pacedBefore := paced.of_append
      cases before : (start.run (earlier ++ [step] ++ later)).dependency.circuit.opened with
      | true => exact Nat.le_trans (ih unwrappedBefore pacedBefore before) onward
      | false =>
          have freeBefore
              : (start.run (earlier ++ [step] ++ later)).dependency.circuit.config.IsFree :=
            config_run sound (earlier ++ [step] ++ later) ▸ free
          rw [run_snoc, opened_step_of_closed freeBefore before, Bool.and_eq_true] at opened
          have warranted := (warrantsTrip_run built unwrappedBefore pacedBefore).mp opened.2
          have since := healthSince_le_append built unwrappedBefore pacedBefore
          rw [healthSince_of_closes sound resets closes] at since
          rw [windowHealth, healthFrom, (slices_run built unwrappedBefore pacedBefore).1]
            at warranted
          split at warranted
          · omega
          · exact absurd warranted some_health

/-- In every run whose clock does not wrap and whose bus has room, a circuit that is in use and not
forced trips by the health of the window's completions, and by nothing else.
-/
theorem trips_by_window_health {start : Gateway α} (built : start.JustBuilt)
    (free : start.dependency.circuit.config.IsFree) {steps : List (Step α)}
    (unwrapped : Unwrapped start steps) (paced : Paced start steps)
    : start.TripsByHealth steps := by
  have sound := sound_of_justBuilt built
  have freeAfter : (start.run steps).dependency.circuit.config.IsFree :=
    config_run sound steps ▸ free
  have warranted := warrantsTrip_run built unwrapped paced
  constructor
  · intro closed now
    have requested := (congrArg Switch.opened (switch_allowRequest _ now)).trans
      (Breaker.opened_allowRequest_of_closed freeAfter closed now)
    have judged := (congrArg Switch.opened (switch_isCircuitOpen _ now)).trans
      (Breaker.opened_isOpen freeAfter closed now)
    exact ⟨(Bool.eq_iff_iff.mp requested).trans warranted,
      (Bool.eq_iff_iff.mp judged).trans warranted⟩
  · intro closed step
    rw [opened_step_of_closed freeAfter closed, Bool.and_eq_true, warranted]
  · intro earlier step later split closes resets some_health opened
    have whole : steps = earlier ++ [step] ++ later := by
      rw [split, List.append_assoc, List.singleton_append]
    subst whole
    exact rests_after_reset built free some_health resets closes later unwrapped paced opened

/-- One failure in a window without other requests trips a circuit that puts up with half. -/
theorem trips_by_window_health_failure
    : let start : Gateway Nat :=
        ofBuilder
          { key := "sample"
            config := {
              breaker := { volumeThreshold := 1, errorThresholdPercentage := 50 } } } rfl
      let steps : List (Step Nat) :=
        [.create false, .submit 0, .workReturned 0 (.error (.plain "down")), .advance 1000, .pump]
      start.JustBuilt ∧ start.dependency.circuit.config.IsFree ∧ Unwrapped start steps
        ∧ Paced start steps ∧ start.TripsByHealth steps
        ∧ start.windowHealth steps = ⟨1, 1, 100⟩
        ∧ ((start.run steps).step .askCircuit).dependency.circuit.opened = true := by
  intro start steps
  have built : start.JustBuilt := justBuilt_ofBuilder _ _
  have free : start.dependency.circuit.config.IsFree := ⟨rfl, rfl, rfl⟩
  have unwrapped : Unwrapped start steps := by
    refine throughout_cons.mpr ⟨nofun, throughout_cons.mpr ⟨nofun, throughout_cons.mpr ⟨nofun,
      throughout_cons.mpr ⟨?_, throughout_cons.mpr ⟨nofun, throughout_nil⟩⟩⟩⟩⟩
    rintro millis ⟨⟩
    decide
  have paced : Paced start steps := by
    apply paced_of_few (sound_of_justBuilt built)
    decide +kernel
  have rule := trips_by_window_health built free unwrapped paced
  have closed : (start.run steps).dependency.circuit.opened = false := by decide +kernel
  have counted : start.windowHealth steps = ⟨1, 1, 100⟩ := by decide +kernel
  refine ⟨built, free, unwrapped, paced, rule, counted,
    (rule.stepped closed .askCircuit).mpr ⟨rfl, ?_⟩⟩
  rw [counted]
  exact ⟨Nat.le_refl 1, by decide⟩

end Gateway

end Breakwater
