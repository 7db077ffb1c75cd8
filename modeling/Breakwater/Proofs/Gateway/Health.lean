import Breakwater.Proofs.Gateway.Agreement
import Breakwater.Proofs.Gateway.Counters
import Breakwater.Proofs.Gateway.Probes
import Breakwater.Proofs.Metrics.HealthWindow

/-! The health that the circuit reads along a run: that of the commands that completed in the slices
of the window, once so many slices were closed since it last started afresh.
-/

namespace Breakwater

variable {α : Type}

theorem TagForm.countedOnce {fallbacks : Bool} {tags : List Tag} (form : TagForm fallbacks tags)
    {event : CompletionEvent} (tagged : event.record.tags = .ofTags tags)
    : event.CountedOnce := by
  have listed (test : Tag → Bool) : event.record.tags.present.any test = tags.any test := by
    rw [tagged, Bool.eq_iff_iff, List.any_eq_true, List.any_eq_true]
    simp only [Tally.mem_present_ofTags]
  constructor
  · rw [CompletionEvent.countsTowardHealth, listed, tagged, form.requestsIn_eq]
  · rw [CompletionEvent.isHealthError, listed, tagged, form.errorsIn_eq]

/-- Being asked does not close a circuit. -/
theorem Breaker.opened_allowRequest {σ : Type} [HealthSource σ] {breaker : Breaker σ}
    (opened : breaker.opened = true) (now : Nat)
    : (breaker.allowRequest now).2.1.opened = true := by
  simp only [allowRequest, isOpen, allowSingleTest, opened]
  repeat' split
  all_goals first | exact opened | rfl

namespace Gateway

-----------------------------------------------------------------------------------------
-- When the health starts afresh
-----------------------------------------------------------------------------------------

variable {gateway : Gateway α}

/-- Number of the slice that is open. -/
def openSlice (gateway : Gateway α) : Nat :=
  gateway.dependency.metrics.slices.start / gateway.dependency.metrics.slices.duration

/-- Whether a step closes the open circuit. -/
def closes (gateway : Gateway α) (step : Step α) : Bool :=
  gateway.dependency.circuit.opened && !(gateway.step step).dependency.circuit.opened

/-- Whether a step makes the health start afresh. -/
def resetsHealth (gateway : Gateway α) (step : Step α) : Bool :=
  match step with
  | .resetHealth => true
  | _ => gateway.dependency.circuit.config.resetHealthOnClose && gateway.closes step

/-- The slice that was open when the health last started afresh in a run, given the one at the start
of the run.
-/
def healthSinceFrom (gateway : Gateway α) (known : Nat) : List (Step α) → Nat
  | [] => known
  | step :: rest =>
      healthSinceFrom (gateway.step step)
        (if gateway.resetsHealth step then gateway.openSlice else known) rest

/-- The slice that was open at the later of the start and the last time that the health started
afresh.
-/
def healthSince (start : Gateway α) (steps : List (Step α)) : Nat :=
  start.healthSinceFrom start.openSlice steps

theorem healthSinceFrom_append (gateway : Gateway α) (known : Nat) (first rest : List (Step α))
    : gateway.healthSinceFrom known (first ++ rest)
      = (gateway.run first).healthSinceFrom (gateway.healthSinceFrom known first) rest := by
  induction first generalizing gateway known with
  | nil => rfl
  | cons step more ih => exact ih (gateway.step step) _

theorem healthSince_snoc (start : Gateway α) (steps : List (Step α)) (last : Step α)
    : start.healthSince (steps ++ [last])
      = if (start.run steps).resetsHealth last then (start.run steps).openSlice
        else start.healthSince steps :=
  healthSinceFrom_append start _ steps [last]

/-- Neither being asked nor drawing another sleep window closes a circuit. -/
theorem opened_asked (opened : gateway.dependency.circuit.opened = true) (step : Step α)
    : (gateway.asked step).opened = true := by
  unfold asked
  split
  · rw [switch_allowRequest]
    exact Breaker.opened_allowRequest opened _
  · split
    · rw [switch_isCircuitOpen]
      simp [Breaker.isOpen, Breaker.switch, opened]
    · exact opened
    · exact opened

theorem closes_iff {step : Step α}
    : gateway.closes step = true
      ↔ gateway.dependency.circuit.opened = true ∧ gateway.verdict step = some .success := by
  have moved : (gateway.step step).dependency.circuit.opened
      = ((gateway.asked step).told (gateway.verdict step)).opened :=
    congrArg Switch.opened (gateway.switch_step step)
  simp only [closes, Bool.and_eq_true, Bool.not_eq_true', moved]
  constructor
  · rintro ⟨opened, closed⟩
    have asked := opened_asked opened step
    rcases told : gateway.verdict step with _ | _ | _
    · simp [told, Switch.told, asked] at closed
    · exact ⟨opened, rfl⟩
    · simp [told, Switch.told, asked] at closed
  · rintro ⟨opened, told⟩
    exact ⟨opened, by simp [told, Switch.told, opened_asked opened step]⟩

theorem resetsHealth_pump : gateway.resetsHealth .pump = false := by
  have stays : gateway.closes .pump = false := by
    rw [Bool.eq_false_iff]
    intro closes
    cases (closes_iff.mp closes).2
  simp [resetsHealth, stays]

/-- Any step but a pump leaves the health as it is or makes it start afresh. -/
theorem health_step (gateway : Gateway α) {step : Step α} (other : step ≠ .pump)
    : (gateway.step step).dependency.metrics.health
      = if gateway.resetsHealth step then gateway.dependency.metrics.health.reset
        else gateway.dependency.metrics.health := by
  have moved : (gateway.step step).dependency.metrics.health
      = ((gateway.readied step).told (gateway.verdict step)).health :=
    congrArg Pulse.health (gateway.pulse_step step)
  -- Only the return of the work can close the circuit, and it does not ask it first.
  have resets : (gateway.readied step).resets (gateway.verdict step)
      = (gateway.dependency.circuit.config.resetHealthOnClose && gateway.closes step) := by
    rw [Bool.eq_iff_iff, Bool.and_eq_true, closes_iff]
    simp only [Pulse.resets, Bool.and_eq_true, beq_iff_eq]
    constructor
    · rintro ⟨⟨told, opened⟩, resetOnClose⟩
      obtain ⟨number, value, rfl⟩ := verdict_of_success told
      exact ⟨resetOnClose, opened, told⟩
    · rintro ⟨resetOnClose, opened, told⟩
      obtain ⟨number, value, rfl⟩ := verdict_of_success told
      exact ⟨⟨told, opened⟩, resetOnClose⟩
  rw [moved, Pulse.told]
  dsimp only
  rw [resets]
  cases step with
  | pump => exact absurd rfl other
  | resetHealth => exact ite_self _
  | _ => rfl

-----------------------------------------------------------------------------------------
-- The health along a run
-----------------------------------------------------------------------------------------

/-- Of some completions, those of the slices that were closed last, as many as fit the window. -/
def inWindow (gateway : Gateway α) (events : List CompletionEvent) : List CompletionEvent :=
  let stream := gateway.dependency.metrics.slices
  between ((gateway.openSlice - stream.sliceCount) * stream.duration)
    (gateway.openSlice * stream.duration) events

/-- The health after a run, read off some completions: nothing until a window's worth of slices was
closed since it last started afresh, and then that of the window's completions.
-/
def healthFrom (start : Gateway α) (steps : List (Step α)) (events : List CompletionEvent)
    : Health :=
  let after := start.run steps
  if start.healthSince steps + after.dependency.metrics.slices.sliceCount ≤ after.openSlice then
    healthOf (after.inWindow events)
  else .empty

/-- The health after a run, read off all completions. -/
def windowHealth (start : Gateway α) (steps : List (Step α)) : Health :=
  start.healthFrom steps ((start.run steps).dependency.completions.map (·.2))

theorem Metered.openSlice_eq {config : MetricsConfig} {first present : Nat}
    {taken fresh : List CompletionEvent}
    (metered : gateway.Metered config first present taken fresh) : gateway.openSlice = present := by
  obtain ⟨emitted, collected⟩ := metered.collected
  rw [openSlice, collected.cut.start, Nat.mul_div_cancel _ collected.cut.positive]

theorem healthSince_of_justBuilt {start : Gateway α} (built : start.JustBuilt)
    : start.dependency.metrics.HealthSince start.openSlice
        (start.clock.now / start.dependency.config.metrics.sliceDuration) [] := by
  have metered := metered_of_justBuilt built
  obtain ⟨created, _⟩ := created_of_justBuilt built
  obtain ⟨_, several, some_duration, same⟩ := Metrics.create_eq_ok created
  have cut := SliceStream.cut_opening completionSlices
    start.dependency.config.metrics.sliceCount (Nat.pos_of_ne_zero some_duration) start.clock.now
  rw [metered.openSlice_eq, same]
  exact ⟨[], cut, RollingWindow.holds_empty healthSummary (Nat.pos_of_ne_zero several)⟩

/-- The window of the health along a run, by induction on the steps. -/
theorem healthSince_run {start : Gateway α} (built : start.JustBuilt) (steps : List (Step α))
    : Unwrapped start steps → Paced start steps
      → ∃ present taken fresh,
          Tracked start steps present taken fresh
            ∧ (start.run steps).dependency.metrics.HealthSince (start.healthSince steps) present
                taken := by
  have sound := sound_of_justBuilt built
  induction steps using run_induction with
  | nil =>
      exact fun _ _ => ⟨_, [], [], tracked_nil built, healthSince_of_justBuilt built⟩
  | snoc steps last ih =>
      intro unwrapped paced
      obtain ⟨present, taken, fresh, tracked, holds⟩ := ih unwrapped.of_snoc.1 paced.of_append
      rw [run_snoc, healthSince_snoc]
      by_cases asked : last = .pump
      · subst asked
        have pending : (start.run steps).dependency.metrics.bus.pending
            (start.run steps).dependency.metrics.source = fresh :=
          tracked.metered.feeding.pending_eq
        have timely := tracked.metered.timely
        rw [← pending] at timely
        have pumped := holds.pump timely.sorted timely.inTime timely.reached timely.past
        rw [pending, tracked.metered.duration] at pumped
        rw [resetsHealth_pump, if_neg Bool.false_ne_true]
        exact ⟨_, _, [], tracked.pump, pumped⟩
      · obtain ⟨waiting, kept⟩ := tracked.kept sound asked unwrapped paced
        have meters := (change_step (sound_run sound steps).orderly last).meters asked
        have slices := congrArg Meters.slices meters
        have health := (start.run steps).health_step asked
        refine ⟨present, taken, waiting, kept, ?_⟩
        cases resets : (start.run steps).resetsHealth last with
        | false =>
            rw [resets, if_neg Bool.false_ne_true] at health
            rw [if_neg Bool.false_ne_true]
            exact holds.congr slices health
        | true =>
            rw [resets, if_pos rfl] at health
            rw [if_pos rfl, tracked.metered.openSlice_eq]
            exact holds.resetHealth.congr slices health

/-- The open slice never has a smaller number later on. -/
theorem openSlice_snoc_le {start : Gateway α} (built : start.JustBuilt) {steps : List (Step α)}
    {last : Step α} (unwrapped : Unwrapped start (steps ++ [last]))
    (paced : Paced start (steps ++ [last]))
    : (start.run steps).openSlice ≤ (start.run (steps ++ [last])).openSlice := by
  obtain ⟨present, taken, fresh, tracked⟩ :=
    metered_run built steps unwrapped.of_snoc.1 paced.of_append
  by_cases asked : last = .pump
  · subst asked
    obtain ⟨emitted, collected⟩ := tracked.metered.collected
    have reached := (collected.cut.start_le_iff _).mp tracked.metered.timely.reached
    rw [tracked.metered.duration] at reached
    rwa [tracked.metered.openSlice_eq, tracked.pump.metered.openSlice_eq]
  · obtain ⟨waiting, kept⟩ := tracked.kept (sound_of_justBuilt built) asked unwrapped paced
    exact Nat.le_of_eq (tracked.metered.openSlice_eq.trans kept.metered.openSlice_eq.symm)

/-- The slice from which the health counts was open at some time, and is a later one after more
steps.
-/
theorem healthSince_le_openSlice {start : Gateway α} (built : start.JustBuilt)
    {steps : List (Step α)} (unwrapped : Unwrapped start steps) (paced : Paced start steps)
    : start.healthSince steps ≤ (start.run steps).openSlice := by
  obtain ⟨present, taken, fresh, tracked, holds⟩ := healthSince_run built steps unwrapped paced
  obtain ⟨_, cut, _⟩ := holds
  rw [tracked.metered.openSlice_eq]
  exact cut.reached

theorem healthSince_le_append {start : Gateway α} (built : start.JustBuilt)
    {steps later : List (Step α)} (unwrapped : Unwrapped start (steps ++ later))
    (paced : Paced start (steps ++ later))
    : start.healthSince steps ≤ start.healthSince (steps ++ later) := by
  induction later using run_induction with
  | nil => exact Nat.le_of_eq (congrArg _ (List.append_nil _).symm)
  | snoc later last ih =>
      rw [← List.append_assoc] at unwrapped paced ⊢
      have before := ih unwrapped.of_snoc.1 paced.of_append
      rw [healthSince_snoc]
      split
      · exact Nat.le_trans before
          (healthSince_le_openSlice built unwrapped.of_snoc.1 paced.of_append)
      · exact before

/-- A closing that starts the health afresh lets it count from the slice that is open then. -/
theorem healthSince_of_closes {start : Gateway α} (sound : start.Sound)
    (resets : start.dependency.circuit.config.resetHealthOnClose = true)
    {steps : List (Step α)} {last : Step α} (closes : (start.run steps).closes last = true)
    : start.healthSince (steps ++ [last]) = (start.run steps).openSlice := by
  obtain ⟨_, told⟩ := closes_iff.mp closes
  obtain ⟨number, value, rfl⟩ := verdict_of_success told
  have afresh : (start.run steps).resetsHealth (.workReturned number (.ok value)) = true := by
    show ((start.run steps).dependency.circuit.config.resetHealthOnClose && _) = true
    rw [config_run sound, resets, closes]
    rfl
  rw [healthSince_snoc, afresh, if_pos rfl]

/-- The settings of the slices do not change. -/
theorem slices_run {start : Gateway α} (built : start.JustBuilt) {steps : List (Step α)}
    (unwrapped : Unwrapped start steps) (paced : Paced start steps)
    : (start.run steps).dependency.metrics.slices.sliceCount
          = start.dependency.config.metrics.sliceCount
        ∧ (start.run steps).dependency.metrics.slices.duration
          = start.dependency.config.metrics.sliceDuration
        ∧ 0 < start.dependency.config.metrics.sliceCount
        ∧ 0 < start.dependency.config.metrics.sliceDuration := by
  obtain ⟨_, _, _, tracked⟩ := metered_run built steps unwrapped paced
  obtain ⟨_, some_slices, some_duration, _⟩ := Metrics.create_eq_ok (created_of_justBuilt built).1
  exact ⟨tracked.metered.sliceCount, tracked.metered.duration, Nat.pos_of_ne_zero some_slices,
    Nat.pos_of_ne_zero some_duration⟩

/-- Every record that was published counts once in the health at most. -/
theorem countedOnce_run {start : Gateway α} (built : start.JustBuilt) (steps : List (Step α))
    : ∀ event ∈ (start.run steps).dependency.completions.map (·.2), event.CountedOnce := by
  intro event member
  obtain ⟨⟨number, same⟩, listed, rfl⟩ := List.mem_map.mp member
  have paired := paired_run (sound_of_justBuilt built) (not_isOver_of_justBuilt built) steps
  obtain ⟨outcome, ⟨_, _, tags, tagged, ending⟩, _⟩ :=
    paired.published number same (mem_completionsOf.mpr listed)
  exact ending.tagForm.countedOnce tagged

/-- The circuit reads the health of the window's completions, whatever was run and pumped before. -/
theorem healthCounts_run {start : Gateway α} (built : start.JustBuilt) {steps : List (Step α)}
    (unwrapped : Unwrapped start steps) (paced : Paced start steps)
    : (start.run steps).dependency.metrics.healthCounts = start.windowHealth steps := by
  obtain ⟨present, taken, fresh, tracked, holds⟩ := healthSince_run built steps unwrapped paced
  have completed : (start.run steps).dependency.completions.map (·.2) = taken ++ fresh :=
    tracked.metered.feeding.completed
  have once := countedOnce_run built steps
  rw [completed] at once
  rw [holds.healthCounts (fun event member => once event (List.mem_append_left _ member)),
    windowHealth, healthFrom, inWindow, tracked.metered.openSlice_eq, completed]
  have waiting (from_ : Nat)
      : between from_ (present * (start.run steps).dependency.metrics.slices.duration) fresh
        = [] := by
    obtain ⟨emitted, collected⟩ := tracked.metered.collected
    rw [between, List.filter_eq_nil_iff]
    intro event member
    have inTime := tracked.metered.timely.inTime event member
    rw [collected.cut.start] at inTime
    simp [Nat.not_lt.mpr inTime]
  rw [between_append, waiting, List.append_nil]

end Gateway

end Breakwater
