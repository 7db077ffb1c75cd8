import Breakwater.Proofs.Gateway.Health

/-! What the circuit still knows after it closed and started its health afresh. Only the window is
emptied: a completion whose slice was not closed yet, or that was not even taken in, is handed on
later and counts again.
-/

namespace Breakwater.Gateway

variable {α : Type}

/-- The health that the circuit reads after a run counts only completions that were told after an
earlier part of it.
-/
def FreshSnapshot (start : Gateway α) (earlier steps : List (Step α)) : Prop :=
  (start.run steps).dependency.circuit.health
    = start.healthFrom steps
        (((start.run steps).dependency.completions.map (·.2)).drop
          (start.run earlier).dependency.completions.length)

/-- A snapshot is fresh exactly if it sees no earlier completion that counts. -/
theorem freshSnapshot_iff {start : Gateway α} (built : start.JustBuilt)
    {earlier later : List (Step α)} (unwrapped : Unwrapped start (earlier ++ later))
    (paced : Paced start (earlier ++ later))
    : start.FreshSnapshot earlier (earlier ++ later)
      ↔ (start.healthSince (earlier ++ later) + start.dependency.config.metrics.sliceCount
            ≤ (start.run (earlier ++ later)).openSlice
          → ∀ event ∈ (start.run (earlier ++ later)).inWindow
              ((start.run earlier).dependency.completions.map (·.2)),
              event.countsTowardHealth = false) := by
  have sound := sound_of_justBuilt built
  obtain ⟨more, told⟩ := completions_run (sound_run sound earlier) later
  rw [← run_append] at told
  have health : (start.run (earlier ++ later)).dependency.circuit.health
      = start.windowHealth (earlier ++ later) :=
    healthCounts_run built unwrapped paced
  rw [FreshSnapshot, health, windowHealth, told, List.map_append,
    List.drop_left' (List.length_map _), healthFrom, healthFrom,
    (slices_run built unwrapped paced).1]
  split
  · rename_i full
    rw [inWindow, between_append, ← inWindow, ← inWindow, healthOf_append_eq_iff]
    exact ⟨fun silent _ => silent, fun silent => silent full⟩
  · rename_i short
    exact ⟨fun _ full => absurd full short, fun _ => rfl⟩

/-- As time goes by, the open slice stays or becomes that of a later moment, by induction on the
steps.
-/
theorem openSlice_append_cases {start : Gateway α} (built : start.JustBuilt)
    {steps later : List (Step α)} (unwrapped : Unwrapped start (steps ++ later))
    (paced : Paced start (steps ++ later))
    : (start.run steps).clock.now ≤ (start.run (steps ++ later)).clock.now
      ∧ ((start.run (steps ++ later)).openSlice = (start.run steps).openSlice
        ∨ (start.run steps).clock.now / start.dependency.config.metrics.sliceDuration
            ≤ (start.run (steps ++ later)).openSlice) := by
  have sound := sound_of_justBuilt built
  induction later using run_induction with
  | nil =>
      rw [List.append_nil]
      exact ⟨Nat.le_refl _, .inl rfl⟩
  | snoc later last ih =>
      rw [← List.append_assoc] at unwrapped paced ⊢
      obtain ⟨unwrappedBefore, fits⟩ := unwrapped.of_snoc
      obtain ⟨onward, slices⟩ := ih unwrappedBefore paced.of_append
      have change := change_step (sound_run sound (steps ++ later)).orderly last
      have moved := change.onward fits
      rw [← run_snoc] at moved
      refine ⟨Nat.le_trans onward moved, ?_⟩
      obtain ⟨present, taken, fresh, tracked⟩ :=
        metered_run built (steps ++ later) unwrappedBefore paced.of_append
      by_cases asked : last = .pump
      · subst asked
        rw [tracked.pump.metered.openSlice_eq]
        exact .inr (Nat.div_le_div_right onward)
      · obtain ⟨waiting, kept⟩ := tracked.kept sound asked unwrapped paced
        rwa [kept.metered.openSlice_eq, ← tracked.metered.openSlice_eq]

-----------------------------------------------------------------------------------------
-- Closings
-----------------------------------------------------------------------------------------

/-- A closing that starts the health afresh forgets all completions that count, but for those whose
slice was still to be closed and could yet come into the window.
-/
def Forgets (gateway : Gateway α) : Prop :=
  ∀ event ∈ gateway.dependency.completions.map (·.2), event.countsTowardHealth = true
    → event.completedAt / gateway.dependency.metrics.slices.duration < gateway.openSlice
      ∨ event.completedAt / gateway.dependency.metrics.slices.duration
            + gateway.dependency.metrics.slices.sliceCount
          < gateway.clock.now / gateway.dependency.metrics.slices.duration

theorem mem_inWindow {gateway : Gateway α} {events : List CompletionEvent}
    {event : CompletionEvent} (positive : 0 < gateway.dependency.metrics.slices.duration)
    : event ∈ gateway.inWindow events
      ↔ event ∈ events
        ∧ gateway.openSlice
            ≤ event.completedAt / gateway.dependency.metrics.slices.duration
              + gateway.dependency.metrics.slices.sliceCount
        ∧ event.completedAt / gateway.dependency.metrics.slices.duration < gateway.openSlice := by
  have lower := Nat.le_div_iff_mul_le positive (y := event.completedAt)
    (x := gateway.openSlice - gateway.dependency.metrics.slices.sliceCount)
  have upper := Nat.div_lt_iff_lt_mul positive (x := event.completedAt) (y := gateway.openSlice)
  rw [inWindow, between, List.mem_filter, Bool.and_eq_true, decide_eq_true_eq, decide_eq_true_eq,
    ← lower, ← upper, Nat.sub_le_iff_le_add]

/-- After a closing that forgets, every snapshot is fresh. -/
theorem freshSnapshot_of_forgets {start : Gateway α} (built : start.JustBuilt)
    (resets : start.dependency.circuit.config.resetHealthOnClose = true)
    {earlier : List (Step α)} {step : Step α} (closes : (start.run earlier).closes step = true)
    (forgets : (start.run earlier).Forgets) {later : List (Step α)}
    (unwrapped : Unwrapped start (earlier ++ ([step] ++ later)))
    (paced : Paced start (earlier ++ ([step] ++ later)))
    : start.FreshSnapshot earlier (earlier ++ ([step] ++ later)) := by
  obtain ⟨count, duration, some_slices, positive⟩ := slices_run built unwrapped paced
  obtain ⟨countBefore, durationBefore, _, _⟩ :=
    slices_run built unwrapped.of_append paced.of_append
  rw [freshSnapshot_iff built unwrapped paced]
  intro full event seen
  obtain ⟨listed, lower, upper⟩ := (mem_inWindow (duration ▸ positive)).mp seen
  rw [count, duration] at lower
  have since : (start.run earlier).openSlice
      ≤ start.healthSince (earlier ++ ([step] ++ later)) := by
    rw [← healthSince_of_closes (sound_of_justBuilt built) resets closes, ← List.append_assoc]
    rw [← List.append_assoc] at unwrapped paced
    exact healthSince_le_append built unwrapped paced
  rw [Bool.eq_false_iff]
  intro counts
  have forgotten := forgets event listed counts
  rw [countBefore, durationBefore] at forgotten
  have moved := (openSlice_append_cases built unwrapped paced).2
  rcases forgotten with closed | expired
  · omega
  · rcases moved with stayed | moved
    · omega
    · omega

/-- Waiting for the end of a slice and pumping then ends no command and resets nothing. -/
theorem waited_run {start : Gateway α} (built : start.JustBuilt) {steps : List (Step α)}
    (unwrapped : Unwrapped start steps) (paced : Paced start steps) {slice : Nat}
    (ahead
      : (start.run steps).clock.now / start.dependency.config.metrics.sliceDuration ≤ slice)
    : let waited :=
        steps ++ ([.setClock (slice * start.dependency.config.metrics.sliceDuration)] ++ [.pump])
      Unwrapped start waited ∧ Paced start waited ∧ (start.run waited).openSlice = slice
        ∧ start.healthSince waited = start.healthSince steps := by
  intro waited
  have sound := sound_of_justBuilt built
  let set : Step α := .setClock (slice * start.dependency.config.metrics.sliceDuration)
  have whole : waited = steps ++ [set] ++ [.pump] := (List.append_assoc _ _ _).symm
  have unwrappedSet : Unwrapped start (steps ++ [set]) :=
    unwrapped.snoc (by intro millis asked; simp only [set, reduceCtorEq] at asked)
  have pacedSet : Paced start (steps ++ [set]) := paced.snoc (by rw [run_snoc]; rfl)
  have pumped : (start.run (steps ++ [set] ++ [.pump])).dependency.completions
      = (start.run (steps ++ [set])).dependency.completions := by
    rw [run_snoc]
    exact congrArg Account.completions ((start.run (steps ++ [set])).dependency.account_pump _)
  obtain ⟨present, taken, fresh, tracked⟩ := metered_run built _ unwrappedSet pacedSet
  obtain ⟨_, _, _, positive⟩ := slices_run built unwrapped paced
  have reached : (start.run (steps ++ [set])).clock.now
      / start.dependency.config.metrics.sliceDuration = slice := by
    have before := (Nat.div_lt_iff_lt_mul positive).mp (Nat.lt_succ_of_le ahead)
    rw [Nat.succ_mul] at before
    rw [run_snoc]
    refine Nat.div_eq_of_lt_le (Nat.le_max_right _ _) ?_
    rw [Nat.succ_mul]
    show max _ (slice * _) < _
    omega
  have unreset : (start.run steps).resetsHealth set = false := by
    have stays : (start.run steps).closes set = false := Bool.and_not_self _
    simp [resetsHealth, stays, set]
  rw [whole]
  refine ⟨unwrappedSet.snoc (by intro millis asked; simp only [reduceCtorEq] at asked),
    pacedSet.snoc pumped, ?_, ?_⟩
  · rw [tracked.pump.metered.openSlice_eq, reached]
  · rw [healthSince_snoc, resetsHealth_pump, if_neg Bool.false_ne_true, healthSince_snoc, unreset,
      if_neg Bool.false_ne_true]

theorem clock_of_closes {start : Gateway α} (sound : start.Sound) {steps : List (Step α)}
    {last : Step α} (closes : (start.run steps).closes last = true)
    : (start.run (steps ++ [last])).clock.now = (start.run steps).clock.now := by
  obtain ⟨_, told⟩ := closes_iff.mp closes
  obtain ⟨number, value, rfl⟩ := verdict_of_success told
  rw [run_snoc]
  rcases (change_step (sound_run sound steps).orderly (.workReturned number (.ok value))).clock with
    still | ⟨_, asked, _⟩ | ⟨_, asked, _⟩
  · exact still
  · cases asked
  · cases asked

/-- A completion that is not forgotten is counted at the end of a window that it is in. -/
theorem exists_stale_snapshot {start : Gateway α} (built : start.JustBuilt)
    (resets : start.dependency.circuit.config.resetHealthOnClose = true)
    {earlier : List (Step α)} {step : Step α} (closes : (start.run earlier).closes step = true)
    (unwrapped : Unwrapped start (earlier ++ [step])) (paced : Paced start (earlier ++ [step]))
    {event : CompletionEvent}
    (listed : event ∈ (start.run earlier).dependency.completions.map (·.2))
    (counts : event.countsTowardHealth = true)
    (unclosed
      : (start.run earlier).openSlice
        ≤ event.completedAt / start.dependency.config.metrics.sliceDuration)
    (recent
      : (start.run earlier).clock.now / start.dependency.config.metrics.sliceDuration
        ≤ event.completedAt / start.dependency.config.metrics.sliceDuration
          + start.dependency.config.metrics.sliceCount)
    : ∃ later, Unwrapped start (earlier ++ [step] ++ later)
        ∧ Paced start (earlier ++ [step] ++ later)
        ∧ ¬start.FreshSnapshot earlier (earlier ++ [step] ++ later) := by
  obtain ⟨_, _, some_slices, positive⟩ := slices_run built unwrapped paced
  obtain ⟨slice, ahead, past, full, within⟩
      : ∃ slice,
          (start.run earlier).clock.now / start.dependency.config.metrics.sliceDuration ≤ slice
            ∧ event.completedAt / start.dependency.config.metrics.sliceDuration < slice
            ∧ (start.run earlier).openSlice + start.dependency.config.metrics.sliceCount ≤ slice
            ∧ slice ≤ event.completedAt / start.dependency.config.metrics.sliceDuration
                + start.dependency.config.metrics.sliceCount :=
    ⟨max ((start.run earlier).clock.now / start.dependency.config.metrics.sliceDuration)
        (max (event.completedAt / start.dependency.config.metrics.sliceDuration + 1)
          ((start.run earlier).openSlice + start.dependency.config.metrics.sliceCount)),
      by omega, by omega, by omega, by omega⟩
  rw [← clock_of_closes (sound_of_justBuilt built) closes] at ahead
  obtain ⟨unwrappedWaited, pacedWaited, opened, since⟩ :=
    waited_run built unwrapped paced ahead
  refine ⟨_, unwrappedWaited, pacedWaited, ?_⟩
  obtain ⟨count, duration, _, _⟩ := slices_run built unwrappedWaited pacedWaited
  rw [healthSince_of_closes (sound_of_justBuilt built) resets closes] at since
  rw [List.append_assoc] at unwrappedWaited pacedWaited opened since count duration ⊢
  rw [freshSnapshot_iff built unwrappedWaited pacedWaited, since, opened]
  intro fresh
  have seen := (mem_inWindow (duration ▸ positive)).mpr
    ⟨listed, by rw [opened, duration, count]; exact within, by rw [opened, duration]; exact past⟩
  rw [fresh full event seen] at counts
  cases counts

/-- Once the circuit closed and started its health afresh, all its later snapshots count only
completions that were told since, exactly if no other one that counts was left to be handed on.
-/
theorem snapshots_fresh_iff {start : Gateway α} (built : start.JustBuilt)
    (resets : start.dependency.circuit.config.resetHealthOnClose = true)
    {earlier : List (Step α)} {step : Step α} (closes : (start.run earlier).closes step = true)
    (unwrapped : Unwrapped start (earlier ++ [step])) (paced : Paced start (earlier ++ [step]))
    : (∀ later, Unwrapped start (earlier ++ [step] ++ later)
        → Paced start (earlier ++ [step] ++ later)
        → start.FreshSnapshot earlier (earlier ++ [step] ++ later))
      ↔ (start.run earlier).Forgets := by
  obtain ⟨count, duration, _, _⟩ := slices_run built unwrapped.of_append paced.of_append
  constructor
  · intro fresh event listed counts
    rw [count, duration]
    by_cases closed : event.completedAt / start.dependency.config.metrics.sliceDuration
        < (start.run earlier).openSlice
    · exact .inl closed
    · refine .inr (Nat.lt_of_not_le fun recent => ?_)
      obtain ⟨later, unwrappedLater, pacedLater, stale⟩ :=
        exists_stale_snapshot built resets closes unwrapped paced listed counts
          (Nat.le_of_not_lt closed) recent
      exact stale (fresh later unwrappedLater pacedLater)
  · intro forgets later unwrappedLater pacedLater
    rw [List.append_assoc] at unwrappedLater pacedLater ⊢
    exact freshSnapshot_of_forgets built resets closes forgets unwrappedLater pacedLater

/-- A failed probe whose slice was closed before the next one succeeds is forgotten. -/
theorem snapshots_fresh_iff_pumped
    : let start : Gateway Nat :=
        ofBuilder
          { key := "sample"
            config := {
              breaker := {
                volumeThreshold := 1, errorThresholdPercentage := 50, sleepWindow := 10 } } } rfl
      let earlier : List (Step Nat) :=
        [.create false, .submit 0, .workReturned 0 (.error (.plain "down")), .advance 1000, .pump,
          .askCircuit, .advance 11, .create false, .submit 1,
          .workReturned 1 (.error (.plain "still down")), .advance 100, .pump, .create false,
          .submit 2]
      let step : Step Nat := .workReturned 2 (.ok 7)
      start.JustBuilt ∧ (start.run earlier).closes step = true
        ∧ Unwrapped start (earlier ++ [step]) ∧ Paced start (earlier ++ [step])
        ∧ (start.run earlier).dependency.completions.length = 2
        ∧ ∀ later, Unwrapped start (earlier ++ [step] ++ later)
            → Paced start (earlier ++ [step] ++ later)
            → start.FreshSnapshot earlier (earlier ++ [step] ++ later) := by
  intro start earlier step
  have built : start.JustBuilt := justBuilt_ofBuilder _ _
  have closes : (start.run earlier).closes step = true := by decide +kernel
  have unwrapped : Unwrapped start (earlier ++ [step]) := by
    refine throughout_cons.mpr ⟨nofun, throughout_cons.mpr ⟨nofun, throughout_cons.mpr ⟨nofun,
      throughout_cons.mpr ⟨?_, throughout_cons.mpr ⟨nofun, throughout_cons.mpr ⟨nofun,
      throughout_cons.mpr ⟨?_, throughout_cons.mpr ⟨nofun, throughout_cons.mpr ⟨nofun,
      throughout_cons.mpr ⟨nofun, throughout_cons.mpr ⟨?_, throughout_cons.mpr ⟨nofun,
      throughout_cons.mpr ⟨nofun, throughout_cons.mpr ⟨nofun, throughout_cons.mpr ⟨nofun,
      throughout_nil⟩⟩⟩⟩⟩⟩⟩⟩⟩⟩⟩⟩⟩⟩⟩
    all_goals
      rintro millis ⟨⟩
      decide +kernel
  have paced : Paced start (earlier ++ [step]) := by
    apply paced_of_few (sound_of_justBuilt built)
    decide +kernel
  have forgets : (start.run earlier).Forgets := by
    unfold Forgets
    decide +kernel
  have told : (start.run earlier).dependency.completions.length = 2 := by decide +kernel
  exact ⟨built, closes, unwrapped, paced, told,
    (snapshots_fresh_iff built rfl closes unwrapped paced).mpr forgets⟩

/-- A failed probe whose slice is still open when the next one succeeds counts again later, and
opens the circuit once more.
-/
theorem stale_failure_counts_after_closing
    : let start : Gateway Nat :=
        ofBuilder
          { key := "sample"
            config := {
              breaker := {
                volumeThreshold := 1, errorThresholdPercentage := 50, sleepWindow := 10 } } } rfl
      let earlier : List (Step Nat) :=
        [.create false, .submit 0, .workReturned 0 (.error (.plain "down")), .advance 1000, .pump,
          .askCircuit, .advance 11, .create false, .submit 1,
          .workReturned 1 (.error (.plain "still down")), .advance 11, .create false, .submit 2]
      let step : Step Nat := .workReturned 2 (.ok 7)
      let later : List (Step Nat) := [.advance 978, .pump]
      start.JustBuilt ∧ start.dependency.circuit.config.resetHealthOnClose = true
        ∧ (start.run earlier).closes step = true
        ∧ ¬start.FreshSnapshot earlier (earlier ++ [step] ++ later)
        ∧ (start.run (earlier ++ [step] ++ later ++ [.askCircuit])).dependency.circuit.opened
          = true := by
  intro start earlier step later
  have built : start.JustBuilt := justBuilt_ofBuilder _ _
  have closes : (start.run earlier).closes step = true := by decide +kernel
  have seen : (start.run (earlier ++ [step] ++ later)).dependency.circuit.health = ⟨2, 1, 50⟩ := by
    decide +kernel
  have told : (start.healthFrom (earlier ++ [step] ++ later)
      (((start.run (earlier ++ [step] ++ later)).dependency.completions.map (·.2)).drop
        (start.run earlier).dependency.completions.length)) = ⟨1, 0, 0⟩ := by
    decide +kernel
  have reopened
      : (start.run (earlier ++ [step] ++ later ++ [.askCircuit])).dependency.circuit.opened
        = true := by
    decide +kernel
  refine ⟨built, rfl, closes, ?_, reopened⟩
  intro fresh
  rw [FreshSnapshot, seen, told] at fresh
  cases fresh

end Breakwater.Gateway
