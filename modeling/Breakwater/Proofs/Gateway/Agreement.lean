import Breakwater.Proofs.Command.Agreement
import Breakwater.Proofs.Gateway.ExactlyOnce

/-! In every run, the record that is published for a command and the outcome that its waiter is
handed come from one step, and agree.
-/

namespace Breakwater.Gateway

open Account

variable {α : Type}

/-- What the waiter of a command is handed in a run: the outcome that lies in the slot at the end,
or that lay there when a step of the run took it.
-/
inductive Awaited (start : Gateway α) (steps : List (Step α)) (number : Nat)
    (outcome : Outcome α) : Prop
  | held (ready : (start.run steps).dependency.account.slot number = .ready outcome)
  | taken {earlier later} (split : steps = earlier ++ .take number :: later)
    (ready : (start.run earlier).dependency.account.slot number = .ready outcome)

theorem Awaited.snoc {start : Gateway α} {steps : List (Step α)} {number : Nat}
    {outcome : Outcome α} (awaited : Awaited start steps number outcome) (last : Step α)
    (stays
      : Stays (start.run steps).dependency.account last number
          (start.run (steps ++ [last])).dependency.account)
    : Awaited start (steps ++ [last]) number outcome := by
  cases awaited with
  | held ready =>
      rcases stays.slot with same | ⟨rfl, _⟩
      · exact .held (same.trans ready)
      · exact .taken rfl ready
  | @taken earlier later split ready =>
      have longer : steps ++ [last] = earlier ++ .take number :: (later ++ [last]) := by
        rw [split, List.append_assoc, List.cons_append]
      exact .taken longer ready

/-- What a run awaits after one more step was awaited before, unless that step stored it. -/
theorem Awaited.of_snoc {start : Gateway α} {steps : List (Step α)} {number : Nat}
    {outcome : Outcome α} {last : Step α} (awaited : Awaited start (steps ++ [last]) number outcome)
    : Awaited start steps number outcome
      ∨ (start.run (steps ++ [last])).dependency.account.slot number = .ready outcome := by
  cases awaited with
  | held ready => exact .inr ready
  | @taken earlier later split ready =>
      left
      rcases List.eq_nil_or_concat later with rfl | ⟨later, final, rfl⟩
      · obtain ⟨rfl, _⟩ := List.append_inj' split rfl
        exact .held ready
      · rw [List.concat_eq_append, ← List.cons_append, ← List.append_assoc] at split
        obtain ⟨rfl, _⟩ := List.append_inj' split rfl
        exact .taken rfl ready

/-- One step of a run ended a command, with the tags of its record and its outcome. -/
def EndedBy (start : Gateway α) (steps : List (Step α)) (number : Nat) (event : CompletionEvent)
    (outcome : Outcome α) : Prop :=
  ∃ step ∈ steps, ∃ tags,
    event.record.tags = .ofTags tags
      ∧ Ending start.dependency.key start.dependency.config number step tags outcome

theorem EndedBy.snoc {start : Gateway α} {steps : List (Step α)} {number : Nat}
    {event : CompletionEvent} {outcome : Outcome α}
    (ended : EndedBy start steps number event outcome) (last : Step α)
    : EndedBy start (steps ++ [last]) number event outcome := by
  obtain ⟨step, member, rest⟩ := ended
  exact ⟨step, List.mem_append_left _ member, rest⟩

theorem mem_completionsOf {account : Account α} {number : Nat} {event : CompletionEvent}
    : event ∈ account.completionsOf number ↔ (number, event) ∈ account.completions := by
  simp only [completionsOf]
  constructor
  · intro member
    obtain ⟨⟨owner, same⟩, listed, rfl⟩ := List.mem_map.mp member
    obtain ⟨there, own⟩ := List.mem_filter.mp listed
    have same_owner : owner = number := by simpa using own
    exact same_owner ▸ there
  · intro listed
    exact List.mem_map.mpr ⟨(number, event), List.mem_filter.mpr ⟨listed, by simp⟩, rfl⟩

/-- Records and outcomes of a run come in pairs, each from the step that ended the command. -/
structure Paired (start : Gateway α) (steps : List (Step α)) : Prop where
  published
    : ∀ number event, event ∈ (start.run steps).dependency.account.completionsOf number
        → ∃ outcome, EndedBy start steps number event outcome
            ∧ Awaited start steps number outcome
  awaited
    : ∀ number outcome, Awaited start steps number outcome
        → ∃ event ∈ (start.run steps).dependency.account.completionsOf number,
            EndedBy start steps number event outcome

/-- Nothing is published of a command that is not over. -/
theorem completionsOf_of_running {gateway : Gateway α} (sound : gateway.Sound) {number : Nat}
    (running : (gateway.dependency.account.lifecycle number).isOver = false)
    : gateway.dependency.account.completionsOf number = [] := by
  have once := sound.balanced.once number
  rwa [running, if_neg (by simp), List.length_eq_zero_iff] at once

/-- The step that ends a command in a run is the one that its record and its outcome come from. -/
theorem endedBy_of_exit {start : Gateway α} (sound : start.Sound) {steps : List (Step α)}
    {last : Step α} {number : Nat} {old new : Command α} {tags : List Tag} {outcome : Outcome α}
    (exit
      : Exit (start.run steps).dependency.account (start.run steps).clock.now last number old new
          tags outcome (start.run (steps ++ [last])).dependency.account)
    : EndedBy start (steps ++ [last]) number
        ⟨(start.run steps).dependency.account.settings.metricsKey, (start.run steps).clock.now,
          new.record⟩ outcome := by
  have settings := settings_run sound.orderly steps
  have key : (start.run steps).dependency.account.settings.key = start.dependency.key :=
    congrArg Settings.key settings
  have config : (start.run steps).dependency.account.settings.config = start.dependency.config :=
    congrArg Settings.config settings
  have ending := exit.ending
  rw [key, config] at ending
  exact ⟨last, by simp, tags, exit.tagged, ending⟩

theorem paired_nil {start : Gateway α} (sound : start.Sound)
    (fresh : ∀ number, (start.dependency.account.lifecycle number).isOver = false)
    : Paired start [] := by
  constructor
  · intro number event member
    rw [run_nil, completionsOf_of_running sound (fresh number)] at member
    cases member
  · intro number outcome awaited
    cases awaited with
    | held ready =>
        rw [run_nil, (slot_pending_iff sound number).mpr (fresh number)] at ready
        cases ready
    | taken split ready => simp at split

theorem Paired.snoc {start : Gateway α} (sound : start.Sound) {steps : List (Step α)}
    (paired : Paired start steps) (last : Step α) : Paired start (steps ++ [last]) := by
  have before := sound_run sound steps
  have change (number : Nat) := (change_step before.orderly last).exits_or_stays number
  rw [← run_snoc] at change
  constructor
  · intro number event member
    rcases change number with exits | stays
    · have was := exits.ends.1
      obtain ⟨old, new, tags, outcome, exit⟩ := exits
      rw [completionsOf_append_own exit.completions, completionsOf_of_running before was,
        List.nil_append, List.mem_singleton] at member
      subst member
      exact ⟨outcome, endedBy_of_exit sound exit, .held exit.slot⟩
    · rw [stays.completions] at member
      obtain ⟨outcome, ended, awaited⟩ := paired.published number event member
      exact ⟨outcome, ended.snoc last, awaited.snoc last stays⟩
  · intro number outcome awaited
    rcases change number with exits | stays
    · have was := exits.ends.1
      obtain ⟨old, new, tags, stored, exit⟩ := exits
      rcases awaited.of_snoc with awaited | ready
      · obtain ⟨event, member, _⟩ := paired.awaited number outcome awaited
        rw [completionsOf_of_running before was] at member
        cases member
      · rw [exit.slot] at ready
        obtain rfl : stored = outcome := by simpa using ready
        refine ⟨_, ?_, endedBy_of_exit sound exit⟩
        rw [completionsOf_append_own exit.completions]
        exact List.mem_append_right _ (List.mem_singleton_self _)
    · have earlier : Awaited start steps number outcome := by
        rcases awaited.of_snoc with awaited | ready
        · exact awaited
        · rcases stays.slot with same | ⟨_, _, consumed⟩
          · exact .held (same.symm.trans ready)
          · rw [ready] at consumed
            cases consumed
      obtain ⟨event, member, ended⟩ := paired.awaited number outcome earlier
      exact ⟨event, stays.completions ▸ member, ended.snoc last⟩

theorem paired_run {start : Gateway α} (sound : start.Sound)
    (fresh : ∀ number, (start.dependency.account.lifecycle number).isOver = false)
    (steps : List (Step α)) : Paired start steps := by
  induction steps using run_induction with
  | nil => exact paired_nil sound fresh
  | snoc steps last ih => exact ih.snoc sound last

theorem not_isOver_of_justBuilt {start : Gateway α} (built : start.JustBuilt) (number : Nat)
    : (start.dependency.account.lifecycle number).isOver = false := by
  obtain ⟨builder, assembled⟩ := built
  obtain ⟨_, _, same⟩ := DependencyBuilder.assemble_eq_ok assembled
  rw [same]
  rfl

/-- The published record of a command and the outcome for its waiter agree, given the step that
ended the command.
-/
structure Agreement (start : Gateway α) (number : Nat) (step : Step α) (event : CompletionEvent)
    (tags : List Tag) (outcome : Outcome α) : Prop where
  form : TagForm start.dependency.config.fallbackEnabled tags
  /-- The record carries those tags once each, and no others. -/
  counts : ∀ tag, event.record.tags.count tag = if tag ∈ tags then 1 else 0
  matches_outcome : Matches start.dependency.key number step tags outcome
  /-- The health gains one request for a success, a failure, a timeout or a rejection, and nothing
  otherwise.
  -/
  requests
    : Health.requestsIn event.record.tags
      = if .success ∈ tags ∨ .failure ∈ tags ∨ .timeout ∈ tags ∨ .semaphoreRejected ∈ tags
          ∨ .threadPoolRejected ∈ tags then 1 else 0
  errors
    : Health.errorsIn event.record.tags
      = if .failure ∈ tags ∨ .timeout ∈ tags ∨ .semaphoreRejected ∈ tags
          ∨ .threadPoolRejected ∈ tags then 1 else 0

theorem EndedBy.agreement {start : Gateway α} {steps : List (Step α)} {number : Nat}
    {event : CompletionEvent} {outcome : Outcome α}
    (ended : EndedBy start steps number event outcome)
    : ∃ step ∈ steps, ∃ tags, Agreement start number step event tags outcome := by
  obtain ⟨step, member, tags, tagged, ending⟩ := ended
  have form := ending.tagForm
  refine ⟨step, member, tags, form, ?_, ending.matches, ?_, ?_⟩
  · intro tag
    rw [tagged, Tally.count_ofTags_of_nodup form.nodup]
  · rw [tagged, form.requests]
  · rw [tagged, form.errors]

/-- Whatever steps a dependency takes, in whatever order: every record that it published agrees
with what the waiter of its command is handed, and every outcome that a waiter is handed agrees
with a published record.
-/
theorem record_agrees_with_outcome {start : Gateway α} (built : start.JustBuilt)
    (steps : List (Step α)) (number : Nat)
    : (∀ event, (number, event) ∈ (start.run steps).dependency.completions
        → ∃ outcome, Awaited start steps number outcome
            ∧ ∃ step ∈ steps, ∃ tags, Agreement start number step event tags outcome)
      ∧ ∀ outcome, Awaited start steps number outcome
          → ∃ event, (number, event) ∈ (start.run steps).dependency.completions
              ∧ ∃ step ∈ steps, ∃ tags, Agreement start number step event tags outcome := by
  have paired := paired_run (sound_of_justBuilt built) (not_isOver_of_justBuilt built) steps
  constructor
  · intro event published
    obtain ⟨outcome, ended, awaited⟩ :=
      paired.published number event (mem_completionsOf.mpr published)
    exact ⟨outcome, awaited, ended.agreement⟩
  · intro outcome awaited
    obtain ⟨event, member, ended⟩ := paired.awaited number outcome awaited
    exact ⟨event, mem_completionsOf.mp member, ended.agreement⟩

/-- A failure that the fallback makes good. -/
theorem record_agrees_with_outcome_rescued
    : let start : Gateway Nat := ofBuilder { key := "sample" } rfl
      let steps : List (Step Nat) :=
        [.create true, .submit 0, .workReturned 0 (.error (.plain "down")),
          .fallbackReturned 0 (.ok 5)]
      start.JustBuilt ∧ Awaited start steps 0 (.ok 5)
        ∧ ∃ event, (0, event) ∈ (start.run steps).dependency.completions
            ∧ ∃ step ∈ steps, ∃ tags, Agreement start 0 step event tags (.ok 5) :=
  have built := justBuilt_ofBuilder { key := "sample" } rfl
  have awaited := .held rfl
  ⟨built, awaited, (record_agrees_with_outcome built _ 0).2 _ awaited⟩

end Breakwater.Gateway
