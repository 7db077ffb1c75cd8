import Breakwater.Proofs.Gateway.Agreement
import Breakwater.Proofs.Gateway.Tidy

/-! The record of a command after it was published: only a fallback that a cancellation has left
running writes into it again.
-/

namespace Breakwater

variable {α : Type}

/-- A tag that is added shows in a record, unless that was full of it. -/
theorem ExecutionRecord.addTag_ne {record : ExecutionRecord} {tag : Tag}
    (room : record.tags.count tag < Tally.ceiling) : record.addTag tag ≠ record := by
  intro same
  have counted : (record.tags.add tag).count tag = record.tags.count tag :=
    congrArg (fun record : ExecutionRecord => record.tags.count tag) same
  rw [Tally.add, Tally.count_addMany, if_pos rfl] at counted
  omega

-----------------------------------------------------------------------------------------
-- Calls
-----------------------------------------------------------------------------------------

namespace Call

variable {before after call : Call α} {step : Gateway.Step α}

/-- A fallback that returns to a command that has ended leaves its tag in the record. -/
theorem command_fallbackReturned_of_over (closed : call.command.Over)
    (running : call.command.fallback.isRunning) (result : Except WorkError α)
    : (call.fallbackReturned result).command
      = { call.command with
          fallback := .over
          record := call.command.record.addTag (.ofRescue result) } := by
  cases phase : call.command.fallback with
  | running cause runner =>
      obtain ⟨outcome, returned⟩ := fallbackReturned_eq phase result
      let tagged := (call.mapCommand ({ · with fallback := .over })).mapRecord
        (·.addTag (.ofRescue result))
      have dropped : tagged.finish outcome = tagged := by
        have finished : tagged.command.lifecycle.isActive = false := closed.not_isActive
        simp only [finish, finished]
        rfl
      have command : (tagged.finish outcome).rescued.command = tagged.command := by
        rw [dropped]
        rfl
      rw [returned]
      dsimp only
      split
      · exact command
      · exact command
  | _ =>
      rw [phase] at running
      cases running

/-- Nothing else writes into the record of a command that has ended. -/
theorem Move.record_of_over (move : Move before step after)
    (isOver : before.command.lifecycle.isOver)
    (calm
      : ∀ result, step = .fallbackReturned before.number result
          → before.command.fallback.isRunning = false)
    : after.command.record = before.command.record
      ∧ after.command.fallback = before.command.fallback := by
  cases move with
  | rests keeps phase semaphore record => exact ⟨record, phase⟩
  | parks admits pool command diary =>
      rw [admits.notStarted] at isOver
      cases isOver
  | enters permit admits noPool command diary =>
      rw [admits.notStarted] at isOver
      cases isOver
  | begins asked queued created inTime begins =>
      rw [created] at isOver
      cases isOver
  | rescues running rescues =>
      rw [running] at isOver
      cases isOver
  | ends running closes =>
      rw [running] at isOver
      cases isOver
  | @late result asked isOver running keeps share record =>
      rw [calm result asked] at running
      cases running

end Call

namespace Gateway

open Account

variable {before after start : Gateway α} {step : Step α} {number : Nat}

/-- A fallback returns to its command after that was cancelled. -/
def RescuesLate (gateway : Gateway α) (step : Step α) (number : Nat)
    (result : Except WorkError α) : Prop :=
  step = .fallbackReturned number result
    ∧ ∃ command,
        gateway.dependency.commands[number]? = some command
          ∧ command.lifecycle = .unsubscribed
          ∧ command.fallback.isRunning

/-- The record of a command that has ended gains the tag of a fallback that returns late. -/
theorem RescuesLate.record (kempt : before.Kempt) {result : Except WorkError α}
    (late : before.RescuesLate step number result) {command : Command α}
    (found : before.dependency.commands[number]? = some command)
    : (before.step step).dependency.commands[number]?
      = some { command with
          fallback := .over
          record := command.record.addTag (.ofRescue result) } := by
  obtain ⟨rfl, same, there, left, running⟩ := late
  obtain rfl := Option.some.inj (found.symm.trans there)
  have closed := (kempt.orderly.stage found).isClosed (by rw [left]; rfl)
  let call : Call α := ⟨before, number, command⟩
  have stored : before.step (.fallbackReturned number result)
      = (call.fallbackReturned result).store := by
    simp only [Gateway.step, fallbackReturned, onCommand, found]
    rfl
  have written := Call.command_fallbackReturned_of_over (show call.command.Over from closed) running
    result
  rw [stored, ← written]
  exact Call.getElem?_store (Call.fixed_of_frame (call.frame_fallbackReturned result)) found

/-- Nothing else writes into it. -/
theorem Passage.record_of_over (passage : Passage before step number after)
    (tidy : before.Tidy) {command : Command α}
    (found : before.dependency.commands[number]? = some command)
    (isOver : command.lifecycle.isOver) (calm : ∀ result, ¬before.RescuesLate step number result)
    : ∃ new,
        after.dependency.commands[number]? = some new
          ∧ new.record = command.record
          ∧ new.fallback = command.fallback := by
  refine passage.onwards found ⟨rfl, rfl⟩ ⟨rfl, rfl⟩ fun timer pool call move => ?_
  refine move.record_of_over isOver fun result asked => Bool.eq_false_iff.mpr fun running => ?_
  refine calm result ⟨asked, command, found, ?_, running⟩
  have other := (tidy.of_found found).rescued running
  cases lifecycle : command.lifecycle with
  | unsubscribed => rfl
  | terminal => exact absurd lifecycle other
  | notStarted | chainCreated | userCodeExecuted =>
      rw [lifecycle] at isOver
      cases isOver

/-- In a run, no fallback of a command returns after that was cancelled. -/
def NeverRescuedLate (start : Gateway α) (steps : List (Step α)) (number : Nat) : Prop :=
  start.Throughout steps fun gateway step => ∀ result, ¬gateway.RescuesLate step number result

/-- What became of the record of a command after it was published. -/
inductive Aftermath (start : Gateway α) (steps : List (Step α)) (number : Nat)
    (published : ExecutionRecord) (command : Command α) : Prop
  | frozen (calm : NeverRescuedLate start steps number) (same : command.record = published)
  | written {earlier result later}
    (split : steps = earlier ++ .fallbackReturned number result :: later)
    (late : (start.run earlier).RescuesLate (.fallbackReturned number result) number result)
    (finished : command.fallback.isRunning = false)
    (tagged : command.record = published.addTag (.ofRescue result))

/-- A command that has not ended was not cancelled before. -/
theorem neverRescuedLate_of_running (sound : start.Sound) {steps : List (Step α)}
    (running : ((start.run steps).dependency.account.lifecycle number).isOver = false)
    : NeverRescuedLate start steps number := by
  rintro earlier step later rfl result ⟨_, command, found, left, _⟩
  have lifecycle : (start.run earlier).dependency.account.lifecycle number = .unsubscribed :=
    (lifecycle_of_get found).trans left
  have finished : ((start.run earlier).dependency.account.lifecycle number).isOver := by
    rw [lifecycle]
    rfl
  have still := (run_of_isOver (sound_run sound earlier) finished (step :: later)).1
  rw [run_append, still, finished] at running
  cases running

theorem isOver_of_published (sound : before.Sound) {event : CompletionEvent}
    (published : event ∈ before.dependency.account.completionsOf number)
    : (before.dependency.account.lifecycle number).isOver := by
  cases ended : (before.dependency.account.lifecycle number).isOver with
  | true => rfl
  | false =>
      rw [completionsOf_of_running sound ended] at published
      cases published

/-- The step that ends a command publishes the record that the command has then. -/
theorem aftermath_of_exit (sound : start.Sound) {steps : List (Step α)} {last : Step α}
    {event : CompletionEvent}
    (exits
      : Exits (start.run steps).dependency.account (start.run steps).clock.now last number
          (start.run (steps ++ [last])).dependency.account)
    (published
      : event ∈ (start.run (steps ++ [last])).dependency.account.completionsOf number)
    : ∃ command,
        (start.run (steps ++ [last])).dependency.commands[number]? = some command
          ∧ Aftermath start (steps ++ [last]) number event.record command := by
  have was := exits.ends.1
  obtain ⟨old, new, tags, outcome, exit⟩ := exits
  rw [completionsOf_append_own exit.completions,
    completionsOf_of_running (sound_run sound steps) was, List.nil_append, List.mem_singleton]
    at published
  subst published
  have never : ∀ result, ¬(start.run steps).RescuesLate last number result := by
    rintro result ⟨_, command, found, left, _⟩
    rw [lifecycle_of_get found, left] at was
    cases was
  exact ⟨new, exit.left, .frozen ((neverRescuedLate_of_running sound was).snoc never) rfl⟩

/-- The record of a command stays what it was made of, by induction on the steps. -/
theorem aftermath_run (built : start.JustBuilt) (steps : List (Step α)) {event : CompletionEvent}
    (published : event ∈ (start.run steps).dependency.account.completionsOf number)
    : ∃ command,
        (start.run steps).dependency.commands[number]? = some command
          ∧ Aftermath start steps number event.record command := by
  have sound := sound_of_justBuilt built
  induction steps using run_induction with
  | nil =>
      have running := not_isOver_of_justBuilt built number
      rw [run_nil, completionsOf_of_running sound running] at published
      cases published
  | snoc steps last ih =>
      have kempt := kempt_run (kempt_of_justBuilt built) steps
      have change := change_step kempt.orderly last
      rw [← run_snoc] at change
      rcases change.exits_or_stays number with exits | stays
      · exact aftermath_of_exit sound exits published
      rw [stays.completions] at published
      have isOver := isOver_of_published (sound_run sound steps) published
      obtain ⟨command, found, aftermath⟩ := ih published
      rw [lifecycle_of_get found] at isOver
      -- Once it was published, only a fallback that returns late writes into the record, and that
      -- happens once: none is running afterwards.
      by_cases late : ∃ result, (start.run steps).RescuesLate last number result
      · obtain ⟨result, late⟩ := late
        obtain ⟨rfl, same, there, _, running⟩ := id late
        obtain rfl := Option.some.inj (found.symm.trans there)
        have written := late.record kempt found
        rw [← run_snoc] at written
        cases aftermath with
        | frozen calm record =>
            refine ⟨_, written, .written rfl late rfl ?_⟩
            exact congrArg (·.addTag (.ofRescue result)) record
        | written split before finished record =>
            rw [finished] at running
            cases running
      · have calm : ∀ result, ¬(start.run steps).RescuesLate last number result :=
          fun result now => late ⟨result, now⟩
        obtain ⟨new, there, record, fallback⟩ :=
          (change.passage kempt number).record_of_over kempt.tidy found isOver calm
        refine ⟨new, there, ?_⟩
        cases aftermath with
        | frozen before same => exact .frozen (before.snoc calm) (record.trans same)
        | @written earlier result later split late finished tagged =>
            have longer : steps ++ [last]
                = earlier ++ .fallbackReturned number result :: (later ++ [last]) := by
              rw [split, List.append_assoc, List.cons_append]
            exact .written longer late (fallback ▸ finished) (record.trans tagged)

/-- Whatever steps a dependency takes, in whatever order: the record of a command is the one that
was published for it exactly if none of its fallbacks returned after it was cancelled; else it has
gained the tag for that.
-/
theorem record_frozen_iff (built : start.JustBuilt) (steps : List (Step α))
    {event : CompletionEvent}
    (published : (number, event) ∈ (start.run steps).dependency.completions)
    : ∃ command,
        (start.run steps).dependency.commands[number]? = some command
          ∧ (command.record = event.record ↔ NeverRescuedLate start steps number)
          ∧ Aftermath start steps number event.record command := by
  have listed : event ∈ (start.run steps).dependency.account.completionsOf number :=
    mem_completionsOf.mpr published
  obtain ⟨command, found, aftermath⟩ := aftermath_run built steps listed
  refine ⟨command, found, ?_, aftermath⟩
  cases aftermath with
  | frozen calm same => exact ⟨fun _ => calm, fun _ => same⟩
  | @written earlier result later split late finished tagged =>
      constructor
      · intro same
        have paired := paired_run (sound_of_justBuilt built) (not_isOver_of_justBuilt built) steps
        obtain ⟨outcome, ended, _⟩ := paired.published number event listed
        obtain ⟨step, _, tags, agreement⟩ := ended.agreement
        refine absurd (tagged.symm.trans same) (ExecutionRecord.addTag_ne ?_)
        rw [agreement.counts]
        split <;> decide
      · exact fun calm => absurd late (calm earlier _ later split result)

/-- A command that a fallback has made good, which comes too late to be cancelled. -/
theorem record_frozen_iff_rescued
    : let start : Gateway Nat := ofBuilder { key := "sample" } rfl
      let steps : List (Step Nat) :=
        [.create true, .submit 0, .workReturned 0 (.error (.plain "down")),
          .fallbackReturned 0 (.ok 5), .cancel 0, .fallbackReturned 0 (.ok 6)]
      let event : CompletionEvent :=
        ((start.run steps).dependency.completions.head?.map (·.2)).getD default
      start.JustBuilt ∧ (0, event) ∈ (start.run steps).dependency.completions
        ∧ NeverRescuedLate start steps 0
        ∧ (start.run steps).dependency.commands[0]?.map (·.record) = some event.record := by
  intro start steps event
  have built : start.JustBuilt := justBuilt_ofBuilder _ _
  have published : (0, event) ∈ (start.run steps).dependency.completions := by decide +kernel
  obtain ⟨command, found, frozen, _⟩ := record_frozen_iff built steps published
  have same : (start.run steps).dependency.commands[0]?.map (·.record) = some event.record := by
    decide +kernel
  rw [found] at same
  have calm := frozen.mp (Option.some.inj same)
  exact ⟨built, published, calm, by rw [found]; exact same⟩

/-- A fallback that returns after the cancellation leaves its tag in the record, though that was
published.
-/
theorem late_fallback_changes_record
    : let start : Gateway Nat :=
        ofBuilder
          { key := "sample"
            config := {
              isolation := .threadPool, timeoutEnabled := false
              pool := { coreSize := 1, maxQueueSize := 10 }
            } } rfl
      let steps : List (Step Nat) :=
        [.create true, .submit 0, .handOff 0, .pickUp, .workReturned 0 (.error (.plain "down")),
          .cancel 0]
      let event : CompletionEvent :=
        ((start.run steps).dependency.completions.head?.map (·.2)).getD default
      let record (gateway : Gateway Nat) : Option ExecutionRecord :=
        gateway.dependency.commands[0]?.map (·.record)
      start.JustBuilt ∧ (0, event) ∈ (start.run steps).dependency.completions
        ∧ record (start.run steps) = some event.record
        ∧ record (start.run (steps ++ [.fallbackReturned 0 (.ok 5)])) ≠ some event.record := by
  intro start steps event record
  exact ⟨justBuilt_ofBuilder _ _, by decide +kernel, by decide +kernel, by decide +kernel⟩

end Gateway

end Breakwater
