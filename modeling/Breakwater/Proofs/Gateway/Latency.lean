import Breakwater.Proofs.Call.Latency
import Breakwater.Proofs.Gateway.Agreement
import Breakwater.Proofs.Gateway.Counters
import Breakwater.Proofs.Gateway.Resubmission

/-! The times that are published of a command, in every run whose clock does not go back: they are
there together or not at all, and all of them lie between the submission and the end.
-/

namespace Breakwater.Gateway

open Account

variable {α : Type} {start : Gateway α} {number : Nat}

-----------------------------------------------------------------------------------------
-- One command
-----------------------------------------------------------------------------------------

/-- A command was submitted, for the first time, when a run had come to a moment. -/
def SubmittedAt (start : Gateway α) (steps : List (Step α)) (number moment : Nat) : Prop :=
  ∃ earlier later command,
    steps = earlier ++ .submit number :: later
      ∧ (start.run earlier).dependency.commands[number]? = some command
      ∧ command.lifecycle = .notStarted
      ∧ (start.run earlier).clock.now = moment

theorem SubmittedAt.snoc {steps : List (Step α)} {moment : Nat}
    (submitted : SubmittedAt start steps number moment) (last : Step α)
    : SubmittedAt start (steps ++ [last]) number moment := by
  obtain ⟨earlier, later, command, split, rest⟩ := submitted
  refine ⟨earlier, later ++ [last], command, ?_, rest⟩
  rw [split, List.append_assoc, List.cons_append]

/-- What was published of a command that has ended. -/
def Reported (start : Gateway α) (steps : List (Step α)) (number : Nat) : Prop :=
  ∃ event submitted,
    (start.run steps).dependency.account.completionsOf number = [event]
      ∧ SubmittedAt start steps number submitted ∧ event.Latencies submitted

/-- How far a command has come in a run, as far as its times are concerned. -/
inductive Course (start : Gateway α) (steps : List (Step α)) (number : Nat) (command : Command α)
    : Prop
  | idle (notStarted : command.lifecycle = .notStarted) (record : command.record = .empty)
  | underway (underway : command.Underway (start.run steps).clock.now)
    (submitted : SubmittedAt start steps number command.invokedAt)
  | ended (isOver : command.lifecycle.isOver) (reported : Reported start steps number)

/-- What a step of a run makes of the times of a command. -/
inductive Lapse (start : Gateway α) (steps : List (Step α)) (last : Step α) (number : Nat)
    (new : Command α) : Prop
  | rests (notStarted : new.lifecycle = .notStarted) (record : new.record = .empty)
  | proceeds {submitted}
    (running : ((start.run steps).dependency.account.lifecycle number).isOver = false)
    (since : SubmittedAt start (steps ++ [last]) number submitted)
    (proceeds : new.Proceeds submitted (start.run steps).clock.now)
  | late (isOver : ((start.run steps).dependency.account.lifecycle number).isOver)
    (reported : Reported start steps number)

/-- The step that a call makes with a command, given how far that has come. -/
theorem Course.worked {steps : List (Step α)} {last : Step α} {old : Command α}
    (course : Course start steps number old) (kempt : (start.run steps).Kempt)
    (found : (start.run steps).dependency.commands[number]? = some old)
    {timer : Timer CommandRef} {pool : Option (WorkerPool Nat)} {call : Call α}
    (op : Call.Op ((start.run steps).entered timer pool number old) last call)
    : Lapse start steps last number call.command := by
  have stage := kempt.orderly.stage found
  have lifecycle : (start.run steps).dependency.account.lifecycle number = old.lifecycle :=
    lifecycle_of_get found
  cases course with
  | idle notStarted record =>
      have idle := stage.isIdle notStarted
      have running : old.lifecycle.isOver = false := by
        rw [notStarted]
        rfl
      by_cases asked : last = .submit number
      · subst asked
        cases op with
        | submit =>
            exact .proceeds (lifecycle ▸ running) ⟨steps, [], old, rfl, found, notStarted, rfl⟩
              (Call.submit_proceeds record idle.timeout)
      · rw [op.eq_of_idle idle asked]
        exact .rests notStarted record
  | underway underway submitted =>
      have running := Lifecycle.isOver_of_isActive underway.active
      exact .proceeds (lifecycle ▸ running) (submitted.snoc last)
        (op.proceeds stage (kempt.tidy.of_found found) underway)
  | ended isOver reported => exact .late (lifecycle ▸ isOver) reported

/-- A step that takes the outcome of a command at most leaves its times alone. -/
theorem Course.kept {steps : List (Step α)} {last : Step α} {old new : Command α}
    (course : Course start steps number old)
    (found : (start.run steps).dependency.commands[number]? = some old)
    (same : new = { old with completion := new.completion })
    : Lapse start steps last number new := by
  have lifecycle : (start.run steps).dependency.account.lifecycle number = old.lifecycle :=
    lifecycle_of_get found
  rw [same]
  cases course with
  | idle notStarted record => exact .rests notStarted record
  | underway underway submitted =>
      have running := Lifecycle.isOver_of_isActive underway.active
      exact .proceeds (lifecycle ▸ running) (submitted.snoc last) ⟨rfl, .inl { underway with }⟩
  | ended isOver reported => exact .late (lifecycle ▸ isOver) reported

/-- The step that ends a command publishes its record as that is then. -/
theorem reported_of_exit (sound : start.Sound) {steps : List (Step α)} {last : Step α}
    {old new : Command α} {tags : List Tag} {outcome : Outcome α} {submitted : Nat}
    (exit
      : Exit (start.run steps).dependency.account (start.run steps).clock.now last number old new
          tags outcome (start.run (steps ++ [last])).dependency.account)
    (since : SubmittedAt start (steps ++ [last]) number submitted)
    (returned : new.Returned (start.run steps).clock.now) (invokedAt : new.invokedAt = submitted)
    : Reported start (steps ++ [last]) number := by
  have was : ((start.run steps).dependency.account.lifecycle number).isOver = false :=
    lifecycle_of_get exit.found ▸ exit.running
  have published := completionsOf_append_own exit.completions
  rw [completionsOf_of_running (sound_run sound steps) was, List.nil_append] at published
  exact ⟨_, submitted, published, since, invokedAt ▸ returned.latencies _⟩

-----------------------------------------------------------------------------------------
-- Runs
-----------------------------------------------------------------------------------------

theorem Lapse.course (sound : start.Sound) {steps : List (Step α)} {last : Step α}
    {new : Command α} (lapse : Lapse start steps last number new)
    (there : (start.run (steps ++ [last])).dependency.commands[number]? = some new)
    (onward : (start.run steps).clock.now ≤ (start.run (steps ++ [last])).clock.now)
    : Course start (steps ++ [last]) number new := by
  have change := (change_step (sound_run sound steps).orderly last).exits_or_stays number
  rw [← run_snoc] at change
  have lifecycle
      : (start.run (steps ++ [last])).dependency.account.lifecycle number = new.lifecycle :=
    lifecycle_of_get there
  cases lapse with
  | rests notStarted record => exact .idle notStarted record
  | proceeds running since proceeds =>
      obtain ⟨invokedAt, underway | returned⟩ := proceeds
      · exact .underway (underway.later onward) (invokedAt ▸ since)
      · refine .ended returned.isOver ?_
        -- The command was not over before, so this is the step that published it.
        rcases change with exits | stays
        · obtain ⟨old, same, tags, outcome, exit⟩ := exits
          obtain rfl := Option.some.inj (there.symm.trans exit.left)
          exact reported_of_exit sound exit since returned invokedAt
        · have still := stays.isOver
          rw [running, lifecycle, returned.isOver] at still
          cases still
  | late isOver reported =>
      rcases change with exits | stays
      · rw [exits.ends.1] at isOver
        cases isOver
      · obtain ⟨event, submitted, published, since, latencies⟩ := reported
        have still := stays.isOver
        rw [isOver, lifecycle] at still
        exact .ended still ⟨event, submitted, stays.completions.trans published, since.snoc last,
          latencies⟩

/-- The times of the commands along a run, by induction on the steps. -/
theorem course_run (built : start.JustBuilt) (steps : List (Step α))
    : Unwrapped start steps
      → ∀ number command, (start.run steps).dependency.commands[number]? = some command
          → Course start steps number command := by
  induction steps using run_induction with
  | nil =>
      intro _ number command there
      rw [run_nil, built.commands] at there
      cases there
  | snoc steps last ih =>
      intro unwrapped number new there
      have kempt := kempt_run (kempt_of_justBuilt built) steps
      have change := change_step kempt.orderly last
      rw [← run_snoc] at change
      have onward := change.onward unwrapped.of_snoc.2
      have lapse : Lapse start steps last number new := by
        cases change.fate number with
        | kept same =>
            have found := same.symm.trans there
            exact (ih unwrapped.of_snoc.1 number new found).kept found rfl
        | created asked absent fresh =>
            obtain rfl := Option.some.inj (there.symm.trans fresh)
            exact .rests rfl rfl
        | taken asked found left ready =>
            obtain rfl := Option.some.inj (there.symm.trans left)
            exact (ih unwrapped.of_snoc.1 number _ found).kept found rfl
        | turned timer pool found op left stored =>
            obtain rfl := Option.some.inj (there.symm.trans left)
            exact (ih unwrapped.of_snoc.1 number _ found).worked kempt found op
      exact lapse.course (sound_of_justBuilt built) there onward

/-- Whatever steps a dependency takes, in whatever order, if its clock does not go back: of every
command that has ended one record was published, and its times agree with each other, with its tags
and with the moment of its submission. The clock is moved by steps of its own and stands still
within one, so that the two readings at the end of a command are the same.
-/
theorem published_latencies (built : start.JustBuilt) {steps : List (Step α)}
    (unwrapped : Unwrapped start steps)
    (isOver : ((start.run steps).dependency.account.lifecycle number).isOver)
    : ∃ event submitted,
        (start.run steps).dependency.account.completionsOf number = [event]
          ∧ SubmittedAt start steps number submitted ∧ event.Latencies submitted := by
  cases there : (start.run steps).dependency.commands[number]? with
  | none =>
      rw [lifecycle_of_none there] at isOver
      cases isOver
  | some command =>
      rw [lifecycle_of_get there] at isOver
      cases course_run built steps unwrapped number command there with
      | idle notStarted record =>
          rw [notStarted] at isOver
          cases isOver
      | underway underway submitted =>
          rw [Lifecycle.isOver_of_isActive underway.active] at isOver
          cases isOver
      | ended isOver reported => exact reported

/-- A command that waits for a worker until its timeout fires, and is cancelled while its fallback
runs.
-/
theorem published_latencies_cancelled
    : let start : Gateway Nat :=
        ofBuilder
          { key := "sample"
            config := {
              isolation := .threadPool, executionTimeout := 6
              pool := { coreSize := 1, maxQueueSize := 10 }
            } } rfl
      let steps : List (Step Nat) :=
        [.create true, .advance 3, .submit 0, .handOff 0, .advance 6, .timeoutFired 0, .advance 5,
          .cancel 0]
      let completions := (start.run steps).dependency.account.completionsOf 0
      start.JustBuilt ∧ Unwrapped start steps
        ∧ ((start.run steps).dependency.account.lifecycle 0).isOver
        ∧ (∃ event submitted,
            completions = [event] ∧ SubmittedAt start steps 0 submitted
              ∧ event.Latencies submitted)
        ∧ completions.map (fun event => (event.record.startedAt, event.record.executionLatency))
          = [(some 3, some 6)]
        ∧ completions.map (fun event => (event.record.callerLatency, event.completedAt))
          = [(some 11, 14)] := by
  intro start steps completions
  have built : start.JustBuilt := justBuilt_ofBuilder _ _
  have unwrapped : Unwrapped start steps := by
    refine throughout_cons.mpr ⟨nofun, throughout_cons.mpr ⟨?_, throughout_cons.mpr ⟨nofun,
      throughout_cons.mpr ⟨nofun, throughout_cons.mpr ⟨?_, throughout_cons.mpr ⟨nofun,
        throughout_cons.mpr ⟨?_, throughout_cons.mpr ⟨nofun, throughout_nil⟩⟩⟩⟩⟩⟩⟩⟩
    all_goals
      rintro millis ⟨⟩
      decide +kernel
  have isOver : ((start.run steps).dependency.account.lifecycle 0).isOver := by decide +kernel
  exact ⟨built, unwrapped, isOver, published_latencies built unwrapped isOver, by decide +kernel,
    by decide +kernel⟩

end Breakwater.Gateway
