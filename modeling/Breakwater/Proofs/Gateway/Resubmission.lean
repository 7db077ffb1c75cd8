import Breakwater.Proofs.Gateway.Tidy

/-! A command is submitted once. Wherever it has come to since, another submission of it is told its
state and changes nothing, now or later.
-/

namespace Breakwater

variable {α : Type}

-----------------------------------------------------------------------------------------
-- The first state is left by a submission, and by nothing else
-----------------------------------------------------------------------------------------

namespace Call

variable {before after call : Call α} {step : Gateway.Step α}

section

variable (submitted : call.command.lifecycle ≠ .notStarted)
include submitted

theorem submitted_finish (outcome : Outcome α)
    : (call.finish outcome).command.lifecycle ≠ .notStarted := by
  rw [command_finish]
  split
  · exact nofun
  · exact submitted

theorem submitted_failToFallback (runner : Runner) (cause : CommandError)
    : (call.failToFallback runner cause).command.lifecycle ≠ .notStarted := by
  have ends (other : Call α) (outcome : Outcome α)
      (same : other.command.lifecycle = call.command.lifecycle)
      : (other.finish outcome).command.lifecycle ≠ .notStarted :=
    submitted_finish (same ▸ submitted) outcome
  rw [failToFallback]
  dsimp only
  split
  · exact ends _ _ rfl
  · split
    · split
      · exact submitted
      · exact ends _ _ rfl
    · exact ends _ _ rfl

theorem submitted_reject (runner : Runner) (isolation : Isolation)
    : (call.reject runner isolation).command.lifecycle ≠ .notStarted := by
  refine submitted_failToFallback ?_ runner _
  exact submitted

theorem submitted_beginInvocation : call.beginInvocation.command.lifecycle ≠ .notStarted := by
  obtain ⟨timer, command⟩ := call.command_beginInvocation
  rw [command]
  exact submitted

theorem submitted_startWork (runner : Runner)
    : (call.startWork runner).command.lifecycle ≠ .notStarted := by
  by_cases starts : call.command.lifecycle = .chainCreated ∧ call.command.timeout ≠ .timedOut
  · obtain ⟨_, _, command, _⟩ := call.startWork_started runner starts.1 starts.2
    rw [command]
    exact nofun
  · obtain ⟨command, _⟩ := call.startWork_skipped runner starts
    rw [command]
    exact submitted

theorem submitted_admitBySemaphore : call.admitBySemaphore.command.lifecycle ≠ .notStarted := by
  rw [admitBySemaphore]
  split
  · exact submitted_reject submitted _ _
  · refine submitted_startWork (submitted_beginInvocation ?_) _
    exact submitted

theorem submitted_admitByPool (pool : WorkerPool Nat)
    : (call.admitByPool pool).command.lifecycle ≠ .notStarted := by
  rw [admitByPool]
  split
  · exact submitted_beginInvocation submitted
  · exact submitted_reject submitted _ _

end

/-- Submitting a command takes it out of its first state. -/
theorem submitted_submit (call : Call α) : call.submit.command.lifecycle ≠ .notStarted := by
  have asked (other : Call α) (created : other.command.lifecycle = .chainCreated)
      : other.command.lifecycle ≠ .notStarted := by
    rw [created]
    exact nofun
  rw [submit]
  dsimp only
  split
  · refine submitted_failToFallback (asked _ ?_) _ _
    rfl
  · split
    · refine submitted_admitBySemaphore (asked _ ?_)
      rfl
    · refine submitted_admitByPool (asked _ ?_) _
      rfl

/-- A command that was not submitted is left alone by every step but its submission. -/
theorem Op.eq_of_idle (op : Op before step after) (idle : before.command.Idle)
    (other : step ≠ .submit before.number) : after = before := by
  cases op with
  | submit notStarted => exact absurd rfl other
  | handOff => simp only [Call.handOff, idle.work]
  | pickUp queued =>
      rw [idle.work] at queued
      cases queued
  | workReturned result => simp only [Call.workReturned, idle.work]
  | fallbackReturned result =>
      have unused := idle.fallback
      cases phase : before.command.fallback with
      | absent | ready => simp only [Call.fallbackReturned, phase]
      | _ =>
          rw [phase] at unused
          cases unused
  | timeoutFired armed => exact absurd idle.timer armed
  | cancel active returned =>
      rw [idle.lifecycle] at active
      cases active

/-- A command that has left its first state does not come back to it. -/
theorem Move.submitted (move : Move before step after)
    (submitted : before.command.lifecycle ≠ .notStarted)
    : after.command.lifecycle ≠ .notStarted := by
  have kept (keeps : Keeps before step after) : after.command.lifecycle ≠ .notStarted := by
    rcases keeps.lifecycle with same | ⟨_, created⟩
    · rw [same]
      exact submitted
    · rw [created]
      exact nofun
  cases move with
  | rests keeps => exact kept keeps
  | parks admits => exact absurd admits.notStarted submitted
  | enters permit admits => exact absurd admits.notStarted submitted
  | begins asked queued created inTime begins =>
      rw [begins.command]
      exact nofun
  | rescues running rescues => exact kept rescues.toKeeps
  | ends running closes =>
      intro idle
      have isOver := closes.isOver
      rw [idle] at isOver
      cases isOver
  | late asked isOver running keeps => exact kept keeps

end Call

namespace Gateway

variable {start : Gateway α} {number : Nat}

/-- A step of a run was the submission of a command that was there. -/
def WasSubmitted (start : Gateway α) (steps : List (Step α)) (number : Nat) : Prop :=
  start.Sometime steps fun gateway step =>
    step = .submit number ∧ number < gateway.dependency.commands.length

/-- A submission leaves no command in its first state. -/
theorem submitted_step {gateway : Gateway α} {command : Command α}
    (found : gateway.dependency.commands[number]? = some command)
    : (gateway.step (.submit number)).dependency.account.lifecycle number ≠ .notStarted := by
  show (gateway.submit number).2.dependency.account.lifecycle number ≠ .notStarted
  by_cases idle : command.lifecycle = .notStarted
  · have fixed := Call.fixed_of_frame (Call.frame_submit ⟨gateway, number, command⟩)
    simp only [submit, found, if_pos idle]
    rw [Account.lifecycle_of_get (Call.getElem?_store fixed found)]
    exact Call.submitted_submit _
  · simp only [submit, found, if_neg idle]
    rw [Account.lifecycle_of_get found]
    exact idle

/-- What another step than its submission makes of a command shows that it was submitted, or not, as
before.
-/
theorem lifecycle_step {gateway : Gateway α} (kempt : gateway.Kempt) {step : Step α}
    (other : step ≠ .submit number)
    : (gateway.step step).dependency.account.lifecycle number = .notStarted
      ↔ gateway.dependency.account.lifecycle number = .notStarted := by
  have was {command : Command α} (found : gateway.dependency.commands[number]? = some command)
      : gateway.dependency.account.lifecycle number = command.lifecycle :=
    Account.lifecycle_of_get found
  have becomes {command : Command α}
      (found : (gateway.step step).dependency.commands[number]? = some command)
      : (gateway.step step).dependency.account.lifecycle number = command.lifecycle :=
    Account.lifecycle_of_get found
  cases (change_step kempt.orderly step).fate number with
  | kept same =>
      show ((gateway.step step).dependency.commands[number]?.map (·.lifecycle)).getD _ = _ ↔ _
      rw [same]
      rfl
  | created asked absent new =>
      have none_yet : gateway.dependency.account.lifecycle number = .notStarted :=
        Account.lifecycle_of_none absent
      rw [becomes new, none_yet]
      exact iff_of_true rfl rfl
  | taken asked found new ready => rw [becomes new, was found]
  | @turned timer pool command call found op new stored =>
      rw [becomes new, was found]
      constructor
      · refine fun idle => Decidable.of_not_not fun submitted => ?_
        exact (kempt.move found op).submitted submitted idle
      · intro idle
        rw [op.eq_of_idle ((kempt.orderly.stage found).isIdle idle) other]
        exact idle

/-- A command has left its first state exactly if it was submitted. -/
theorem wasSubmitted_iff (built : start.JustBuilt) (steps : List (Step α)) (number : Nat)
    : WasSubmitted start steps number
      ↔ (start.run steps).dependency.account.lifecycle number ≠ .notStarted := by
  induction steps using run_induction with
  | nil =>
      have absent : start.dependency.commands[number]? = none := by
        rw [built.commands]
        rfl
      exact iff_of_false not_sometime_nil (not_not_intro (Account.lifecycle_of_none absent))
  | snoc steps last ih =>
      have kempt := kempt_run (kempt_of_justBuilt built) steps
      rw [WasSubmitted, sometime_snoc, ← WasSubmitted, ih, run_snoc]
      by_cases asked : last = .submit number
      · subst asked
        cases found : (start.run steps).dependency.commands[number]? with
        | none =>
            have still : (start.run steps).step (.submit number) = start.run steps := by
              simp only [step, submit, found]
            rw [still, or_iff_left]
            exact fun last => Nat.not_lt_of_le (List.getElem?_eq_none_iff.mp found) last.2
        | some command =>
            exact iff_of_true (.inr ⟨rfl, (List.getElem?_eq_some_iff.mp found).1⟩)
              (submitted_step found)
      · rw [or_iff_left fun last => asked last.1]
        exact not_congr (lifecycle_step kempt asked).symm

-----------------------------------------------------------------------------------------
-- Submitted again
-----------------------------------------------------------------------------------------

/-- Whatever steps a dependency takes, in whatever order: once a command was submitted, another
submission of it is told its state and leaves everything as it is, and nothing that happens later is
different for it.
-/
theorem resubmission_inert (built : start.JustBuilt) (steps : List (Step α))
    (submitted : WasSubmitted start steps number)
    : ∃ command,
        (start.run steps).dependency.commands[number]? = some command
        ∧ command.lifecycle ≠ .notStarted
        ∧ (start.run steps).submit number
          = (.error (.invalidState start.dependency.key command.lifecycle.caseName),
              start.run steps)
        ∧ ∀ later, start.run (steps ++ .submit number :: later) = start.run (steps ++ later) := by
  have left := (wasSubmitted_iff built steps number).mp submitted
  have key : (start.run steps).dependency.key = start.dependency.key :=
    congrArg Settings.key (settings_run (sound_of_justBuilt built).orderly steps)
  cases found : (start.run steps).dependency.commands[number]? with
  | none => exact absurd (Account.lifecycle_of_none found) left
  | some command =>
      rw [Account.lifecycle_of_get found] at left
      have told : (start.run steps).submit number
          = (.error (.invalidState start.dependency.key command.lifecycle.caseName),
              start.run steps) := by
        simp only [submit, found, if_neg left, key]
      refine ⟨command, rfl, left, told, fun later => ?_⟩
      have still : (start.run steps).step (.submit number) = start.run steps :=
        congrArg Prod.snd told
      rw [run_append, run_cons, still, run_append]

/-- At a pool of one worker: the first command is running, the second waits in the queue, the third
has timed out and its fallback is running on the thread of the timer, the fourth was cancelled, and
the last had timed out before that.
-/
theorem resubmission_inert_everywhere
    : let start : Gateway Nat :=
        ofBuilder
          { key := "sample"
            config := {
              isolation := .threadPool
              pool := { coreSize := 1, maxQueueSize := 10 }
            } } rfl
      let steps : List (Step Nat) :=
        [.create true, .create true, .create true, .create true, .create false,
          .submit 4, .handOff 4, .submit 2, .handOff 2, .advance 1000, .timeoutFired 4,
          .timeoutFired 2, .pickUp, .pickUp, .submit 0, .handOff 0, .pickUp, .submit 1, .handOff 1,
          .submit 3, .handOff 3, .cancel 3]
      start.JustBuilt
        ∧ (start.run steps).dependency.commands.map (·.lifecycle.caseName)
          = ["UserCodeExecuted", "ChainCreated", "ChainCreated", "Unsubscribed", "Terminal"]
        ∧ ∀ number < 5,
            WasSubmitted start steps number
            ∧ ∃ command,
              (start.run steps).dependency.commands[number]? = some command
              ∧ (start.run steps).submit number
                = (.error (.invalidState "sample" command.lifecycle.caseName),
                    start.run steps) := by
  intro start steps
  have built : start.JustBuilt := justBuilt_ofBuilder _ _
  refine ⟨built, by decide +kernel, fun number within => ?_⟩
  have submitted : WasSubmitted start steps number := by
    refine (wasSubmitted_iff built steps number).mpr ?_
    revert number
    decide +kernel
  obtain ⟨command, found, _, told, _⟩ := resubmission_inert built steps submitted
  exact ⟨submitted, command, found, told⟩

end Gateway

end Breakwater
