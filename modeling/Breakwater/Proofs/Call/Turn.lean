import Breakwater.Proofs.Call.Frame
import Breakwater.Proofs.Command.Stage

/-! What each step does to the command that it works on: the command goes on at one of its
stages, or it ends, once, with a record and an outcome that the step determines.
-/

namespace Breakwater

variable {α : Type}

@[simp]
theorem ExecutionRecord.tags_markReturned (record : ExecutionRecord) (latency : Nat)
    : (record.markReturned latency).tags = record.tags := by
  simp only [markReturned]
  split <;> rfl

@[simp]
theorem ExecutionRecord.tags_addTimedTag (record : ExecutionRecord) (latency : Nat) (tag : Tag)
    : (record.addTimedTag latency tag).tags = record.tags.add tag := by
  unfold addTimedTag
  dsimp only
  split <;> rfl

namespace Call

/-- The command ended in between: its record was published with the given tags, its slot was
written with the outcome, and nothing is held any more.
-/
structure Ended (before after : Call α) (tags : List Tag) (outcome : Outcome α) : Prop where
  closed : after.command.Over
  tags : after.command.record.tags = .ofTags tags
  stored : after.command.completion = .ready outcome
  permit : after.command.permit = none
  gauge : after.command.gaugeHeld = false
  told
    : after.dependency.ledger
      = before.dependency.ledger.publish before.number
          ⟨before.dependency.metrics.key, before.now, after.command.record⟩

/-- Ending is seen the same from an earlier call that told the ledger of nothing. -/
theorem Ended.of_earlier {before middle after : Call α} {tags outcome}
    (h : middle.Ended after tags outcome) (frame : middle.frame = before.frame)
    (ledger : middle.dependency.ledger = before.dependency.ledger)
    : before.Ended after tags outcome := by
  have number : middle.number = before.number := congrArg (·.1) frame
  have now : middle.now = before.now := congrArg (·.2.1) frame
  have key : middle.dependency.metrics.key = before.dependency.metrics.key :=
    congrArg (·.2.2.metricsKey) frame
  have told := h.told
  rw [ledger, number, now, key] at told
  exact { h with told }

/-- The tags of the record once a command has ended with an outcome. -/
theorem finish_ended {call : Call α} {tags : List Tag} (outcome : Outcome α)
    (active : call.command.lifecycle.isActive)
    (pending : call.command.completion = .pending)
    (tagged : call.command.record.tags = .ofTags tags)
    (workless : call.command.timeout ≠ .notExecuted ∨ call.command.work = .over)
    : call.Ended (call.finish outcome) tags outcome := by
  have command := call.command_finish outcome
  have dependency := call.dependency_finish outcome
  rw [if_pos active] at command dependency
  constructor
  · constructor <;> simp [command, Command.ended, Command.cleaned, Lifecycle.isOver, pending,
      Completion.complete, workless]
  · simpa [command, Command.ended, Command.cleaned] using tagged
  · simp [command, Command.ended, pending, Completion.complete]
  · simp [command, Command.ended, Command.cleaned]
  · simp [command, Command.ended, Command.cleaned]
  · rw [dependency, ledger_closedDependency, command]
    rfl

/-- A claimed command can end with any outcome. -/
theorem finish_claimed {call : Call α} {tags : List Tag} (outcome : Outcome α)
    (claimed : call.command.Claimed tags) : call.Ended (call.finish outcome) tags outcome := by
  have workless := claimed.workless.imp_left (fun timedOut =>
    show call.command.timeout ≠ .notExecuted by simp [timedOut])
  exact finish_ended outcome claimed.lifecycle claimed.completion claimed.tags workless

/-- A claimed command whose fallback was not used yet either ends without it or starts it. -/
theorem failToFallback_cases {call : Call α} {cause : CommandError} {tag : Tag}
    (runner : Runner) (claimed : call.command.Claimed [tag]) (primary : cause.Primary tag)
    (unused : call.command.fallback.isUnused)
    : (∃ tags outcome,
        Unaided call.key call.config.fallbackEnabled cause tag tags outcome
        ∧ call.Ended (call.failToFallback runner cause) tags outcome)
      ∨ (call.config.fallbackEnabled = true
          ∧ (call.failToFallback runner cause).command.Rescuing cause tag
          ∧ (call.failToFallback runner cause).dependency.ledger = call.dependency.ledger) := by
  have config : (call.mapRecord (·.setCause cause.message)).config = call.config := rfl
  have tagged (more : Tag) (phase : FallbackPhase)
      : ({ call.command with
            record := (call.command.record.setCause cause.message).addTag more
            fallback := phase } : Command α).Claimed [tag, more] :=
    { claimed.addTag more rfl with }
  rw [failToFallback]
  dsimp only
  rw [config]
  by_cases enabled : call.config.fallbackEnabled = true
  · simp only [enabled, Bool.not_true, Bool.false_eq_true, if_false]
    cases phase : call.command.fallback with
    | ready =>
        simp only [command_mapRecord, phase, dependency_mapRecord]
        split
        · refine .inr ⟨trivial, ?_, ?_⟩
          · exact ⟨⟨claimed.lifecycle, claimed.tags, claimed.completion, claimed.disarmed,
              claimed.workless⟩, primary, runner, rfl⟩
          · exact Dependency.ledger_note _ rfl
        · refine .inl ⟨_, _, .refused rfl, ?_⟩
          exact (finish_claimed _ (tagged .fallbackRejection .over)).of_earlier rfl rfl
    | absent =>
        refine .inl ⟨_, _, .missing rfl, ?_⟩
        simp only [command_mapRecord, phase]
        refine (finish_claimed _ ?_).of_earlier rfl rfl
        exact { tagged .fallbackMissing .absent with }
    | running cause runner => simp [phase, FallbackPhase.isUnused] at unused
    | _ => simp [phase, FallbackPhase.isUnused] at unused
  · have off := Bool.eq_false_iff.mpr enabled
    simp only [off, Bool.not_false, if_true]
    refine .inl ⟨_, _, .disabled rfl, ?_⟩
    refine (finish_claimed _ ?_).of_earlier rfl rfl
    exact { claimed with }

-----------------------------------------------------------------------------------------
-- Turns
-----------------------------------------------------------------------------------------

/-- What a step made of the command that it worked on. -/
inductive Turn (before : Call α) (step : Gateway.Step α) (after : Call α) : Prop
  | goesOn (stage : after.command.Stage before.config.fallbackEnabled)
    (lifecycle
      : after.command.lifecycle = before.command.lifecycle
        ∨ (before.command.lifecycle.isOver = false
            ∧ after.command.lifecycle.isOver = false))
    (completion : after.command.completion = before.command.completion)
    (ledger : after.dependency.ledger = before.dependency.ledger)
  | ends {tags outcome} (running : before.command.lifecycle.isOver = false)
    (pending : before.command.completion = .pending)
    (ending : Ending before.key before.config before.number step tags outcome)
    (ended : before.Ended after tags outcome)

/-- A turn only shows in the command and in the ledger. -/
theorem Turn.congr {before after same : Call α} {step : Gateway.Step α}
    (turn : Turn before step after) (command : same.command = after.command)
    (ledger : same.dependency.ledger = after.dependency.ledger) : Turn before step same := by
  cases turn with
  | goesOn stage lifecycle completion told =>
      rw [← command] at stage lifecycle completion
      exact .goesOn stage lifecycle completion (ledger.trans told)
  | ends running pending ending ended =>
      refine .ends running pending ending ?_
      obtain ⟨closed, tags, stored, permit, gauge, told⟩ := ended
      rw [← command] at closed tags stored permit gauge told
      exact ⟨closed, tags, stored, permit, gauge, ledger.trans told⟩

/-- A step that claims a command for an error either starts the fallback or ends the command. -/
theorem failToFallback_turn {before call : Call α} {step : Gateway.Step α}
    {cause : CommandError} {tag : Tag} (runner : Runner)
    (prompted : Prompts before.key before.config before.number step cause)
    (running : before.command.lifecycle.isOver = false)
    (pending : before.command.completion = .pending)
    (claimed : call.command.Claimed [tag]) (primary : cause.Primary tag)
    (unused : call.command.fallback.isUnused) (frame : call.frame = before.frame)
    (ledger : call.dependency.ledger = before.dependency.ledger)
    : Turn before step (call.failToFallback runner cause) := by
  have key : call.key = before.key := congrArg (·.2.2.key) frame
  have config : call.config = before.config := congrArg (·.2.2.config) frame
  rcases failToFallback_cases runner claimed primary unused with
    ⟨tags, outcome, unaided, ended⟩ | ⟨on, rescuing, same⟩
  · rw [key, config] at unaided
    exact .ends running pending (.unaided prompted primary unaided)
      (ended.of_earlier frame ledger)
  · refine .goesOn (.rescuing (config ▸ on) rescuing) (.inr ⟨running, ?_⟩) ?_ ?_
    · exact Lifecycle.isOver_of_isActive rescuing.lifecycle
    · rw [rescuing.completion, pending]
    · rw [same, ledger]

end Call

end Breakwater
