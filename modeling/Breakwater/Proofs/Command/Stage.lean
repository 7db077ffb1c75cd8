import Breakwater.Proofs.Gateway.Step

/-! Where a command can stand between two steps, and how a step can end it. -/

namespace Breakwater

variable {α : Type}

-----------------------------------------------------------------------------------------
-- Errors that call for a fallback
-----------------------------------------------------------------------------------------

/-- An error that calls for the fallback, with the tag that is recorded for it. -/
inductive CommandError.Primary : CommandError → Tag → Prop
  | shortCircuited (key : String) : Primary (.shortCircuited key) .shortCircuited
  | rejected (key : String) (isolation : Isolation)
    : Primary (.isolationRejected key isolation) isolation.rejectionTag
  | timeout (key : String) (limit : Nat) : Primary (.timeout key limit) .timeout
  | failed (key : String) (source : WorkError) : Primary (.executionFailed key source) .failure

/-- Which steps turn a command to its fallback, with which error. -/
inductive Prompts (key : String) (config : CommandConfig) (number : Nat)
    : Gateway.Step α → CommandError → Prop
  | circuitOpen : Prompts key config number (.submit number) (.shortCircuited key)
  | bulkheadFull (isolation : Isolation)
    : Prompts key config number (.submit number) (.isolationRejected key isolation)
  | poolRefused
    : Prompts key config number (.handOff number) (.isolationRejected key .threadPool)
  | failed (error : WorkError)
    : Prompts key config number (.workReturned number (.error error))
        (.executionFailed key error)
  | timedOut
    : Prompts key config number (.timeoutFired number)
        (.timeout key config.executionTimeout)

/-- How a command ends for which no fallback is started, by tags and outcome. -/
inductive Unaided (key : String) (fallbacks : Bool) (cause : CommandError) (tag : Tag)
    : List Tag → Outcome α → Prop
  | disabled (off : fallbacks = false) : Unaided key fallbacks cause tag [tag] (.error cause)
  | missing (on : fallbacks = true)
    : Unaided key fallbacks cause tag [tag, .fallbackMissing] (.error cause)
  | refused (on : fallbacks = true)
    : Unaided key fallbacks cause tag [tag, .fallbackRejection]
        (.error (.fallbackRejected key cause))

/-- The ways in which a step can end a command: the tags of the record that is published, and
the outcome that is stored.
-/
inductive Ending (key : String) (config : CommandConfig) (number : Nat)
    : Gateway.Step α → List Tag → Outcome α → Prop
  | succeeded (value : α)
    : Ending key config number (.workReturned number (.ok value)) [.success] (.ok value)
  | declined (error : WorkError)
    : Ending key config number (.workReturned number (.error error)) [.badRequest]
        (.error (.badRequest key error))
  | unaided {step cause tag tags outcome} (prompted : Prompts key config number step cause)
    (primary : cause.Primary tag)
    (ends : Unaided key config.fallbackEnabled cause tag tags outcome)
    : Ending key config number step tags outcome
  | rescued {cause tag} (primary : CommandError.Primary cause tag)
    (on : config.fallbackEnabled = true) (value : α)
    : Ending key config number (.fallbackReturned number (.ok value))
        [tag, .fallbackSuccess] (.ok value)
  | unrescued {cause tag} (primary : CommandError.Primary cause tag)
    (on : config.fallbackEnabled = true) (error : WorkError)
    : Ending key config number (.fallbackReturned number (.error error))
        [tag, .fallbackFailure] (.error (.fallbackFailed key cause error))
  | cancelled
    : Ending key config number (.cancel number) [.cancelled] (.error (.cancelled key))
  | cancelledLate {cause tag} (primary : CommandError.Primary cause tag)
    : Ending key config number (.cancel number) [tag, .cancelled] (.error (.cancelled key))

-----------------------------------------------------------------------------------------
-- Stages
-----------------------------------------------------------------------------------------

/-- Whether a command has left its way for good. -/
def Lifecycle.isOver : Lifecycle → Bool
  | terminal | unsubscribed => true
  | _ => false

theorem Lifecycle.isOver_of_isActive {lifecycle : Lifecycle} (active : lifecycle.isActive)
    : lifecycle.isOver = false := by
  cases lifecycle with
  | notStarted | unsubscribed | terminal => cases active
  | chainCreated | userCodeExecuted => rfl

/-- Whether a fallback was neither started nor given up. -/
def FallbackPhase.isUnused : FallbackPhase → Bool
  | absent | ready => true
  | _ => false

namespace Command

/-- The command was not submitted. -/
structure Idle (command : Command α) : Prop where
  lifecycle : command.lifecycle = .notStarted
  timeout : command.timeout = .notExecuted
  tags : command.record.tags = .empty
  work : command.work = .ready
  fallback : command.fallback.isUnused
  timer : command.timer = none
  completion : command.completion = .pending

/-- The command was just submitted, and is not on its way yet. -/
structure Entering (command : Command α) : Prop where
  lifecycle : command.lifecycle = .chainCreated
  timeout : command.timeout = .notExecuted
  tags : command.record.tags = .empty
  fallback : command.fallback.isUnused
  completion : command.completion = .pending

/-- Nobody has claimed the command: its work waits for a worker or is running. -/
structure Undecided (command : Command α) : Prop where
  timeout : command.timeout = .notExecuted
  tags : command.record.tags = .empty
  fallback : command.fallback.isUnused
  completion : command.completion = .pending
  place
    : (command.lifecycle = .chainCreated
        ∧ (command.work = .handingOff ∨ command.work = .queued))
      ∨ (command.lifecycle = .userCodeExecuted
          ∧ ∃ since runner, command.work = .running since runner)

/-- The command was claimed, and carries the given tags so far; what its work still does is no
longer looked at.
-/
structure Claimed (command : Command α) (tags : List Tag) : Prop where
  lifecycle : command.lifecycle.isActive
  tags : command.record.tags = .ofTags tags
  completion : command.completion = .pending
  disarmed : command.timeout ≠ .notExecuted ∨ command.timer = none
  workless : command.timeout = .timedOut ∨ command.work = .over

/-- The fallback of a claimed command is running. -/
structure Rescuing (command : Command α) (cause : CommandError) (tag : Tag) : Prop
    extends command.Claimed [tag] where
  primary : cause.Primary tag
  running : ∃ runner, command.fallback = .running cause runner

/-- The command has ended and its outcome was stored. -/
structure Over (command : Command α) : Prop where
  lifecycle : command.lifecycle.isOver
  completion : command.completion ≠ .pending
  timer : command.timer = none
  workless : command.timeout ≠ .notExecuted ∨ command.work = .over

/-- Every command is at one of these stages between two steps. -/
inductive Stage (fallbacks : Bool) (command : Command α) : Prop
  | idle (at_stage : command.Idle)
  | undecided (at_stage : command.Undecided)
  | rescuing {cause tag} (on : fallbacks = true) (at_stage : command.Rescuing cause tag)
  | closed (at_stage : command.Over)

theorem idle_create (hasFallback : Bool) : (create hasFallback : Command α).Idle := by
  constructor <;> cases hasFallback <;> rfl

theorem Idle.entering {command : Command α} (idle : command.Idle) (now : Nat)
    : ({ command with lifecycle := .chainCreated, invokedAt := now, work := .over }
        : Command α).Entering :=
  ⟨rfl, idle.timeout, idle.tags, idle.fallback, idle.completion⟩

theorem Undecided.entering {command : Command α} (undecided : command.Undecided)
    (created : command.lifecycle = .chainCreated) : command.Entering :=
  ⟨created, undecided.timeout, undecided.tags, undecided.fallback, undecided.completion⟩

theorem Undecided.isActive {command : Command α} (h : command.Undecided)
    : command.lifecycle.isActive := by
  rcases h.place with ⟨lifecycle, _⟩ | ⟨lifecycle, _⟩ <;> rw [lifecycle] <;> rfl

/-- A command that is not started stands at the first stage. -/
theorem Stage.isIdle {fallbacks : Bool} {command : Command α} (stage : command.Stage fallbacks)
    (notStarted : command.lifecycle = .notStarted) : command.Idle := by
  cases stage with
  | idle idle => exact idle
  | undecided undecided =>
      have active := undecided.isActive
      simp [notStarted, Lifecycle.isActive] at active
  | rescuing on rescuing =>
      have active := rescuing.lifecycle
      simp [notStarted, Lifecycle.isActive] at active
  | closed closed =>
      have isOver := closed.lifecycle
      simp [notStarted, Lifecycle.isOver] at isOver

/-- A command that is over stands at the last stage. -/
theorem Stage.isClosed {fallbacks : Bool} {command : Command α} (stage : command.Stage fallbacks)
    (isOver : command.lifecycle.isOver) : command.Over := by
  cases stage with
  | idle idle =>
      rw [idle.lifecycle] at isOver
      cases isOver
  | undecided undecided =>
      rw [Lifecycle.isOver_of_isActive undecided.isActive] at isOver
      cases isOver
  | rescuing on rescuing =>
      rw [Lifecycle.isOver_of_isActive rescuing.lifecycle] at isOver
      cases isOver
  | closed closed => exact closed

theorem Stage.isOver_of_written {fallbacks : Bool} {command : Command α}
    (stage : command.Stage fallbacks) (written : command.completion ≠ .pending)
    : command.Over := by
  cases stage with
  | idle idle => exact absurd idle.completion written
  | undecided undecided => exact absurd undecided.completion written
  | rescuing on rescuing => exact absurd rescuing.completion written
  | closed closed => exact closed

/-- A claimed command whose record gains a tag. -/
theorem Claimed.addTag {command : Command α} {tags : List Tag} {record : ExecutionRecord}
    (h : command.Claimed tags) (tag : Tag) (added : record.tags = command.record.tags.add tag)
    : ({ command with record } : Command α).Claimed (tags ++ [tag]) where
  lifecycle := h.lifecycle
  tags := by simp [added, h.tags, Tally.ofTags]
  completion := h.completion
  disarmed := h.disarmed
  workless := h.workless

/-- Work that a claimed command left behind is only that of a timed-out one. -/
theorem Claimed.timedOut {command : Command α} {tags : List Tag} (h : command.Claimed tags)
    (busy : command.work ≠ .over) : command.timeout = .timedOut :=
  h.workless.resolve_right busy

theorem Over.claimed {command : Command α} (h : command.Over) (busy : command.work ≠ .over)
    : command.timeout ≠ .notExecuted :=
  h.workless.resolve_right busy

/-- Work that is on its way and that nobody has claimed is that of an undecided command. -/
theorem Stage.undecided_of_unclaimed {fallbacks : Bool} {command : Command α}
    (stage : command.Stage fallbacks) (begun : command.work ≠ .ready) (busy : command.work ≠ .over)
    (unclaimed : command.timeout = .notExecuted) : command.Undecided := by
  cases stage with
  | idle idle => exact absurd idle.work begun
  | undecided undecided => exact undecided
  | rescuing on rescuing => exact absurd (rescuing.timedOut busy) (by simp [unclaimed])
  | closed closed => exact absurd unclaimed (closed.claimed busy)

/-- A timeout is armed until its command is claimed, so it finds the command undecided. -/
theorem Stage.undecided_of_armed {fallbacks : Bool} {command : Command α}
    (stage : command.Stage fallbacks) (armed : command.timer ≠ none)
    (unclaimed : command.timeout = .notExecuted) : command.Undecided := by
  cases stage with
  | idle idle => exact absurd idle.timer armed
  | undecided undecided => exact undecided
  | rescuing on rescuing => exact absurd unclaimed (rescuing.disarmed.resolve_right armed)
  | closed closed => exact absurd closed.timer armed

/-- A command that is over has left the active part of its way. -/
theorem Over.not_isActive {command : Command α} (h : command.Over)
    : command.lifecycle.isActive = false := by
  have closed := h.lifecycle
  cases lifecycle : command.lifecycle <;> simp_all [Lifecycle.isOver, Lifecycle.isActive]

end Command

end Breakwater
