import Breakwater.Proofs.Call.Turn

/-! Turns after the admission of a command: the ends of its work and of its fallback, the
timeout and the cancellation. Whichever comes first claims the command, and the later ones
find it claimed.
-/

namespace Breakwater.Call

variable {α : Type}

/-- The work ended in time: its result decides how the command goes on. -/
theorem settle_turn {before call : Call α} (runner : Runner) (latency : Nat)
    (result : Except WorkError α) (running : before.command.lifecycle.isOver = false)
    (pending : before.command.completion = .pending) (free : call.command.Claimed [])
    (unused : call.command.fallback.isUnused) (frame : call.frame = before.frame)
    (ledger : call.dependency.ledger = before.dependency.ledger)
    : Turn before (.workReturned before.number result) (call.settle runner latency result) := by
  have key : call.key = before.key := congrArg (·.2.2.key) frame
  cases result with
  | ok value =>
      have claimed : (call.mapRecord (·.addTimedTag latency .success)).command.Claimed
          [.success] := free.addTag _ (by simp)
      refine .ends running pending (.succeeded value) ?_
      refine (finish_claimed _ ?_).of_earlier ?_ ?_
      · exact claimed
      · rw [frame_markSuccess, frame_mapRecord, frame]
      · rw [dependency_mapDependency, Dependency.ledger_markSuccess, dependency_mapRecord, ledger]
  | error error =>
      simp only [settle]
      split
      · have claimed : (call.mapRecord fun record =>
            (record.addTimedTag latency .failure).setFailure error.message).command.Claimed
              [.failure] := free.addTag _ (ExecutionRecord.tags_addTimedTag _ _ _)
        simp only [failAsFailure]
        rw [key]
        refine failToFallback_turn runner (.failed error) running pending claimed (.failed _ _)
          unused ?_ ?_
        · rw [frame_markNonSuccess, frame_mapRecord, frame]
        · rw [dependency_mapDependency, Dependency.ledger_markNonSuccess, dependency_mapRecord,
            ledger]
      · have claimed : (call.mapRecord fun record =>
            (record.addTimedTag latency .badRequest).setFailure error.message).command.Claimed
              [.badRequest] := free.addTag _ (ExecutionRecord.tags_addTimedTag _ _ _)
        simp only [failAsBadRequest]
        rw [key]
        refine .ends running pending (.declined error) ?_
        refine (finish_claimed _ ?_).of_earlier ?_ ?_
        · exact claimed
        · rw [frame_markNonSuccess, frame_mapRecord, frame]
        · rw [dependency_mapDependency, Dependency.ledger_markNonSuccess, dependency_mapRecord,
            ledger]

/-- The turn of a command whose work returned. -/
theorem workReturned_turn {before : Call α} (result : Except WorkError α)
    (stage : before.command.Stage before.config.fallbackEnabled)
    : Turn before (.workReturned before.number result) (before.workReturned result) := by
  simp only [workReturned]
  split
  · rename_i since runner work
    -- A worker that is set free shows neither in the command nor in the ledger.
    have released (settled : Call α)
        (turn : Turn before (.workReturned before.number result) settled)
        : Turn before (.workReturned before.number result)
            (if runner = .worker ∧ !settled.isFallbackOnWorker then settled.releaseWorker
              else settled) := by
      split
      · exact turn.congr rfl rfl
      · exact turn
    refine released _ ?_
    cases stage with
    | idle idle => simp [idle.work] at work
    | undecided undecided =>
        have running := Lifecycle.isOver_of_isActive undecided.isActive
        have unclaimed : before.command.timeout = .notExecuted := undecided.timeout
        simp only [command_mapCommand, unclaimed, if_true]
        refine settle_turn runner _ result running undecided.completion ?_ ?_ ?_ ?_
        · rw [command_cancelTimer]
          exact ⟨undecided.isActive, undecided.tags, undecided.completion, .inr rfl, .inr rfl⟩
        · rw [command_cancelTimer]
          exact undecided.fallback
        · rw [frame_cancelTimer, frame_mapCommand, frame_mapCommand]
        · rw [dependency_cancelTimer]
          rfl
    | rescuing on rescuing =>
        have timedOut := rescuing.timedOut (by simp [work])
        have claimed : before.command.timeout ≠ .notExecuted := by simp [timedOut]
        simp only [command_mapCommand, claimed, if_false]
        exact .goesOn (.rescuing on { rescuing with workless := .inl timedOut }) (.inl rfl) rfl rfl
    | closed closed =>
        have claimed := closed.claimed (by simp [work])
        simp only [command_mapCommand, claimed, if_false]
        exact .goesOn (.closed { closed with workless := .inl claimed }) (.inl rfl) rfl rfl
  · exact .goesOn stage (.inl rfl) rfl rfl

/-- An outcome that comes too late is dropped. -/
theorem finish_turn_of_over {before call : Call α} {step : Gateway.Step α} (outcome : Outcome α)
    (closed : call.command.Over) (lifecycle : call.command.lifecycle = before.command.lifecycle)
    (completion : call.command.completion = before.command.completion)
    (ledger : call.dependency.ledger = before.dependency.ledger)
    : Turn before step (call.finish outcome) := by
  have dropped : call.finish outcome = call := by
    simp only [finish]
    rw [closed.not_isActive]
    rfl
  rw [dropped]
  exact .goesOn (.closed closed) (.inl lifecycle) completion ledger

/-- The turn of a command whose fallback returned. -/
theorem fallbackReturned_turn {before : Call α} (result : Except WorkError α)
    (stage : before.command.Stage before.config.fallbackEnabled)
    : Turn before (.fallbackReturned before.number result) (before.fallbackReturned result) := by
  simp only [fallbackReturned]
  split
  · rename_i cause runner phase
    -- What is given back after the end shows neither in the command nor in the ledger.
    have released (finished : Call α)
        (turn : Turn before (.fallbackReturned before.number result) finished)
        : Turn before (.fallbackReturned before.number result)
            (let released := finished.mapDependency fun dependency =>
                { dependency with
                  fallbackSemaphore := dependency.fallbackSemaphore.giveBack }
              if runner = .worker then released.releaseWorker else released) := by
      dsimp only
      split
      · exact turn.congr rfl rfl
      · exact turn.congr rfl rfl
    refine released _ ?_
    cases stage with
    | idle idle =>
        have unused := idle.fallback
        simp [phase, FallbackPhase.isUnused] at unused
    | undecided undecided =>
        have unused := undecided.fallback
        simp [phase, FallbackPhase.isUnused] at unused
    | rescuing on rescuing =>
        rename_i source tag
        have running := Lifecycle.isOver_of_isActive rescuing.lifecycle
        obtain ⟨_, same⟩ := rescuing.running
        obtain ⟨rfl, _⟩ : cause = source ∧ _ := by simpa [phase] using same
        have claimed (more : Tag)
            : ({ before.command with
                  fallback := .over, record := before.command.record.addTag more }
                : Command α).Claimed [tag, more] :=
          { rescuing.toClaimed.addTag more rfl with }
        cases result with
        | ok value =>
            refine .ends running rescuing.completion (.rescued rescuing.primary on value) ?_
            exact (finish_claimed _ (claimed .fallbackSuccess)).of_earlier rfl rfl
        | error error =>
            refine .ends running rescuing.completion (.unrescued rescuing.primary on error) ?_
            exact (finish_claimed _ (claimed .fallbackFailure)).of_earlier rfl rfl
    | closed closed =>
        have late (record : ExecutionRecord)
            : ({ before.command with fallback := .over, record } : Command α).Over :=
          { closed with }
        cases result with
        | ok value => exact finish_turn_of_over _ (late _) rfl rfl rfl
        | error error => exact finish_turn_of_over _ (late _) rfl rfl rfl
  · exact .goesOn stage (.inl rfl) rfl rfl

/-- The turn of a command whose timeout fired while it was armed. -/
theorem timedOut_turn {before : Call α} (stage : before.command.Stage before.config.fallbackEnabled)
    (armed : before.command.timer ≠ none)
    : Turn before (.timeoutFired before.number) before.timedOut := by
  simp only [timedOut]
  split
  · rename_i unclaimed
    have undecided := stage.undecided_of_armed armed unclaimed
    have running := Lifecycle.isOver_of_isActive undecided.isActive
    have free : ({ before.command with timeout := .timedOut } : Command α).Claimed [] :=
      ⟨undecided.isActive, undecided.tags, undecided.completion, .inl (by simp), .inl rfl⟩
    refine failToFallback_turn .timer .timedOut running undecided.completion ?_
      (.timeout _ _) undecided.fallback ?_ ?_
    · exact free.addTag _ (ExecutionRecord.tags_addTimedTag _ _ _)
    · rw [frame_markNonSuccess, frame_mapRecord, frame_mapCommand]
    · rw [dependency_mapDependency, Dependency.ledger_markNonSuccess]
      rfl
  · exact .goesOn stage (.inl rfl) rfl rfl

/-- A command that is given up ends with what it carries and the tag of the cancellation. -/
theorem abandon_ended {call : Call α} (tags : List Tag)
    (pending : call.command.completion = .pending)
    (tagged : call.command.record.tags = .ofTags tags)
    : call.Ended call.abandon (tags ++ [.cancelled]) (.error (.cancelled call.key)) := by
  -- The call as it is when everything is given back.
  let left := ((call.mapCommand fun command => { command with
      lifecycle := .unsubscribed
      timeout := if command.timeout = .notExecuted then .completed else command.timeout }).mapRecord
        (·.addTag .cancelled)).mapDependency Dependency.markNonSuccess
  have claimed : left.command.timeout ≠ .notExecuted := by
    show (if call.command.timeout = .notExecuted then TimeoutStatus.completed
      else call.command.timeout) ≠ .notExecuted
    split
    · simp
    · assumption
  have waits : left.command.completion = .pending := pending
  have tagsLeft : left.command.record.tags = .ofTags (tags ++ [.cancelled]) := by
    show call.command.record.tags.add .cancelled = _
    simp [tagged, Tally.ofTags]
  have ended : left.Ended call.abandon (tags ++ [.cancelled]) (.error (.cancelled call.key)) := by
    have given : call.abandon = (left.cleanup .unsubscribed).mapCommand (fun command =>
        { command with
          completion := command.completion.complete (.error (.cancelled call.key)) }) := rfl
    rw [given]
    constructor
    · refine ⟨?_, ?_, ?_, .inl ?_⟩
      · rw [command_mapCommand, command_cleanup]
        rfl
      · simp [waits, Command.cleaned, Completion.complete]
      · rw [command_mapCommand, command_cleanup]
        rfl
      · rw [command_mapCommand, command_cleanup]
        exact claimed
    · rw [command_mapCommand, command_cleanup]
      simp [Command.cleaned, tagsLeft]
    · simp [waits, Command.cleaned, Completion.complete]
    · rw [command_mapCommand, command_cleanup]
      rfl
    · rw [command_mapCommand, command_cleanup]
      rfl
    · rw [dependency_mapCommand, dependency_cleanup, ledger_closedDependency, command_mapCommand,
        command_cleanup]
      rfl
  refine ended.of_earlier ?_ ?_
  · rw [frame_markNonSuccess, frame_mapRecord, frame_mapCommand]
  · rw [dependency_mapDependency, Dependency.ledger_markNonSuccess]
    rfl

/-- The turn of a command that its caller cancels. -/
theorem abandon_turn {before : Call α} (stage : before.command.Stage before.config.fallbackEnabled)
    (active : before.command.lifecycle.isActive)
    : Turn before (.cancel before.number) before.abandon := by
  have running := Lifecycle.isOver_of_isActive active
  cases stage with
  | idle idle => simp [idle.lifecycle, Lifecycle.isActive] at active
  | undecided undecided =>
      exact .ends running undecided.completion .cancelled
        (abandon_ended [] undecided.completion undecided.tags)
  | rescuing on rescuing =>
      exact .ends running rescuing.completion (.cancelledLate rescuing.primary)
        (abandon_ended _ rescuing.completion rescuing.tags)
  | closed closed => simp [closed.not_isActive] at active

end Breakwater.Call
