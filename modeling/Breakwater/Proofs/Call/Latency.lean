import Breakwater.Proofs.Call.Tidy

/-! The times in the record of a command. The start is stamped by one path, the time that the work
took by others and from different moments on, and the caller's time at the end. All of them are
taken from the one clock after the submission, which is what they have in common.
-/

namespace Breakwater

variable {α : Type}

-----------------------------------------------------------------------------------------
-- Records
-----------------------------------------------------------------------------------------

/-- Tags that come with the time that the work took. -/
def Tag.isTimed : Tag → Bool
  | .success | .failure | .badRequest | .timeout => true
  | _ => false

/-- Tags of a command that was turned away before its start was stamped. -/
def Tag.isUnstarted : Tag → Bool
  | .shortCircuited | .semaphoreRejected => true
  | _ => false

namespace ExecutionRecord

/-- The times of a record lie between the submission of its command and the present. -/
structure Clocked (record : ExecutionRecord) (submitted now : Nat) : Prop where
  started : ∀ moment, record.startedAt = some moment → submitted ≤ moment ∧ moment ≤ now
  measured
    : ∀ latency, record.executionLatency = some latency
        → record.startedAt.isSome ∧ submitted + latency ≤ now
  timed
    : ∀ tag : Tag, tag.isTimed → record.tags.contains tag → record.executionLatency.isSome
  unstarted : ∀ tag : Tag, tag.isUnstarted → record.tags.contains tag → record.startedAt = none

variable {record after : ExecutionRecord} {submitted now latency : Nat} {tag : Tag}

/-- A record that nothing was written into is clocked at any time. -/
theorem clocked_empty (submitted now : Nat) : empty.Clocked submitted now where
  started := nofun
  measured := nofun
  timed tag _ carried := by
    replace carried : Tally.empty.contains tag := carried
    rw [Tally.contains_empty] at carried
    cases carried
  unstarted _ _ _ := rfl

/-- A record that is clocked stays so as time goes by, since it only says that things lie in the
past.
-/
theorem Clocked.later (clocked : record.Clocked submitted now) {next : Nat} (onward : now ≤ next)
    : record.Clocked submitted next where
  started moment stamped :=
    (clocked.started moment stamped).imp_right fun past => Nat.le_trans past onward
  measured latency taken :=
    (clocked.measured latency taken).imp_right fun past => Nat.le_trans past onward
  timed := clocked.timed
  unstarted := clocked.unstarted

/-- The texts of a record and what it tells of its caller have no part in this. -/
theorem Clocked.congr (clocked : record.Clocked submitted now)
    (startedAt : after.startedAt = record.startedAt)
    (executionLatency : after.executionLatency = record.executionLatency)
    (tags : after.tags = record.tags) : after.Clocked submitted now where
  started := startedAt ▸ clocked.started
  measured := by
    rw [startedAt, executionLatency]
    exact clocked.measured
  timed := by
    rw [executionLatency, tags]
    exact clocked.timed
  unstarted := by
    rw [startedAt, tags]
    exact clocked.unstarted

/-- A tag that carries no time keeps a record clocked, if it may stand where the execution has begun
or that has not begun.
-/
theorem Clocked.addTag (clocked : record.Clocked submitted now) (untimed : tag.isTimed = false)
    (early : tag.isUnstarted = false ∨ record.startedAt = none)
    : (record.addTag tag).Clocked submitted now where
  started := clocked.started
  measured := clocked.measured
  timed other timed carried := by
    rcases (Tally.contains_add _ _ _).mp carried with before | rfl
    · exact clocked.timed other timed before
    · rw [untimed] at timed
      cases timed
  unstarted other unstarted carried := by
    rcases (Tally.contains_add _ _ _).mp carried with before | rfl
    · exact clocked.unstarted other unstarted before
    · exact early.resolve_left (by simp [unstarted])

/-- A timed tag of an execution that has begun is the tag and the latency. -/
theorem addTimedTag_eq (latency : Nat) (tag : Tag) (began : record.startedAt.isSome)
    : record.addTimedTag latency tag = (record.addTag tag).setExecutionLatency latency :=
  if_pos began

/-- A timed tag keeps a record clocked if the execution has begun, and as long ago as the tag says.
-/
theorem Clocked.addTimedTag (clocked : record.Clocked submitted now)
    (began : record.startedAt.isSome) (past : submitted + latency ≤ now)
    (started : tag.isUnstarted = false)
    : (record.addTimedTag latency tag).Clocked submitted now := by
  rw [addTimedTag_eq _ _ began]
  constructor
  case started => exact clocked.started
  case measured =>
    rintro _ ⟨⟩
    exact ⟨began, past⟩
  case timed => exact fun _ _ _ => rfl
  case unstarted =>
    intro other unstarted carried
    rcases (Tally.contains_add _ _ _).mp carried with before | rfl
    · exact clocked.unstarted other unstarted before
    · rw [started] at unstarted
      cases unstarted

/-- The start is stamped before anything is recorded. -/
theorem Clocked.markStarted (clocked : record.Clocked submitted now)
    (untagged : record.tags = .empty) (reached : submitted ≤ now)
    : (record.markStarted now).Clocked submitted now where
  started := by
    rintro _ ⟨⟩
    exact ⟨reached, Nat.le_refl _⟩
  measured latency taken := ⟨rfl, (clocked.measured latency taken).2⟩
  timed := clocked.timed
  unstarted other _ carried := by
    replace carried : record.tags.contains other := carried
    rw [untagged, Tally.contains_empty] at carried
    cases carried

/-- The first return of a command that was started stamps the record with the caller's latency. -/
theorem markReturned_eq (record : ExecutionRecord) (latency : Nat)
    (untold : record.callerLatency = none)
    : record.markReturned latency
      = { record with callerLatency := record.startedAt.map fun _ => latency } := by
  rw [markReturned]
  cases record with
  | mk tags startedAt =>
      obtain rfl : _ = none := untold
      cases startedAt with
      | none => rfl
      | some moment => rfl

end ExecutionRecord

/-- What the times of a published record say, given when its command was submitted. -/
structure CompletionEvent.Latencies (event : CompletionEvent) (submitted : Nat) : Prop where
  told : event.record.callerLatency.isSome ↔ event.record.startedAt.isSome
  measured : event.record.executionLatency.isSome → event.record.startedAt.isSome
  /-- A short circuit and a refusal of the semaphore come without any of them. -/
  unstarted
    : ∀ tag : Tag, tag.isUnstarted → event.record.tags.contains tag
        → event.record.startedAt = none ∧ event.record.executionLatency = none
          ∧ event.record.callerLatency = none
  /-- A success, a failure, a bad request and a timeout come with all of them. -/
  timed
    : ∀ tag : Tag, tag.isTimed → event.record.tags.contains tag
        → event.record.startedAt.isSome ∧ event.record.executionLatency.isSome
          ∧ event.record.callerLatency.isSome
  within
    : ∀ execution caller, event.record.executionLatency = some execution
        → event.record.callerLatency = some caller → execution ≤ caller
  started : ∀ moment, event.record.startedAt = some moment → moment ≤ event.completedAt
  /-- The time that the caller waited goes back to the submission. -/
  waited
    : ∀ moment caller, event.record.startedAt = some moment
        → event.record.callerLatency = some caller
        → caller ≤ event.completedAt ∧ event.completedAt - caller = submitted
          ∧ submitted ≤ moment

-----------------------------------------------------------------------------------------
-- Commands
-----------------------------------------------------------------------------------------

namespace Command

/-- A command that was submitted and has not ended; the clock has not gone back since. -/
structure Underway (command : Command α) (now : Nat) : Prop where
  active : command.lifecycle.isActive
  reached : command.invokedAt ≤ now
  record : command.record.Clocked command.invokedAt now
  untold : command.record.callerLatency = none
  since
    : ∀ since runner, command.work = .running since runner → command.invokedAt ≤ since

/-- A command that ends at this moment. -/
structure Returned (command : Command α) (now : Nat) : Prop where
  isOver : command.lifecycle.isOver
  reached : command.invokedAt ≤ now
  record : command.record.Clocked command.invokedAt now
  told
    : command.record.callerLatency
      = command.record.startedAt.map fun _ => now - command.invokedAt

/-- A command goes on or ends, and was submitted when it was. -/
def Proceeds (command : Command α) (submitted now : Nat) : Prop :=
  command.invokedAt = submitted ∧ (command.Underway now ∨ command.Returned now)

variable {command : Command α} {now : Nat}

/-- A command on its way stays so as time goes by. -/
theorem Underway.later (underway : command.Underway now) {next : Nat} (onward : now ≤ next)
    : command.Underway next :=
  { underway with
    reached := Nat.le_trans underway.reached onward
    record := underway.record.later onward }

/-- Something more is recorded of a command. -/
theorem Underway.setRecord (underway : command.Underway now) {record : ExecutionRecord}
    (clocked : record.Clocked command.invokedAt now)
    (untold : record.callerLatency = command.record.callerLatency)
    : ({ command with record } : Command α).Underway now :=
  { underway with record := clocked, untold := untold.trans underway.untold }

/-- A command on its way stays so while its work is handed over, waits or is dropped. -/
theorem Underway.setWork (underway : command.Underway now) {work : WorkPhase}
    (rests : work = .handingOff ∨ work = .queued ∨ work = .over)
    : ({ command with work } : Command α).Underway now := by
  have idle : ∀ since runner, work = .running since runner → command.invokedAt ≤ since := by
    rintro since runner rfl
    rcases rests with running | running | running <;> cases running
  exact { underway with since := idle }

/-- A command on its way stays so when its work is over. -/
theorem Underway.workDone (underway : command.Underway now)
    : ({ command with work := .over } : Command α).Underway now :=
  underway.setWork (.inr (.inr rfl))

/-- The record of a command that ends is stamped with the time since its submission. -/
theorem Underway.cleaned (underway : command.Underway now) (lifecycle : Lifecycle)
    (isOver : lifecycle.isOver) (threadState : ThreadState) (completion : Completion α)
    : ({ command.cleaned threadState (now - command.invokedAt) with lifecycle, completion }
        : Command α).Returned now := by
  have stamped := command.record.markReturned_eq (now - command.invokedAt) underway.untold
  refine ⟨isOver, underway.reached, ?_, ?_⟩
  · show (command.record.markReturned _).Clocked _ _
    rw [stamped]
    exact underway.record.congr rfl rfl rfl
  · show (command.record.markReturned _).callerLatency
      = (command.record.markReturned _).startedAt.map _
    rw [stamped]
    rfl

/-- A command on its way stays so when its work is started, with the present as the start. -/
theorem Underway.working (underway : command.Underway now) (runner : Runner)
    : (command.working now runner).Underway now := by
  have record : (command.working now runner).record.Clocked command.invokedAt now := by
    simp only [Command.working]
    split
    · exact underway.record.congr rfl rfl rfl
    · exact underway.record.congr rfl rfl rfl
  have untold : (command.working now runner).record.callerLatency = none := by
    simp only [Command.working]
    split
    · exact underway.untold
    · exact underway.untold
  refine ⟨rfl, underway.reached, record, untold, ?_⟩
  rintro _ _ ⟨⟩
  exact underway.reached

/-- The completion that a command publishes on its return carries the times that its record shows
then.
-/
theorem Returned.latencies (returned : command.Returned now) (key : String)
    : CompletionEvent.Latencies ⟨key, now, command.record⟩ command.invokedAt := by
  obtain ⟨_, reached, record, told⟩ := returned
  have waited {caller : Nat} (taken : command.record.callerLatency = some caller)
      : caller = now - command.invokedAt := by
    rw [told] at taken
    obtain ⟨_, _, same⟩ := Option.map_eq_some_iff.mp taken
    exact same.symm
  have both : command.record.callerLatency.isSome ↔ command.record.startedAt.isSome := by
    rw [told, Option.isSome_map]
  have measured : command.record.executionLatency.isSome → command.record.startedAt.isSome := by
    intro taken
    obtain ⟨latency, same⟩ := Option.isSome_iff_exists.mp taken
    exact (record.measured latency same).1
  constructor
  case told => exact both
  case measured => exact measured
  case unstarted =>
    intro tag unstarted carried
    have never := record.unstarted tag unstarted carried
    have unbegun : ¬command.record.startedAt.isSome := by simp [never]
    exact ⟨never, by simpa using mt measured unbegun, by simpa using mt both.mp unbegun⟩
  case timed =>
    intro tag timed carried
    have taken := record.timed tag timed carried
    exact ⟨measured taken, taken, both.mpr (measured taken)⟩
  case within =>
    intro execution caller taken known
    have ended := (record.measured execution taken).2
    have since := waited known
    omega
  case started => exact fun moment stamped => (record.started moment stamped).2
  case waited =>
    intro moment caller stamped known
    have after := (record.started moment stamped).1
    obtain rfl := waited known
    exact ⟨Nat.sub_le _ _, Nat.sub_sub_self reached, after⟩

/-- The start of a command that nobody has claimed was stamped. -/
theorem Undecided.isSome_startedAt {pooled : Bool} (undecided : command.Undecided)
    (tidy : command.Tidy pooled) : command.record.startedAt.isSome := by
  rcases undecided.place with ⟨_, waits⟩ | ⟨executed, _⟩
  · exact (tidy.waits waits).2.2
  · exact tidy.admitted (tidy.executed executed)

end Command

namespace Call

variable {before after call : Call α} {step : Gateway.Step α}

-----------------------------------------------------------------------------------------
-- The end
-----------------------------------------------------------------------------------------

/-- An end stamps the record and publishes it at the same moment. -/
theorem finish_proceeds (underway : call.command.Underway call.now) (outcome : Outcome α)
    : (call.finish outcome).command.Proceeds call.command.invokedAt call.now := by
  rw [command_finish, if_pos underway.active]
  exact ⟨rfl, .inr (underway.cleaned .terminal rfl .terminal _)⟩

/-- A command on its way stays so when its record is told of something without a time. -/
theorem underway_tagged (underway : call.command.Underway call.now) (tag : Tag)
    (untimed : tag.isTimed = false)
    (early : tag.isUnstarted = false ∨ call.command.record.startedAt = none)
    : (call.mapRecord (·.addTag tag)).command.Underway call.now :=
  underway.setRecord (underway.record.addTag untimed early) rfl

/-- A command that fails ends, or is on its way with its fallback, which carries no time. -/
theorem failToFallback_proceeds (underway : call.command.Underway call.now) (runner : Runner)
    (cause : CommandError)
    : (call.failToFallback runner cause).command.Proceeds call.command.invokedAt call.now := by
  have failed : (call.mapRecord (·.setCause cause.message)).command.Underway call.now :=
    underway.setRecord (underway.record.congr rfl rfl rfl) rfl
  rw [failToFallback]
  dsimp only
  split
  · exact finish_proceeds failed _
  · split
    · split
      · exact ⟨rfl, .inl { failed with }⟩
      · have rejected : ((call.mapRecord (·.setCause cause.message)).mapCommand
            ({ · with fallback := .over })).command.Underway call.now := { failed with }
        exact finish_proceeds (underway_tagged rejected .fallbackRejection rfl (.inl rfl)) _
    · exact finish_proceeds (underway_tagged failed .fallbackMissing rfl (.inl rfl)) _

/-- A command that is turned away fails with a tag of its own before its work has begun. -/
theorem reject_proceeds (underway : call.command.Underway call.now) (runner : Runner)
    (isolation : Isolation)
    (early : isolation = .threadPool ∨ call.command.record.startedAt = none)
    : (call.reject runner isolation).command.Proceeds call.command.invokedAt call.now := by
  have tagged : (call.mapRecord (·.addTag isolation.rejectionTag)).command.Underway call.now := by
    rcases early with rfl | unstamped
    · exact underway_tagged underway .threadPoolRejected rfl (.inl rfl)
    · exact underway_tagged underway _ (by cases isolation <;> rfl) (.inr unstamped)
  have told : ((call.mapRecord (·.addTag isolation.rejectionTag)).mapDependency
      Dependency.markNonSuccess).command.Underway call.now := tagged
  exact failToFallback_proceeds told runner _

-----------------------------------------------------------------------------------------
-- Submission
-----------------------------------------------------------------------------------------

/-- A command is on its way from the moment that the circuit is asked about it. -/
theorem underway_asked (idle : call.command.record = .empty)
    : call.asked.command.Underway call.now where
  active := rfl
  reached := Nat.le_refl _
  record := by
    show call.command.record.Clocked _ _
    rw [idle]
    exact ExecutionRecord.clocked_empty _ _
  untold := congrArg (·.callerLatency) idle
  since := nofun

/-- Arming the timeout stamps the start of the execution, and changes nothing else of the times. -/
theorem underway_begun (underway : call.command.Underway call.now)
    (untagged : call.command.record.tags = .empty)
    : call.beginInvocation.command.Underway call.now := by
  rw [command_begun]
  have started := underway.setRecord
    (underway.record.markStarted untagged underway.reached) rfl
  exact { started with }

/-- A submission takes the present as the moment of the call, by cases on who admits the command. -/
theorem submit_proceeds (idle : before.command.record = .empty)
    (unclaimed : before.command.timeout = .notExecuted)
    : before.submit.command.Proceeds before.now before.now := by
  have underway := underway_asked idle
  have unstamped : before.asked.command.record.startedAt = none := congrArg (·.startedAt) idle
  have untagged : before.asked.command.record.tags = .empty := congrArg (·.tags) idle
  have submitted := before.submit_cases
  generalize before.submit = after at submitted ⊢
  cases submitted with
  | turnedAway denied =>
      have told : (before.asked.mapRecord (·.addTag .shortCircuited)).command.Underway
          before.now := underway_tagged underway _ rfl (.inr unstamped)
      exact failToFallback_proceeds told _ _
  | atSemaphore allowed noPool =>
      cases acquired : before.asked.dependency.semaphore.tryAcquire with
      | none =>
          simp only [admitBySemaphore, acquired]
          exact reject_proceeds underway _ _ (.inr unstamped)
      | some taken =>
          obtain ⟨permit, left⟩ := taken
          have inTime : before.asked.command.timeout ≠ .timedOut := by
            show before.command.timeout ≠ .timedOut
            rw [unclaimed]
            decide
          have begins := admitBySemaphore_begins acquired rfl inTime
          -- Between the submission and the start of the work the clock stands still.
          have held : (before.asked.holding permit left).command.Underway before.now :=
            { underway with }
          have now : (before.asked.holding permit left).beginInvocation.now = before.now :=
            congrArg (·.2.1) ((before.asked.holding permit left).frame_beginInvocation.trans
              before.frame_asked)
          have invoked
              : (before.asked.holding permit left).beginInvocation.command.invokedAt
                = before.now := by
            rw [command_begun]
            rfl
          rw [begins.command, now]
          exact ⟨invoked, .inl ((underway_begun held untagged).working .caller)⟩
  | atPool pool allowed held =>
      simp only [admitByPool]
      split
      · refine ⟨?_, .inl ((underway_begun underway untagged).setWork (.inl rfl))⟩
        rw [command_mapCommand, command_begun]
        rfl
      · exact reject_proceeds underway _ _ (.inl rfl)

-----------------------------------------------------------------------------------------
-- The pool
-----------------------------------------------------------------------------------------

/-- Disarming the timeout keeps a command on its way. -/
theorem underway_disarmed (underway : call.command.Underway call.now)
    : call.cancelTimer.command.Underway call.cancelTimer.now := by
  rw [command_cancelTimer, now_cancelTimer]
  exact { underway with }

/-- Disarming the timeout keeps the moment of the submission. -/
theorem invokedAt_cancelTimer (call : Call α)
    : call.cancelTimer.command.invokedAt = call.command.invokedAt := by
  rw [command_cancelTimer]

/-- A hand-over keeps a command on its way, or ends it at this moment if the pool refuses it. -/
theorem handOff_proceeds (underway : before.command.Underway before.now)
    : before.handOff.command.Proceeds before.command.invokedAt before.now := by
  have handed := before.handOff_cases
  generalize before.handOff = after at handed ⊢
  cases handed with
  | skipped => exact ⟨rfl, .inl underway⟩
  | taken pool held work => exact ⟨rfl, .inl (underway.setWork (.inr (.inl rfl)))⟩
  | refused pool held work unclaimed =>
      have claimed
          : ((before.setPool pool.turnAway).mapCommand
              ({ · with work := .over, timeout := .completed })).command.Underway before.now :=
        { underway.workDone with }
      have rejected := reject_proceeds (underway_disarmed claimed) .caller .threadPool (.inl rfl)
      rwa [invokedAt_cancelTimer, now_cancelTimer] at rejected
  | dropped pool held work claimed => exact ⟨rfl, .inl (underway.workDone)⟩

/-- A worker that picks a command up keeps it on its way, started or left to its timeout. -/
theorem pickUp_proceeds (underway : before.command.Underway before.now)
    (uncounted : before.command.gaugeHeld = false)
    : (before.startWork .worker).command.Proceeds before.command.invokedAt before.now := by
  by_cases starts : before.command.lifecycle = .chainCreated ∧ before.command.timeout ≠ .timedOut
  · rw [(before.startWork_begins .worker starts.1 starts.2).command]
    exact ⟨rfl, .inl (underway.working .worker)⟩
  · rw [before.startWork_late starts uncounted]
    exact ⟨rfl, .inl (underway.workDone)⟩

-----------------------------------------------------------------------------------------
-- The end of the work, and after
-----------------------------------------------------------------------------------------

/-- A command on its way stays so when its record is told of something that took as long as the
execution.
-/
theorem underway_timed (underway : call.command.Underway call.now) {latency : Nat}
    (began : call.command.record.startedAt.isSome)
    (past : call.command.invokedAt + latency ≤ call.now) (tag : Tag)
    (started : tag.isUnstarted = false)
    : (call.mapRecord (·.addTimedTag latency tag)).command.Underway call.now := by
  have untold : (call.command.record.addTimedTag latency tag).callerLatency
      = call.command.record.callerLatency := by
    rw [ExecutionRecord.addTimedTag_eq _ _ began]
    rfl
  exact underway.setRecord (underway.record.addTimedTag began past started) untold

/-- The text of an error is written into the record after the time that the work took. -/
theorem underway_failed (underway : call.command.Underway call.now) {latency : Nat}
    (began : call.command.record.startedAt.isSome)
    (past : call.command.invokedAt + latency ≤ call.now) (tag : Tag)
    (started : tag.isUnstarted = false) (text : String)
    : ((call.mapRecord fun record =>
        (record.addTimedTag latency tag).setFailure text).mapDependency
          Dependency.markNonSuccess).command.Underway call.now := by
  have timed := underway_timed underway began past tag started
  exact timed.setRecord (timed.record.congr rfl rfl rfl) rfl

/-- Work that ends in time ends its command or turns it to its fallback, with the time that it took.
-/
theorem settle_proceeds (underway : call.command.Underway call.now) {latency : Nat}
    (began : call.command.record.startedAt.isSome)
    (past : call.command.invokedAt + latency ≤ call.now) (runner : Runner)
    (result : Except WorkError α)
    : (call.settle runner latency result).command.Proceeds call.command.invokedAt call.now := by
  cases result with
  | ok value =>
      have worked
          : ((call.mapRecord (·.addTimedTag latency .success)).mapDependency
              (·.markSuccess call.now)).command.Underway call.now :=
        underway_timed underway began past .success rfl
      exact finish_proceeds worked _
  | error error =>
      simp only [settle]
      split
      · exact failToFallback_proceeds
          (underway_failed underway began past .failure rfl error.message) runner _
      · exact finish_proceeds
          (underway_failed underway began past .badRequest rfl error.message) _

/-- The return of the work ends the command at this moment, or hands it on to its fallback. -/
theorem workReturned_proceeds (underway : before.command.Underway before.now)
    (began
      : before.command.work ≠ .ready → before.command.work ≠ .over
          → before.command.timeout = .notExecuted → before.command.record.startedAt.isSome)
    (result : Except WorkError α)
    : (before.workReturned result).command.Proceeds before.command.invokedAt before.now := by
  cases work : before.command.work with
  | running since runner =>
      by_cases unclaimed : before.command.timeout = .notExecuted
      · have claimed
            : ((before.mapCommand ({ · with work := .over })).mapCommand
                ({ · with timeout := .completed })).command.Underway before.now :=
          { underway.workDone with }
        have started := began (by simp [work]) (by simp [work]) unclaimed
        -- The work is timed from its own start, which is no earlier than the submission.
        have past : before.command.invokedAt + (before.now - since) ≤ before.now := by
          have submitted := underway.since since runner work
          have reached := underway.reached
          omega
        have settled
            : ((((before.mapCommand ({ · with work := .over })).mapCommand
                ({ · with timeout := .completed })).cancelTimer.settle runner (before.now - since)
                  result)).command.Proceeds before.command.invokedAt before.now := by
          have disarmed := settle_proceeds (underway_disarmed claimed)
            (by rw [command_cancelTimer]; exact started)
            (by rw [invokedAt_cancelTimer, now_cancelTimer]; exact past) runner result
          rwa [invokedAt_cancelTimer, now_cancelTimer] at disarmed
        simp only [workReturned, work, command_mapCommand, unclaimed, if_true]
        split <;> exact settled
      · rw [before.workReturned_late work unclaimed]
        split <;> exact ⟨rfl, .inl (underway.workDone)⟩
  | _ =>
      simp only [workReturned, work]
      exact ⟨rfl, .inl underway⟩

/-- The return of a fallback ends the command at this moment, unless it was over before. -/
theorem fallbackReturned_proceeds (underway : before.command.Underway before.now)
    (result : Except WorkError α)
    : (before.fallbackReturned result).command.Proceeds before.command.invokedAt before.now := by
  cases phase : before.command.fallback with
  | running cause runner =>
      obtain ⟨outcome, returned⟩ := fallbackReturned_eq phase result
      have rescued : (before.mapCommand ({ · with fallback := .over })).command.Underway
          before.now := { underway with }
      have untimed : (Tag.ofRescue result).isTimed = false := by cases result <;> rfl
      have late : (Tag.ofRescue result).isUnstarted = false := by cases result <;> rfl
      have tagged := underway_tagged rescued (.ofRescue result) untimed (.inl late)
      have finished := finish_proceeds tagged outcome
      rw [returned]
      dsimp only
      split <;> exact finished
  | _ =>
      simp only [fallbackReturned, phase]
      exact ⟨rfl, .inl underway⟩

/-- A timeout ends the command at this moment, hands it on to its fallback or comes too late. -/
theorem timedOut_proceeds (underway : before.command.Underway before.now)
    (began
      : before.command.timeout = .notExecuted → before.command.record.startedAt.isSome)
    : before.timedOut.command.Proceeds before.command.invokedAt before.now := by
  simp only [timedOut]
  split
  · rename_i unclaimed
    have claimed : (before.mapCommand ({ · with timeout := .timedOut })).command.Underway
        before.now := { underway with }
    have past : before.command.invokedAt + before.sinceInvoked ≤ before.now :=
      Nat.le_of_eq (Nat.add_sub_of_le underway.reached)
    have timed
        : (((before.mapCommand ({ · with timeout := .timedOut })).mapRecord
            (·.addTimedTag before.sinceInvoked .timeout)).mapDependency
              Dependency.markNonSuccess).command.Underway before.now :=
      underway_timed claimed (began unclaimed) past .timeout rfl
    exact failToFallback_proceeds timed .timer _
  · exact ⟨rfl, .inl underway⟩

/-- A cancellation ends the command at this moment. -/
theorem abandon_proceeds (underway : before.command.Underway before.now)
    : before.abandon.command.Proceeds before.command.invokedAt before.now := by
  have tagged := underway_tagged underway .cancelled rfl (.inl rfl)
  have claimed
      : ({ (before.mapRecord (·.addTag .cancelled)).command with
            timeout :=
              if before.command.timeout = .notExecuted then .completed
              else before.command.timeout } : Command α).Underway before.now := { tagged with }
  rw [abandon, command_mapCommand, command_cleanup]
  exact ⟨rfl, .inr (claimed.cleaned .unsubscribed rfl .unsubscribed _)⟩

/-- A command that is underway goes on or ends, and all its times are taken from the clock since it
was submitted.
-/
theorem Op.proceeds {pooled : Bool} (op : Op before step after)
    (stage : before.command.Stage before.config.fallbackEnabled)
    (tidy : before.command.Tidy pooled) (underway : before.command.Underway before.now)
    : after.command.Proceeds before.command.invokedAt before.now := by
  cases op with
  | submit notStarted =>
      have active := underway.active
      rw [notStarted] at active
      cases active
  | handOff => exact handOff_proceeds underway
  | pickUp queued => exact pickUp_proceeds underway (tidy.uncounted queued)
  | workReturned result =>
      refine workReturned_proceeds underway (fun begun busy unclaimed => ?_) result
      exact (stage.undecided_of_unclaimed begun busy unclaimed).isSome_startedAt tidy
  | fallbackReturned result => exact fallbackReturned_proceeds underway result
  | timeoutFired armed =>
      refine timedOut_proceeds underway fun unclaimed => ?_
      exact (stage.undecided_of_armed armed unclaimed).isSome_startedAt tidy
  | cancel active returned => exact abandon_proceeds underway

end Call

end Breakwater
