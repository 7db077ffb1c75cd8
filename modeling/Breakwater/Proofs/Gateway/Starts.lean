import Breakwater.Proofs.Gateway.Frozen
import Breakwater.Proofs.Gateway.Stories

/-! The work of a command is started once at most, and only after the command was admitted; the
record that is published for it tells whether that has happened, and where.
-/

namespace Breakwater

variable {α : Type}

namespace Gateway

open Account

variable {before after start : Gateway α} {step : Step α} {number : Nat}

-----------------------------------------------------------------------------------------
-- Steps that start the work of a command
-----------------------------------------------------------------------------------------

/-- What can start the work of a command after the given steps: its admission by the semaphore, or a
worker that finds it in the queue of the pool before its timeout fires.
-/
inductive Starting (start : Gateway α) (steps : List (Step α)) (number : Nat) : Step α → Prop
  | atOnce (isolation : start.dependency.config.isolation = .semaphore)
    (would : (start.run steps).WouldAdmit number) : Starting start steps number (.submit number)
  | onWorker {command} (isolation : start.dependency.config.isolation = .threadPool)
    (admitted : WasAdmitted start steps number)
    (found : (start.run steps).dependency.commands[number]? = some command)
    (queued : command.work = .queued) (created : command.lifecycle = .chainCreated)
    (inTime : command.timeout ≠ .timedOut) : Starting start steps number .pickUp

/-- A step of a run started the work of a command. -/
def StartedBy (start : Gateway α) (steps : List (Step α)) (number : Nat) (step : Step α) : Prop :=
  ∃ earlier later,
    steps = earlier ++ step :: later
      ∧ (start.run (earlier ++ [step])).dependency.starts number
        = (start.run earlier).dependency.starts number + 1

theorem StartedBy.snoc {steps : List (Step α)} (started : StartedBy start steps number step)
    (last : Step α) : StartedBy start (steps ++ [last]) number step := by
  obtain ⟨earlier, later, rfl, grown⟩ := started
  exact ⟨earlier, later ++ [last], by rw [List.append_assoc, List.cons_append], grown⟩

theorem isolation_run (built : start.JustBuilt) (steps : List (Step α))
    : (start.run steps).dependency.config.isolation = start.dependency.config.isolation :=
  congrArg (·.config.isolation) (settings_run (sound_of_justBuilt built).orderly steps)

/-- A move that starts the work of a command is one of the listed ways to do so. -/
theorem starting_of_move (built : start.JustBuilt) {steps : List (Step α)}
    {timer : Timer CommandRef} {pool : Option (WorkerPool Nat)} {command : Command α}
    {call : Call α}
    (found : (start.run steps).dependency.commands[number]? = some command)
    (move : Call.Move ((start.run steps).entered timer pool number command) step call)
    (draws : Draws (start.run steps).dependency.pool number step pool)
    (changed : call.command.record.occurred ≠ command.record.occurred)
    : Starting start steps number step
      ∧ command.record.occurred = false
      ∧ call.command.record.occurred := by
  have kempt := kempt_run (kempt_of_justBuilt built) steps
  have tidy := kempt.tidy.of_found found
  have pooled := kempt.accounted.pooled
  rw [isolation_run built] at pooled
  -- A record that changed tells of no start before, and of one after, since the command is early.
  have starts (early : command.lifecycle.isEarly)
      : command.record.occurred = false ∧ call.command.record.occurred := by
    have never := (tidy.early early).1
    rw [never, ne_eq, Bool.not_eq_false] at changed
    exact ⟨never, changed⟩
  rcases move.occurred with same | ⟨admits, noPool⟩ | ⟨rfl, queued, created, inTime⟩
  · exact absurd same changed
  · obtain rfl : step = .submit number := admits.asked
    obtain rfl : pool = (start.run steps).dependency.pool := by
      cases draws with
      | nothing other => rfl
    have idle : command.lifecycle = .notStarted := admits.notStarted
    refine ⟨.atOnce ?_ ⟨⟨command, found, idle⟩, admits.allowed, admits.place⟩, starts ?_⟩
    · have empty : (start.run steps).dependency.pool = none := noPool
      have nobody : (start.run steps).dependency.loans.crew = none :=
        congrArg (Option.map WorkerPool.crew) empty
      rw [nobody] at pooled
      cases isolation : start.dependency.config.isolation with
      | semaphore => rfl
      | threadPool =>
          rw [isolation] at pooled
          cases pooled
    · rw [idle]
      rfl
  · have waits : command.work = .queued := queued
    have early : command.lifecycle = .chainCreated := created
    refine ⟨.onWorker ?_ ?_ found waits early inTime, starts ?_⟩
    · rw [draws.isSome_of_pickUp rfl] at pooled
      exact beq_iff_eq.mp pooled.symm
    · exact wasAdmitted_of_isAdmitted built steps found (tidy.waits (.inr waits)).2.2
    · rw [early]
      rfl

/-- A step starts the work of a command in one of the listed ways, or not at all. -/
theorem starts_step (built : start.JustBuilt) (steps : List (Step α)) (step : Step α) (number : Nat)
    : (start.run (steps ++ [step])).dependency.starts number
          = (start.run steps).dependency.starts number
      ∨ (Starting start steps number step
        ∧ (start.run (steps ++ [step])).dependency.starts number
          = (start.run steps).dependency.starts number + 1) := by
  have kempt := kempt_run (kempt_of_justBuilt built) steps
  have passage := (change_step kempt.orderly step).passage kempt number
  rw [← run_snoc] at passage
  have told {after : Gateway α}
      (story : after.dependency.story number = (start.run steps).dependency.story number)
      : after.dependency.starts number = (start.run steps).dependency.starts number := by
    rw [Dependency.starts_eq, Dependency.starts_eq, story]
  cases passage with
  | kept same story => exact .inl (told story)
  | created absent new story => exact .inl (told story)
  | taken found new story => exact .inl (told story)
  | @moved timer pool command call found move new stored draws =>
      rw [(chronicled_run built _).starts new, (chronicled_run built _).starts found]
      by_cases same : call.command.record.occurred = command.record.occurred
      · exact .inl (congrArg Bool.toNat same)
      · obtain ⟨starting, never, occurred⟩ := starting_of_move built found move draws same
        refine .inr ⟨starting, ?_⟩
        rw [never, occurred]
        rfl

theorem starts_le_one (built : start.JustBuilt) (steps : List (Step α)) (number : Nat)
    : (start.run steps).dependency.starts number ≤ 1 := by
  have chronicled := chronicled_run built steps
  cases found : (start.run steps).dependency.commands[number]? with
  | none =>
      rw [Dependency.starts_eq, chronicled.silent number found]
      exact Nat.zero_le _
  | some command =>
      rw [chronicled.starts found]
      exact Bool.toNat_le _

/-- No start is forgotten, by induction on the steps since. -/
theorem starts_mono (built : start.JustBuilt) (steps later : List (Step α)) (number : Nat)
    : (start.run steps).dependency.starts number
      ≤ (start.run (steps ++ later)).dependency.starts number := by
  induction later using run_induction with
  | nil => exact Nat.le_of_eq (by rw [List.append_nil])
  | snoc later last ih =>
      rw [← List.append_assoc]
      rcases starts_step built (steps ++ later) last number with same | ⟨_, grown⟩
      · rw [same]
        exact ih
      · rw [grown]
        exact Nat.le_succ_of_le ih

/-- Work that was started was so by one of the steps. -/
theorem startedBy_of_starts (built : start.JustBuilt) (steps : List (Step α))
    (started : (start.run steps).dependency.starts number ≠ 0)
    : ∃ step, StartedBy start steps number step := by
  induction steps using run_induction with
  | nil =>
      have absent : start.dependency.commands[number]? = none := by
        rw [built.commands]
        rfl
      have silent := (chronicled_of_justBuilt built).silent number absent
      rw [run_nil, Dependency.starts_eq, silent] at started
      exact absurd rfl started
  | snoc steps last ih =>
      rcases starts_step built steps last number with same | ⟨_, grown⟩
      · obtain ⟨step, by_step⟩ := ih (same ▸ started)
        exact ⟨step, by_step.snoc last⟩
      · exact ⟨last, steps, [], rfl, grown⟩

theorem StartedBy.starting (built : start.JustBuilt) {steps : List (Step α)}
    (started : StartedBy start steps number step)
    : (∃ earlier, Starting start earlier number step)
      ∧ 0 < (start.run steps).dependency.starts number := by
  obtain ⟨earlier, later, rfl, grown⟩ := started
  constructor
  · rcases starts_step built earlier step number with same | ⟨starting, _⟩
    · omega
    · exact ⟨earlier, starting⟩
  · have kept := starts_mono built (earlier ++ [step]) later number
    rw [List.append_assoc, List.singleton_append] at kept
    omega

/-- The record of a command tells whether a worker started its work. -/
theorem onWorker_iff (built : start.JustBuilt) (steps : List (Step α)) {command : Command α}
    (found : (start.run steps).dependency.commands[number]? = some command)
    : command.record.onWorker ↔ StartedBy start steps number .pickUp := by
  have kempt := kempt_run (kempt_of_justBuilt built) steps
  have hired := (kempt.tidy.of_found found).hired
  have starts := (chronicled_run built steps).starts found
  have pooled : (start.run steps).isPooled ↔ start.dependency.config.isolation = .threadPool := by
    rw [isPooled, isolation_run built]
    exact beq_iff_eq
  rw [hired, Bool.and_eq_true, pooled]
  constructor
  · rintro ⟨occurred, isolation⟩
    have once : (start.run steps).dependency.starts number ≠ 0 := by
      rw [starts, occurred]
      decide
    obtain ⟨step, started⟩ := startedBy_of_starts built steps once
    obtain ⟨⟨earlier, starting⟩, _⟩ := started.starting built
    cases starting with
    | atOnce other would =>
        rw [isolation] at other
        cases other
    | onWorker _ admitted there queued created inTime => exact started
  · intro started
    obtain ⟨⟨earlier, starting⟩, positive⟩ := started.starting built
    cases starting with
    | onWorker isolation admitted there queued created inTime =>
        refine ⟨?_, isolation⟩
        cases occurred : command.record.occurred with
        | true => rfl
        | false =>
            rw [starts, occurred] at positive
            cases positive

-----------------------------------------------------------------------------------------
-- At most once, and only when admitted
-----------------------------------------------------------------------------------------

/-- What a run has made of the work of one command. -/
structure StartsOnce (start : Gateway α) (steps : List (Step α)) (number : Nat) : Prop where
  atMostOnce : (start.run steps).dependency.starts number ≤ 1
  onlyAdmitted
    : ∀ step,
        (start.run (steps ++ [step])).dependency.starts number
            = (start.run steps).dependency.starts number
          ∨ (Starting start steps number step
            ∧ (start.run (steps ++ [step])).dependency.starts number
              = (start.run steps).dependency.starts number + 1)
  /-- A command that the circuit or a bulkhead turned away is never started. -/
  turnedAway
    : ∀ command, (start.run steps).dependency.commands[number]? = some command
        → command.record.TurnedAway
        → ∀ later, (start.run (steps ++ later)).dependency.starts number = 0
  /-- A command that has timed out or was cancelled is not started any more. -/
  claimed
    : ∀ command, (start.run steps).dependency.commands[number]? = some command
        → command.timeout = .timedOut ∨ command.lifecycle = .unsubscribed
        → ∀ later,
            (start.run (steps ++ later)).dependency.starts number
              = (start.run steps).dependency.starts number
  resubmitted
    : ∀ command, (start.run steps).dependency.commands[number]? = some command
        → command.lifecycle ≠ .notStarted
        → (start.run steps).step (.submit number) = start.run steps
  /-- The published record tells whether the work was started before, and whether a worker did so.
  -/
  published
    : ∀ event, (number, event) ∈ (start.run steps).dependency.completions
        → ∃ noticed,
            (start.run steps).dependency.story number = noticed ++ [.finished number event]
              ∧ (event.record.occurred ↔ .workStarted number ∈ noticed)
              ∧ (event.record.onWorker ↔ StartedBy start steps number .pickUp)
  rejected
    : ∀ error, Awaited start steps number (.error error) → error.rootCause.isRejection
        → ∀ event, (number, event) ∈ (start.run steps).dependency.completions
            → event.record.occurred = false

/-- A completion is told in the story of its command. -/
theorem mem_story_of_completion {dependency : Dependency α} {event : CompletionEvent}
    (published : (number, event) ∈ dependency.completions)
    : .finished number event ∈ dependency.story number := by
  obtain ⟨notice, listed, completion⟩ := List.mem_filterMap.mp published
  obtain rfl : notice = .finished number event := by
    cases notice with
    | finished command other =>
        cases completion
        rfl
    | workStarted command => cases completion
    | fallbackStarted command cause => cases completion
    | circuit transition => cases completion
  exact List.mem_filter.mpr ⟨List.mem_filter.mpr ⟨listed, rfl⟩, beq_self_eq_true number⟩

/-- The story of a command that was published ends with that, and agrees with its record. -/
theorem story_of_published (built : start.JustBuilt) (steps : List (Step α))
    {event : CompletionEvent}
    (published : (number, event) ∈ (start.run steps).dependency.completions)
    : ∃ command noticed,
        (start.run steps).dependency.commands[number]? = some command
          ∧ (start.run steps).dependency.story number = noticed ++ [.finished number event]
          ∧ (event.record.occurred ↔ .workStarted number ∈ noticed)
          ∧ event.record.origin = command.record.origin := by
  have chronicled := chronicled_run built steps
  have listed := mem_story_of_completion published
  cases found : (start.run steps).dependency.commands[number]? with
  | none =>
      rw [chronicled.silent number found] at listed
      cases listed
  | some command =>
      obtain ⟨noticed, story, occurred, origin⟩ :=
        (chronicled.told number command found).of_finished listed
      exact ⟨command, noticed, rfl, story, occurred, origin⟩

theorem refusal_of_isRejection {error : CommandError} (rejection : error.isRejection) {tag : Tag}
    (tagged : error.tag? = some tag) : tag.isRefusal := by
  cases error with
  | shortCircuited key =>
      cases tagged
      rfl
  | isolationRejected key isolation =>
      cases isolation <;> cases tagged <;> rfl
  | _ => cases rejection

/-- A command whose waiter is told of a rejection carries the tag of that. -/
theorem turnedAway_of_rejection (built : start.JustBuilt) (steps : List (Step α))
    {error : CommandError} (awaited : Awaited start steps number (.error error))
    (rejection : error.rootCause.isRejection)
    : ∃ command,
        (start.run steps).dependency.commands[number]? = some command
          ∧ command.record.TurnedAway := by
  have paired := paired_run (sound_of_justBuilt built) (not_isOver_of_justBuilt built) steps
  obtain ⟨event, listed, ended⟩ := paired.awaited number _ awaited
  obtain ⟨step, _, tags, agreement⟩ := ended.agreement
  obtain ⟨_, tag, carried, tagged⟩ := agreement.matches_outcome.error error rfl
  have refusal := refusal_of_isRejection rejection tagged
  have contains : event.record.tags.contains tag := by
    rw [Tally.contains_iff, agreement.counts, if_pos carried]
    exact Nat.one_ne_zero
  obtain ⟨command, found, aftermath⟩ := aftermath_run built steps listed
  refine ⟨command, found, tag, refusal, ?_⟩
  cases aftermath with
  | frozen calm same => exact same ▸ contains
  | written split late finished record =>
      rw [record]
      exact (Tally.contains_add _ _ _).mpr (.inl contains)

/-- Whatever steps a dependency takes, in whatever order, the work of each command is started at
most once, and only after it was admitted; its record says so.
-/
theorem starts_once (built : start.JustBuilt) (steps : List (Step α)) (number : Nat)
    : StartsOnce start steps number := by
  have kempt := kempt_run (kempt_of_justBuilt built) steps
  constructor
  · exact starts_le_one built steps number
  · exact fun step => starts_step built steps step number
  · intro command found turned later
    obtain ⟨never, finished⟩ := (kempt.tidy.of_found found).turned turned
    rw [starts_of_spent built steps found (.inr (.inr finished)) later,
      (chronicled_run built steps).starts found, never]
    rfl
  · rintro command found claimed later
    refine starts_of_spent built steps found ?_ later
    rcases claimed with timedOut | left
    · exact .inl timedOut
    · exact .inr (.inl (by rw [left]; rfl))
  · intro command found submitted
    show ((start.run steps).submit number).2 = _
    simp only [submit, found, if_neg submitted]
  · intro event published
    obtain ⟨command, noticed, found, story, occurred, origin⟩ :=
      story_of_published built steps published
    refine ⟨noticed, story, occurred, ?_⟩
    rw [← onWorker_iff built steps found]
    rw [(ExecutionRecord.eq_of_origin origin).2.2]
  · intro error awaited rejection event published
    obtain ⟨command, found, turned⟩ := turnedAway_of_rejection built steps awaited rejection
    obtain ⟨same, _, there, _, _, origin⟩ := story_of_published built steps published
    obtain rfl := Option.some.inj (found.symm.trans there)
    obtain ⟨_, occurred, _⟩ := ExecutionRecord.eq_of_origin origin
    exact occurred.trans ((kempt.tidy.of_found found).turned turned).1

/-- Of two commands at a pool of one worker, the second is cancelled before it is picked up. -/
theorem starts_once_pooled
    : let start : Gateway Nat :=
        ofBuilder
          { key := "sample"
            config := {
              isolation := .threadPool
              pool := { coreSize := 1, maxQueueSize := 10 }
            } } rfl
      let steps : List (Step Nat) :=
        [.create false, .submit 0, .handOff 0, .pickUp, .create false, .submit 1, .handOff 1,
          .cancel 1, .submit 0, .workReturned 0 (.ok 7), .pickUp]
      start.JustBuilt ∧ StartsOnce start steps 0 ∧ StartsOnce start steps 1
        ∧ (start.run steps).dependency.starts 0 = 1
        ∧ (start.run steps).dependency.starts 1 = 0 := by
  intro start steps
  have built : start.JustBuilt := justBuilt_ofBuilder _ _
  exact ⟨built, starts_once built steps 0, starts_once built steps 1, by decide +kernel,
    by decide +kernel⟩

end Gateway

end Breakwater
