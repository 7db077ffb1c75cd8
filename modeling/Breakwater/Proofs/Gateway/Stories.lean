import Breakwater.Proofs.Gateway.Admissions

/-! The story of a command: its work is started at most once, after which the command ends once, and
its record tells which of that has happened.
-/

namespace Breakwater

variable {α : Type}

/-- How often the work of a command was started. -/
def Dependency.starts (dependency : Dependency α) (number : Nat) : Nat :=
  dependency.journal.count (.workStarted number)

theorem Dependency.starts_eq (dependency : Dependency α) (number : Nat)
    : dependency.starts number = (dependency.story number).count (.workStarted number) := by
  have concerns : (Notice.workStarted number).concerns number = true := beq_self_eq_true number
  rw [story, List.count_filter concerns, milestones, List.count_filter rfl, List.count_reverse]
  rfl

namespace Command

/-- The command was claimed by its timeout or has ended, or its work is over. -/
def IsSpent (command : Command α) : Prop :=
  command.timeout = .timedOut ∨ command.lifecycle.isOver ∨ command.work = .over

/-- The story that a command has come from. -/
inductive Told (command : Command α) (number : Nat) : List Notice → Prop
  | waiting (running : command.lifecycle.isOver = false)
    (never : command.record.occurred = false) : Told command number []
  | started (running : command.lifecycle.isOver = false) (occurred : command.record.occurred)
    : Told command number [.workStarted number]
  | skipped {event} (isOver : command.lifecycle.isOver) (never : command.record.occurred = false)
    (origin : event.record.origin = command.record.origin)
    : Told command number [.finished number event]
  | ended {event} (isOver : command.lifecycle.isOver) (occurred : command.record.occurred)
    (origin : event.record.origin = command.record.origin)
    : Told command number [.workStarted number, .finished number event]

variable {command new : Command α} {number : Nat} {story : List Notice}

/-- The story is the same for a command that has started and ended just so. -/
theorem Told.congr (told : command.Told number story)
    (isOver : new.lifecycle.isOver = command.lifecycle.isOver)
    (origin : new.record.origin = command.record.origin) : new.Told number story := by
  obtain ⟨_, occurred, _⟩ := ExecutionRecord.eq_of_origin origin
  cases told with
  | waiting running never => exact .waiting (isOver.trans running) (occurred.trans never)
  | started running has => exact .started (isOver.trans running) (occurred.trans has)
  | skipped finished never same =>
      exact .skipped (isOver.trans finished) (occurred.trans never) (same.trans origin.symm)
  | ended finished has same =>
      exact .ended (isOver.trans finished) (occurred.trans has) (same.trans origin.symm)

theorem Told.starts (told : command.Told number story)
    : story.count (.workStarted number) = command.record.occurred.toNat := by
  cases told with
  | waiting running never => rw [never]; rfl
  | started running occurred => rw [occurred]; simp
  | skipped isOver never origin => rw [never]; simp
  | ended isOver occurred origin => rw [occurred]; simp

/-- The story of a command that is early has not begun. -/
theorem Told.eq_nil (told : command.Told number story) (early : command.lifecycle.isEarly)
    (never : command.record.occurred = false) : story = [] := by
  have running (isOver : command.lifecycle.isOver) : False := by
    rw [(Lifecycle.ne_of_isOver isOver).2] at early
    cases early
  cases told with
  | waiting _ _ => rfl
  | started _ occurred => rw [never] at occurred; cases occurred
  | skipped isOver _ _ => exact (running isOver).elim
  | ended isOver _ _ => exact (running isOver).elim

/-- The end of a command is the end of its story. -/
theorem Told.of_finished (told : command.Told number story) {event : CompletionEvent}
    (published : .finished number event ∈ story)
    : ∃ noticed,
        story = noticed ++ [.finished number event]
          ∧ (event.record.occurred ↔ .workStarted number ∈ noticed)
          ∧ event.record.origin = command.record.origin := by
  cases told with
  | waiting _ _ => cases published
  | started _ _ => simp at published
  | @skipped other isOver never origin =>
      obtain rfl : event = other := by simpa using published
      refine ⟨[], rfl, ?_, origin⟩
      rw [(ExecutionRecord.eq_of_origin origin).2.1, never]
      simp
  | @ended other isOver occurred origin =>
      obtain rfl : event = other := by simpa using published
      refine ⟨[.workStarted number], rfl, ?_, origin⟩
      rw [(ExecutionRecord.eq_of_origin origin).2.1, occurred]
      simp

end Command

-----------------------------------------------------------------------------------------
-- Moves
-----------------------------------------------------------------------------------------

namespace Call

variable {before after : Call α} {step : Gateway.Step α} {pooled : Bool}

/-- The submission shows in no story. -/
theorem Keeps.isOver (keeps : Keeps before step after)
    : after.command.lifecycle.isOver = before.command.lifecycle.isOver :=
  keeps.asks Lifecycle.isOver rfl

/-- The notices of a step carry the story of its command on. -/
def Tells (before after : Call α) (story : List Notice) : Prop :=
  ∃ notices,
    after.dependency.milestones = before.dependency.milestones ++ notices
      ∧ after.command.Told before.number (story ++ notices)

theorem tells_nothing {story : List Notice}
    (diary : after.dependency.diary = before.dependency.diary)
    (told : after.command.Told before.number story) : Tells before after story := by
  refine ⟨[], (congrArg Diary.milestones diary).trans (List.append_nil _).symm, ?_⟩
  rwa [List.append_nil]

theorem tells_start {story : List Notice} (told : before.command.Told before.number story)
    (tidy : before.command.Tidy pooled) (early : before.command.lifecycle.isEarly)
    (diary : after.dependency.diary = before.dependency.diary.start before.number)
    {command : Command α} {now : Nat} {runner : Runner}
    (working : after.command = command.working now runner) : Tells before after story := by
  obtain rfl := told.eq_nil early (tidy.early early).1
  refine ⟨[.workStarted before.number], congrArg Diary.milestones diary, .started ?_ ?_⟩
  · rw [working]
    rfl
  · rw [working, Command.occurred_working]

/-- Every move carries the story of its command on. -/
theorem Move.tells (move : Move before step after) (tidy : before.command.Tidy pooled)
    {story : List Notice} (told : before.command.Told before.number story)
    : Tells before after story := by
  cases move with
  | rests keeps phase semaphore record =>
      exact tells_nothing keeps.diary (told.congr keeps.isOver keeps.origin)
  | parks admits pool command diary =>
      have early : before.command.lifecycle.isEarly := by rw [admits.notStarted]; rfl
      have never := (tidy.early early).1
      obtain rfl := told.eq_nil early never
      refine tells_nothing diary (.waiting ?_ ?_)
      · rw [command]
        rfl
      · rw [command]
        exact never
  | enters permit admits noPool command diary =>
      exact tells_start told tidy (by rw [admits.notStarted]; rfl) diary command
  | begins asked queued created inTime begins =>
      exact tells_start told tidy (by rw [created]; rfl) begins.diary begins.command
  | rescues running rescues =>
      exact tells_nothing rescues.diary (told.congr rescues.isOver rescues.origin)
  | ends running closes =>
      have occurred := closes.occurred
      refine ⟨[.finished before.number _], congrArg Diary.milestones closes.diary, ?_⟩
      cases told with
      | waiting _ never => exact .skipped closes.isOver (occurred.trans never) rfl
      | started _ has => exact .ended closes.isOver (occurred.trans has) rfl
      | skipped isOver _ _ => rw [running] at isOver; cases isOver
      | ended isOver _ _ => rw [running] at isOver; cases isOver
  | late asked isOver running keeps share record =>
      exact tells_nothing keeps.diary (told.congr keeps.isOver keeps.origin)

theorem Keeps.spent (keeps : Keeps before step after) (spent : before.command.IsSpent)
    : after.command.IsSpent := by
  rcases spent with timedOut | isOver | finished
  · refine .inl ?_
    rcases keeps.claim with unclaimed | same
    · rw [timedOut] at unclaimed
      cases unclaimed
    · exact same.trans timedOut
  · exact .inr (.inl (keeps.isOver.trans isOver))
  · refine .inr (.inr ?_)
    rcases keeps.work with same | finished | ⟨handed, _⟩
    · exact same.trans finished
    · exact finished
    · rw [finished] at handed
      cases handed

/-- A command that is admitted, or begins with its work, is not spent. -/
theorem Admits.not_spent (admits : Admits before step after) : ¬before.command.IsSpent := by
  rintro (timedOut | isOver | finished)
  · rw [admits.unclaimed] at timedOut
    cases timedOut
  · rw [admits.notStarted] at isOver
    cases isOver
  · rw [admits.ready] at finished
    cases finished

/-- The work of a spent command is not started any more. -/
theorem Move.spent (move : Move before step after) (spent : before.command.IsSpent)
    : after.command.IsSpent
      ∧ after.command.record.occurred = before.command.record.occurred := by
  cases move with
  | rests keeps phase semaphore record =>
      exact ⟨keeps.spent spent, keeps.occurred⟩
  | parks admits pool command diary => exact absurd spent admits.not_spent
  | enters permit admits noPool command diary => exact absurd spent admits.not_spent
  | begins asked queued created inTime begins =>
      rcases spent with timedOut | isOver | finished
      · exact absurd timedOut inTime
      · rw [created] at isOver
        cases isOver
      · rw [queued] at finished
        cases finished
  | rescues running rescues =>
      exact ⟨rescues.spent spent, rescues.occurred⟩
  | ends running closes => exact ⟨.inr (.inl closes.isOver), closes.occurred⟩
  | late asked isOver running keeps share record =>
      exact ⟨keeps.spent spent, keeps.occurred⟩

/-- The work of a command is started when it is admitted by a semaphore, or picked up in time. -/
theorem Move.occurred (move : Move before step after)
    : after.command.record.occurred = before.command.record.occurred
      ∨ (Admits before step after ∧ before.dependency.pool = none)
      ∨ (step = .pickUp ∧ before.command.work = .queued
        ∧ before.command.lifecycle = .chainCreated ∧ before.command.timeout ≠ .timedOut) := by
  cases move with
  | rests keeps phase semaphore record => exact .inl keeps.occurred
  | parks admits pool command diary => exact .inl (by rw [command]; rfl)
  | enters permit admits noPool command diary => exact .inr (.inl ⟨admits, noPool⟩)
  | begins asked queued created inTime begins => exact .inr (.inr ⟨asked, queued, created, inTime⟩)
  | rescues running rescues => exact .inl rescues.occurred
  | ends running closes => exact .inl closes.occurred
  | late asked isOver running keeps share record =>
      exact .inl keeps.occurred

end Call

-----------------------------------------------------------------------------------------
-- Runs
-----------------------------------------------------------------------------------------

namespace Gateway

variable {before after start : Gateway α} {step : Step α} {number : Nat}

/-- Every command has come from its story, and nothing is told of others. -/
structure Chronicled (gateway : Gateway α) : Prop where
  told
    : ∀ number (command : Command α), gateway.dependency.commands[number]? = some command
        → command.Told number (gateway.dependency.story number)
  silent
    : ∀ number, gateway.dependency.commands[number]? = none
        → gateway.dependency.story number = []

theorem Change.chronicled (change : Change before step after) (kempt : before.Kempt)
    (chronicled : before.Chronicled) : after.Chronicled := by
  have told (number : Nat) (new : Command α)
      (there : after.dependency.commands[number]? = some new)
      : new.Told number (after.dependency.story number) := by
    cases change.passage kempt number with
    | kept same story => exact story ▸ chronicled.told number new (same.symm.trans there)
    | @created hasFallback absent fresh story =>
        obtain rfl := Option.some.inj (there.symm.trans fresh)
        rw [story, chronicled.silent number absent]
        exact .waiting rfl rfl
    | taken found written story =>
        obtain rfl := Option.some.inj (there.symm.trans written)
        rw [story]
        exact (chronicled.told number _ found).congr rfl rfl
    | @moved timer pool command call found move written stored draws =>
        obtain rfl := Option.some.inj (there.symm.trans written)
        obtain ⟨notices, grown, told⟩ :=
          move.tells (kempt.tidy.of_found found) (chronicled.told number command found)
        obtain ⟨same, again, about⟩ := move.told
        obtain rfl : notices = same := List.append_cancel_left (grown.symm.trans again)
        have own : notices.filter (Notice.concerns number) = notices :=
          List.filter_eq_self.mpr about
        have story : after.dependency.story number = before.dependency.story number ++ notices := by
          have milestones : after.dependency.milestones = call.dependency.milestones := by
            rw [stored]
            rfl
          rw [Dependency.story, milestones, grown, List.filter_append, own]
          rfl
        rw [story]
        exact told
  refine ⟨told, fun number absent => ?_⟩
  cases change.passage kempt number with
  | kept same story => rw [story, chronicled.silent number (same.symm.trans absent)]
  | created _ fresh story => rw [absent] at fresh; cases fresh
  | taken found written story => rw [absent] at written; cases written
  | moved timer pool found move written stored draws => rw [absent] at written; cases written

theorem chronicled_of_justBuilt (built : start.JustBuilt) : start.Chronicled := by
  constructor
  · intro number command found
    rw [built.commands] at found
    cases found
  · obtain ⟨builder, assembled⟩ := built
    obtain ⟨_, _, same⟩ := DependencyBuilder.assemble_eq_ok assembled
    intro number _
    rw [same]
    rfl

theorem chronicled_run (built : start.JustBuilt) (steps : List (Step α))
    : (start.run steps).Chronicled := by
  induction steps using run_induction with
  | nil => exact chronicled_of_justBuilt built
  | snoc steps last ih =>
      have kempt := kempt_run (kempt_of_justBuilt built) steps
      rw [run_snoc]
      exact (change_step kempt.orderly last).chronicled kempt ih

/-- The record of a command tells how often its work was started. -/
theorem Chronicled.starts (chronicled : before.Chronicled) {command : Command α}
    (found : before.dependency.commands[number]? = some command)
    : before.dependency.starts number = command.record.occurred.toNat := by
  rw [Dependency.starts_eq]
  exact (chronicled.told number command found).starts

/-- The work of a spent command is not started, however long a run goes on. -/
theorem starts_of_spent (built : start.JustBuilt) (steps : List (Step α)) {command : Command α}
    (found : (start.run steps).dependency.commands[number]? = some command)
    (spent : command.IsSpent) (later : List (Step α))
    : (start.run (steps ++ later)).dependency.starts number
      = (start.run steps).dependency.starts number := by
  have kempt := kempt_run (kempt_of_justBuilt built)
  -- The command stays spent, and its record says the same of its start.
  have kept : ∃ new,
      (start.run (steps ++ later)).dependency.commands[number]? = some new
        ∧ new.IsSpent
        ∧ new.record.occurred = command.record.occurred := by
    induction later using run_induction with
    | nil => exact ⟨command, by rwa [List.append_nil], spent, rfl⟩
    | snoc later last ih =>
        obtain ⟨old, there, spent, same⟩ := ih
        rw [← List.append_assoc, run_snoc]
        have kempt := kempt (steps ++ later)
        have passage := (change_step kempt.orderly last).passage kempt number
        refine passage.onwards there ⟨spent, same⟩ ⟨spent, same⟩ fun timer pool call move => ?_
        obtain ⟨still, unchanged⟩ := move.spent spent
        exact ⟨still, unchanged.trans same⟩
  obtain ⟨new, there, _, same⟩ := kept
  rw [(chronicled_run built _).starts there, (chronicled_run built _).starts found, same]

end Gateway

end Breakwater
