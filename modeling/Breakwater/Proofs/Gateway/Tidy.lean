import Breakwater.Proofs.Call.Tidy
import Breakwater.Proofs.Gateway.Bulkhead

/-! The commands of a dependency are tidy between any two steps; with that every step makes one of
the listed moves of one command, and leaves the others and their stories alone.
-/

namespace Breakwater

variable {α : Type}

/-- Whether a milestone is one of the given command. -/
def Notice.concerns (number : Nat) : Notice → Bool
  | .workStarted command | .finished command _ => command == number
  | _ => false

/-- How far a command has come, the earliest notice first. -/
def Dependency.story (dependency : Dependency α) (number : Nat) : List Notice :=
  dependency.milestones.filter (Notice.concerns number)

/-- A move tells at most of the command that is moved. -/
theorem Call.Move.told {before after : Call α} {step : Gateway.Step α}
    (move : Call.Move before step after)
    : ∃ notices,
        after.dependency.milestones = before.dependency.milestones ++ notices
          ∧ ∀ notice ∈ notices, notice.concerns before.number := by
  have silent (same : after.dependency.diary = before.dependency.diary)
      : ∃ notices,
          after.dependency.milestones = before.dependency.milestones ++ notices
            ∧ ∀ notice ∈ notices, notice.concerns before.number :=
    ⟨[], (congrArg Diary.milestones same).trans (List.append_nil _).symm, nofun⟩
  have own (notice : Notice) (about : notice.concerns before.number)
      : ∀ other ∈ [notice], other.concerns before.number := by
    intro other member
    rwa [List.mem_singleton.mp member]
  cases move with
  | rests keeps phase semaphore record => exact silent keeps.diary
  | parks admits pool command diary => exact silent diary
  | enters permit admits noPool command diary =>
      exact ⟨[.workStarted before.number], congrArg Diary.milestones diary,
        own _ (beq_self_eq_true before.number)⟩
  | begins asked queued created inTime begins =>
      exact ⟨[.workStarted before.number], congrArg Diary.milestones begins.diary,
        own _ (beq_self_eq_true before.number)⟩
  | rescues running rescues => exact silent rescues.diary
  | ends running closes =>
      exact ⟨[.finished before.number _], congrArg Diary.milestones closes.diary,
        own _ (beq_self_eq_true before.number)⟩
  | late asked isOver running keeps share record => exact silent keeps.diary

namespace Gateway

variable {before after start : Gateway α} {step : Step α}

/-- Whether the commands run their work on a pool. -/
def isPooled (gateway : Gateway α) : Bool := gateway.dependency.config.isolation == .threadPool

def Tidy (gateway : Gateway α) : Prop :=
  ∀ command ∈ gateway.dependency.commands, command.Tidy gateway.isPooled

theorem Tidy.of_found {gateway : Gateway α} (tidy : gateway.Tidy) {number : Nat}
    {command : Command α} (found : gateway.dependency.commands[number]? = some command)
    : command.Tidy gateway.isPooled :=
  tidy command (List.mem_of_getElem? found)

/-- What is kept of a dependency from one step to the next. -/
structure Kempt (gateway : Gateway α) : Prop where
  orderly : gateway.dependency.account.Orderly
  accounted : gateway.Accounted
  tidy : gateway.Tidy

theorem Change.isPooled (change : Change before step after) : after.isPooled = before.isPooled :=
  congrArg (fun settings : Settings => settings.config.isolation == .threadPool) change.settings

/-- A call to a command of a tidy dependency makes one of the listed moves. -/
theorem Kempt.move (kempt : before.Kempt) {timer : Timer CommandRef}
    {pool : Option (WorkerPool Nat)} {number : Nat} {command : Command α} {call : Call α}
    (found : before.dependency.commands[number]? = some command)
    (op : Call.Op (before.entered timer pool number command) step call)
    : Call.Move (before.entered timer pool number command) step call :=
  op.move (kempt.orderly.stage found) (kempt.tidy.of_found found).uncounted

theorem Kempt.tidy_call (kempt : before.Kempt) {timer : Timer CommandRef}
    {pool : Option (WorkerPool Nat)} {number : Nat} {command : Command α} {call : Call α}
    (found : before.dependency.commands[number]? = some command)
    (op : Call.Op (before.entered timer pool number command) step call)
    (draws : Draws before.dependency.pool number step pool)
    : call.command.Tidy before.isPooled := by
  have pooled : before.dependency.loans.crew.isSome = before.isPooled := kempt.accounted.pooled
  refine (kempt.move found op).tidy (kempt.tidy.of_found found) ?_ fun asked => ?_
  · exact draws.isSome.trans (Option.isSome_map.symm.trans pooled)
  · exact pooled.symm.trans (draws.isSome_of_pickUp asked)

theorem Change.tidy (change : Change before step after) (kempt : before.Kempt) : after.Tidy := by
  unfold Tidy
  rw [change.isPooled]
  cases change with
  | moved dependency clock =>
      rw [dependency]
      exact kempt.tidy
  | quiet account clock lends =>
      rw [show after.dependency.commands = before.dependency.commands from
        congrArg Account.commands account]
      exact kempt.tidy
  | pumped asked clock account metrics loans =>
      rw [show after.dependency.commands = before.dependency.commands from
        congrArg Account.commands account]
      exact kempt.tidy
  | @created hasFallback asked clock account =>
      rw [show after.dependency.commands = before.dependency.commands ++ [.create hasFallback] from
        congrArg Account.commands account]
      intro command member
      rcases List.mem_append.mp member with member | new
      · exact kempt.tidy command member
      · obtain rfl : command = .create hasFallback := by simpa using new
        exact Command.tidy_create _ hasFallback
  | @taken number command outcome asked found ready clock account =>
      rw [show after.dependency.commands
          = before.dependency.commands.set number { command with completion := .consumed } from
        congrArg Account.commands account]
      intro other member
      rcases List.mem_or_eq_of_mem_set member with member | rfl
      · exact kempt.tidy other member
      · exact { kempt.tidy.of_found found with }
  | @turned timer pool number command call found suffix op turn queues fixed stored draws fires =>
      have commands : after.dependency.commands
          = before.dependency.commands.set number call.command :=
        stored ▸ Call.commands_store fixed
      rw [commands]
      intro other member
      rcases List.mem_or_eq_of_mem_set member with member | rfl
      · exact kempt.tidy other member
      · exact kempt.tidy_call found op draws

theorem kempt_step (kempt : before.Kempt) (step : Step α) : (before.step step).Kempt := by
  have change := change_step kempt.orderly step
  exact ⟨change.orderly kempt.orderly, change.accounted kempt.orderly kempt.accounted,
    change.tidy kempt⟩

theorem kempt_of_justBuilt (built : start.JustBuilt) : start.Kempt := by
  refine ⟨(sound_of_justBuilt built).orderly, accounted_of_justBuilt built, ?_⟩
  intro command member
  rw [built.commands] at member
  cases member

theorem kempt_run (kempt : start.Kempt) (steps : List (Step α)) : (start.run steps).Kempt :=
  run_keeps Kempt (fun _ step kempt => kempt_step kempt step) kempt steps

-----------------------------------------------------------------------------------------
-- One command
-----------------------------------------------------------------------------------------

/-- What a step makes of one command and of its story: it leaves both alone, creates the command,
hands out its outcome, or makes a move of it.
-/
inductive Passage (before : Gateway α) (step : Step α) (number : Nat) (after : Gateway α) : Prop
  | kept (same : after.dependency.commands[number]? = before.dependency.commands[number]?)
    (story : after.dependency.story number = before.dependency.story number)
  | created {hasFallback} (absent : before.dependency.commands[number]? = none)
    (new : after.dependency.commands[number]? = some (.create hasFallback))
    (story : after.dependency.story number = before.dependency.story number)
  | taken {command} (found : before.dependency.commands[number]? = some command)
    (new : after.dependency.commands[number]? = some { command with completion := .consumed })
    (story : after.dependency.story number = before.dependency.story number)
  | moved (timer : Timer CommandRef) (pool : Option (WorkerPool Nat)) {command call}
    (found : before.dependency.commands[number]? = some command)
    (move : Call.Move (before.entered timer pool number command) step call)
    (new : after.dependency.commands[number]? = some call.command) (stored : after = call.store)
    (draws : Draws before.dependency.pool number step pool)

/-- What holds of a command that is there goes on to hold, if its moves keep it. -/
theorem Passage.onwards {number : Nat} (passage : Passage before step number after)
    {command : Command α} (found : before.dependency.commands[number]? = some command)
    {holds : Command α → Prop} (now : holds command)
    (taken : holds { command with completion := .consumed })
    (moved
      : ∀ timer pool call,
          Call.Move (before.entered timer pool number command) step call → holds call.command)
    : ∃ new, after.dependency.commands[number]? = some new ∧ holds new := by
  cases passage with
  | kept same story => exact ⟨command, same.trans found, now⟩
  | created absent new story =>
      rw [found] at absent
      cases absent
  | taken there new story =>
      obtain rfl := Option.some.inj (found.symm.trans there)
      exact ⟨_, new, taken⟩
  | moved timer pool there move new stored draws =>
      obtain rfl := Option.some.inj (found.symm.trans there)
      exact ⟨_, new, moved timer pool _ move⟩

theorem concerns_other {notice : Notice} {number other : Nat} (about : notice.concerns number)
    (different : other ≠ number) : notice.concerns other = false := by
  cases notice with
  | workStarted command | finished command event =>
      obtain rfl : command = number := beq_iff_eq.mp about
      exact beq_eq_false_iff_ne.mpr different.symm
  | fallbackStarted command cause => cases about
  | circuit transition => cases about

theorem Change.passage (change : Change before step after) (kempt : before.Kempt) (number : Nat)
    : Passage before step number after := by
  have told (aside : Aside before step after)
      : after.dependency.story number = before.dependency.story number :=
    congrArg (fun diary => diary.milestones.filter (Notice.concerns number)) aside.diary
  cases change with
  | moved dependency clock aside => exact .kept (by rw [dependency]) (told aside)
  | quiet account clock lends aside =>
      exact .kept (congrArg (·[number]?) (congrArg Account.commands account)) (told aside)
  | pumped asked clock account metrics loans aside =>
      exact .kept (congrArg (·[number]?) (congrArg Account.commands account)) (told aside)
  | @created hasFallback asked clock account loans aside =>
      have grown : after.dependency.commands
          = before.dependency.commands ++ [.create hasFallback] :=
        congrArg Account.commands account
      rcases getElem?_snoc_cases before.dependency.commands (.create hasFallback) number with
        same | ⟨absent, new⟩
      · exact .kept (grown ▸ same) (told aside)
      · exact .created absent (grown ▸ new) (told aside)
  | @taken other command outcome asked found ready clock account loans aside =>
      have written : after.dependency.commands
          = before.dependency.commands.set other { command with completion := .consumed } :=
        congrArg Account.commands account
      by_cases own : number = other
      · subst own
        exact .taken found (by rw [written, getElem?_set_of_found found, if_pos rfl]) (told aside)
      · exact .kept (by rw [written, getElem?_set_of_found found, if_neg own]) (told aside)
  | @turned timer pool other command call found suffix op turn queues fixed stored draws fires =>
      have move := kempt.move found op
      have written : after.dependency.commands
          = before.dependency.commands.set other call.command :=
        stored ▸ Call.commands_store fixed
      by_cases own : number = other
      · subst own
        exact .moved timer pool found move
          (by rw [written, getElem?_set_of_found found, if_pos rfl]) stored draws
      · refine .kept (by rw [written, getElem?_set_of_found found, if_neg own]) ?_
        obtain ⟨notices, grown, about⟩ := move.told
        have silent : notices.filter (Notice.concerns number) = [] := by
          refine List.filter_eq_nil_iff.mpr fun notice member => ?_
          exact Bool.eq_false_iff.mp (concerns_other (about notice member) own)
        have milestones : after.dependency.milestones = call.dependency.milestones := by
          rw [stored]
          rfl
        rw [Dependency.story, milestones, grown, List.filter_append, silent, List.append_nil]
        rfl

end Gateway

end Breakwater
