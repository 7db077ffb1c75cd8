import Breakwater.Proofs.Call.Dispatch
import Breakwater.Proofs.Gateway.Agreement
import Breakwater.Proofs.Gateway.Resources

/-! When the fallbacks of a dependency are started, and how many of them run at a time. A fallback
is started once at most: when its command fails in a way that calls for it, with that error, if
there is room for it then.
-/

namespace Breakwater

variable {α : Type}

-----------------------------------------------------------------------------------------
-- Places
-----------------------------------------------------------------------------------------

/-- A semaphore of so many places. -/
structure Semaphore.Within (semaphore : Semaphore) (places : Nat) : Prop where
  limit : semaphore.limit = places
  acquired : semaphore.acquired ≤ places

section

variable {semaphore left : Semaphore} {places : Nat} {permit : Permit}

/-- A place is taken only if one is left. -/
theorem Semaphore.Within.tryAcquire (within : semaphore.Within places)
    (acquired : semaphore.tryAcquire = some (permit, left)) : left.Within places := by
  unfold Semaphore.tryAcquire at acquired
  split at acquired
  · rename_i room
    cases acquired
    exact ⟨within.limit, within.limit ▸ room⟩
  · cases acquired

/-- A place that is given back leaves fewer taken. -/
theorem Semaphore.Within.giveBack (within : semaphore.Within places)
    : semaphore.giveBack.Within places :=
  ⟨within.limit, Nat.le_trans (Nat.sub_le _ _) within.acquired⟩

/-- A permit gives its place back once at most. -/
theorem Semaphore.Within.release (within : semaphore.Within places) (permit : Permit)
    : (semaphore.release permit).2.Within places := by
  unfold Semaphore.release
  split
  · exact within
  · exact within.giveBack

/-- There is a place exactly while fewer are taken than there are. -/
theorem Semaphore.Within.isSome_tryAcquire_iff (within : semaphore.Within places)
    : semaphore.tryAcquire.isSome ↔ semaphore.acquired < places := by
  rw [tryAcquire_isSome, within.limit]

end

/-- Others take places by the same rule. -/
theorem Dependency.within_acquireOutside {dependency : Dependency α} {places : Nat}
    (within : dependency.fallbackSemaphore.Within places) (bulkhead : Bulkhead)
    : (dependency.acquireOutside bulkhead).2.fallbackSemaphore.Within places := by
  simp only [acquireOutside]
  split
  · exact within
  · rename_i permit semaphore acquired
    cases bulkhead with
    | main => exact within
    | fallback => exact within.tryAcquire acquired

/-- Others give places back by the same rule. -/
theorem Dependency.within_releaseOutside {dependency : Dependency α} {places : Nat}
    (within : dependency.fallbackSemaphore.Within places) (number : Nat)
    : (dependency.releaseOutside number).fallbackSemaphore.Within places := by
  simp only [releaseOutside]
  split
  · exact within
  · rename_i held found
    obtain ⟨bulkhead, permit⟩ := held
    cases bulkhead with
    | main => exact within
    | fallback => exact within.release permit

/-- A command that takes or gives back a place for its fallback stays within them. -/
theorem Call.Share.within {before after : Call α} (share : Call.Share before after) {places : Nat}
    (within : before.dependency.fallbackSemaphore.Within places)
    : after.dependency.fallbackSemaphore.Within places := by
  cases share with
  | kept phase semaphore => exact semaphore ▸ within
  | taken free running semaphore => exact within.tryAcquire semaphore
  | returned running finished semaphore => exact semaphore ▸ within.giveBack

/-- What shows in a call of one command only. -/
def Aid.only (aid : Aid) (number : Nat) : Aid :=
  { aid with started := aid.started.filter (·.1 == number) }

/-- A call starts no fallback of another command. -/
theorem Call.Dispatch.others {before after : Call α} {step : Gateway.Step α}
    (dispatch : Call.Dispatch before step after) {number : Nat} (other : number ≠ before.number)
    : after.dependency.rescues.filter (·.1 == number)
      = before.dependency.rescues.filter (·.1 == number) := by
  have kept {aid : Aid} (same : after.aid = aid)
      (started : aid.started.filter (·.1 == number)
        = before.dependency.rescues.filter (·.1 == number))
      : after.dependency.rescues.filter (·.1 == number)
        = before.dependency.rescues.filter (·.1 == number) :=
    (congrArg (fun aid => aid.started.filter (·.1 == number)) same).trans started
  cases dispatch with
  | passes aid => exact kept aid rfl
  | settles running fresh unused aid => exact kept aid rfl
  | @turns cause tag primary running fresh unused aid =>
      have silent : [(before.number, cause)].filter (·.1 == number) = [] := by simp [other.symm]
      refine kept aid ?_
      rw [List.filter_append]
      split
      · rw [silent, List.append_nil]
        rfl
      · rw [List.filter_nil, List.append_nil]
        rfl
  | returns asked was aid => exact kept aid rfl

/-- A fallback was started once at most, for the one error that its record tells of, and runs only
if it was started.
-/
structure Aid.Proper (aid : Aid) (number : Nat) : Prop where
  short : aid.started.length ≤ 1
  causes : aid.causes ≤ 1
  untold : aid.causes = 0 → aid.started = []
  settled : aid.settled → aid.causes = 0
  running : ∀ cause, aid.running = some cause → aid.started = [(number, cause)]

/-- A record that tells of an end, and of no error that calls for the fallback, is that of a command
that is over.
-/
theorem Command.Stage.isOver_of_told {fallbacks : Bool} {command : Command α} {tag : Tag}
    (stage : command.Stage fallbacks) (told : command.record.tags.contains tag)
    (secondary : tag.isPrimary = false) : command.lifecycle.isOver := by
  cases stage with
  | idle idle =>
      rw [idle.tags, Tally.contains_empty] at told
      cases told
  | undecided undecided =>
      rw [undecided.tags, Tally.contains_empty] at told
      cases told
  | @rescuing cause other on rescuing =>
      have different : tag ≠ other := by
        rintro rfl
        rw [rescuing.primary.isPrimary] at secondary
        cases secondary
      have only : command.record.tags = Tally.empty.add other := rescuing.tags
      rw [only, Tally.contains_add_of_ne _ different, Tally.contains_empty] at told
      cases told
  | closed closed => exact closed.lifecycle

namespace Gateway

variable {before after start : Gateway α} {step : Step α} {number : Nat}

/-- The fallback semaphore has as many places as the settings say. -/
def Limited (gateway : Gateway α) : Prop :=
  gateway.dependency.fallbackSemaphore.Within gateway.dependency.config.fallbackMaxConcurrent

/-- No step takes more places for fallbacks than there are, by cases on what it changes. -/
theorem Change.limited (change : Change before step after) (kempt : before.Kempt)
    (limited : before.Limited) : after.Limited := by
  have config : after.dependency.config = before.dependency.config :=
    congrArg Settings.config change.settings
  have kept (loans : after.dependency.loans = before.dependency.loans)
      : after.dependency.fallbackSemaphore.Within
          before.dependency.config.fallbackMaxConcurrent := by
    rw [show after.dependency.fallbackSemaphore = before.dependency.fallbackSemaphore from
      congrArg Loans.fallbackSemaphore loans]
    exact limited
  unfold Limited
  rw [config]
  cases change with
  | moved dependency clock aside => exact kept (by rw [dependency])
  | quiet account clock lends aside =>
      cases lends with
      | kept loans => exact kept loans
      | acquired bulkhead => exact Dependency.within_acquireOutside limited bulkhead
      | released permit => exact Dependency.within_releaseOutside limited permit
  | pumped asked clock account metrics loans aside => exact kept loans
  | created asked clock account loans aside => exact kept loans
  | taken asked found ready clock account loans aside => exact kept loans
  | turned timer pool found suffix op turn queues fixed stored draws fires =>
      rw [stored]
      exact (kempt.move found op).share.within limited

/-- No more places for fallbacks are taken than there are, by induction on the steps. -/
theorem limited_run (built : start.JustBuilt) (steps : List (Step α))
    : (start.run steps).Limited := by
  induction steps using run_induction with
  | nil =>
      obtain ⟨builder, assembled⟩ := built
      obtain ⟨metrics, created, same⟩ := DependencyBuilder.assemble_eq_ok assembled
      unfold Limited
      rw [run_nil, same]
      exact ⟨rfl, Nat.zero_le _⟩
  | snoc steps last ih =>
      have kempt := kempt_run (kempt_of_justBuilt built) steps
      rw [run_snoc]
      exact (change_step kempt.orderly last).limited kempt ih

-----------------------------------------------------------------------------------------
-- What a step does to the fallback of one command
-----------------------------------------------------------------------------------------

/-- What shows of the fallback of one command. -/
def aid (gateway : Gateway α) (number : Nat) : Aid :=
  let command := (gateway.dependency.commands[number]?).getD (.create false)
  { started := gateway.dependency.rescues.filter (·.1 == number)
    causes := command.causes
    settled := command.isSettled
    attached := command.fallback.isAttached
    running := command.fallback.cause? }

/-- The fallbacks that were started for one command, by the errors that they were handed. -/
def rescuesOf (gateway : Gateway α) (number : Nat) : List CommandError :=
  (gateway.aid number).started.map (·.2)

/-- Whether fallbacks are enabled and there is a place for one more. -/
def HasRoom (gateway : Gateway α) : Prop :=
  gateway.dependency.config.fallbackEnabled
    ∧ gateway.dependency.fallbackSemaphore.acquired
      < gateway.dependency.config.fallbackMaxConcurrent

instance (gateway : Gateway α) : Decidable gateway.HasRoom := inferInstanceAs (Decidable (_ ∧ _))

/-- What a step does to the fallback of one command. -/
inductive Serves (before : Gateway α) (step : Step α) (number : Nat) (after : Gateway α) : Prop
  | passes (aid : after.aid number = before.aid number)
  | created {hasFallback} (asked : step = .create hasFallback)
    (next : before.dependency.commands.length = number)
    (aid : after.aid number = { before.aid number with attached := hasFallback })
  | settles (untold : (before.aid number).causes = 0)
    (aid : after.aid number = { before.aid number with settled := true })
  | turns (cause : CommandError)
    (running : (before.dependency.account.lifecycle number).isOver = false)
    (untold : (before.aid number).causes = 0) (unsettled : (before.aid number).settled = false)
    (aid
      : after.aid number
        = { started := (before.aid number).started
              ++ if before.HasRoom ∧ (before.aid number).attached then [(number, cause)] else []
            causes := 1
            settled := false
            attached := (before.aid number).attached
            running :=
              if before.HasRoom ∧ (before.aid number).attached then some cause else none })
  | returns {result} (asked : step = .fallbackReturned number result)
    (aid : after.aid number = { before.aid number with running := none })

/-- What shows of the fallback of a command depends on the command and on the starts that are its
own.
-/
theorem aid_congr
    (command : after.dependency.commands[number]? = before.dependency.commands[number]?)
    (rescues
      : after.dependency.rescues.filter (·.1 == number)
        = before.dependency.rescues.filter (·.1 == number))
    : after.aid number = before.aid number := by
  rw [aid, aid, command, rescues]

/-- What shows of the fallback of a command is what its call shows. -/
theorem aid_of_found {command : Command α}
    (found : before.dependency.commands[number]? = some command)
    : before.aid number = (Call.aid ⟨before, number, command⟩).only number := by
  rw [aid, found]
  rfl

/-- A new command has a fallback exactly if it was created with one, and has not used it. -/
theorem aid_of_new {hasFallback : Bool}
    (absent : before.dependency.commands[number]? = none)
    (new : after.dependency.commands[number]? = some (.create hasFallback))
    (rescues : after.dependency.rescues = before.dependency.rescues)
    : after.aid number = { before.aid number with attached := hasFallback } := by
  rw [aid, aid, absent, new, rescues]
  cases hasFallback <;> rfl

/-- Whether the fallback of an unclaimed command would be started now. -/
theorem canRescue_iff {command : Command α} (limited : before.Limited)
    (found : before.dependency.commands[number]? = some command)
    (unused : command.fallback.isUnused) (timer : Timer CommandRef)
    (pool : Option (WorkerPool Nat))
    : (before.entered timer pool number command).canRescue
      ↔ before.HasRoom ∧ (before.aid number).attached := by
  have phase : command.fallback = .ready ↔ command.fallback.isAttached = true := by
    cases phase : command.fallback with
    | absent | ready => simp [FallbackPhase.isAttached]
    | _ =>
        rw [phase] at unused
        cases unused
  have room := limited.isSome_tryAcquire_iff
  show (_ && _ && _) = true ↔ _
  rw [aid_of_found found, Bool.and_eq_true, Bool.and_eq_true, beq_iff_eq]
  show (_ ∧ command.fallback = .ready) ∧ before.dependency.fallbackSemaphore.tryAcquire.isSome ↔ _
  rw [phase, room, and_right_comm]
  rfl

/-- What a call does to the fallback of its command shows in the dependency. -/
theorem serves_of_dispatch {command : Command α} {timer : Timer CommandRef}
    {pool : Option (WorkerPool Nat)} {call : Call α} (limited : before.Limited)
    (found : before.dependency.commands[number]? = some command)
    (fixed : call.fixed = Call.fixed ⟨before, number, command⟩)
    (dispatch : Call.Dispatch (before.entered timer pool number command) step call)
    : Serves before step number call.store := by
  have was : before.aid number = (before.entered timer pool number command).aid.only number :=
    aid_of_found found
  have becomes : call.store.aid number = call.aid.only number :=
    aid_of_found (Call.getElem?_store fixed found)
  cases dispatch with
  | passes aid => exact .passes (by rw [becomes, was, aid])
  | settles running fresh unused aid =>
      refine .settles ?_ ?_
      · rw [was]
        exact (Call.causes_of_fresh fresh).1
      · rw [becomes, was, aid]
        rfl
  | @turns cause tag primary running fresh unused aid =>
      refine .turns cause ?_ ?_ ?_ ?_
      · rw [Account.lifecycle_of_get found]
        exact running
      · rw [was]
        exact (Call.causes_of_fresh fresh).1
      · rw [was]
        exact (Call.causes_of_fresh fresh).2
      · have rescuable := canRescue_iff limited found unused timer pool
        have own : [(number, cause)].filter (·.1 == number) = [(number, cause)] := by simp
        rw [was] at rescuable
        rw [becomes, was, aid]
        by_cases can : (before.entered timer pool number command).canRescue = true
        · have room := rescuable.mp can
          rw [if_pos can, if_pos can, if_pos room, if_pos room, Aid.only, List.filter_append]
          exact congrArg (fun started => Aid.mk (_ ++ started) 1 false _ (some cause)) own
        · have none_free := (not_congr rescuable).mp can
          rw [if_neg can, if_neg can, if_neg none_free, if_neg none_free, List.append_nil,
            List.append_nil]
          rfl
  | returns asked was_running aid =>
      refine .returns asked ?_
      rw [becomes, was, aid]
      rfl

/-- Every step does one of the listed things to the fallback of a command. -/
theorem serves_step (kempt : before.Kempt) (limited : before.Limited) (step : Step α)
    (number : Nat) : Serves before step number (before.step step) := by
  have change := change_step kempt.orderly step
  generalize before.step step = after at change ⊢
  cases change with
  | moved dependency clock aside =>
      exact .passes (aid_congr (by rw [dependency]) (by rw [dependency]))
  | quiet account clock lends aside =>
      exact .passes (aid_congr (congrArg (·[number]?) (congrArg Account.commands account))
        (by rw [aside.rescues]))
  | pumped asked clock account metrics loans aside =>
      exact .passes (aid_congr (congrArg (·[number]?) (congrArg Account.commands account))
        (by rw [aside.rescues]))
  | @created hasFallback asked clock account loans aside =>
      have grown : after.dependency.commands
          = before.dependency.commands ++ [.create hasFallback] :=
        congrArg Account.commands account
      by_cases next : before.dependency.commands.length = number
      · subst next
        exact .created asked rfl (aid_of_new (by simp) (by simp [grown]) aside.rescues)
      · rcases getElem?_snoc_cases before.dependency.commands (.create hasFallback) number with
          same | ⟨absent, new⟩
        · exact .passes (aid_congr (grown ▸ same) (by rw [aside.rescues]))
        · have inside := (List.getElem?_eq_some_iff.mp new).1
          have outside := List.getElem?_eq_none_iff.mp absent
          rw [List.length_append, List.length_singleton] at inside
          omega
  | @taken other command outcome asked found ready clock account loans aside =>
      have written : after.dependency.commands
          = before.dependency.commands.set other { command with completion := .consumed } :=
        congrArg Account.commands account
      refine .passes ?_
      by_cases own : number = other
      · subst own
        rw [aid_of_found found, aid, written, getElem?_set_of_found found, if_pos rfl,
          aside.rescues]
        rfl
      · exact aid_congr (by rw [written, getElem?_set_of_found found, if_neg own])
          (by rw [aside.rescues])
  | @turned timer pool other command call found suffix op turn queues fixed stored draws fires =>
      have dispatch := op.dispatch (kempt.orderly.stage found)
      rw [stored]
      by_cases own : number = other
      · subst own
        exact serves_of_dispatch limited found fixed dispatch
      · refine .passes (aid_congr ?_ (dispatch.others own))
        have written : call.store.dependency.commands
            = before.dependency.commands.set other call.command := Call.commands_store fixed
        rw [written, getElem?_set_of_found found, if_neg own]

/-- A fallback that has returned does not run. -/
theorem running_fallbackReturned (gateway : Gateway α) (number : Nat) (result : Except WorkError α)
    : ((gateway.step (.fallbackReturned number result)).aid number).running = none := by
  show ((gateway.onCommand number (·.fallbackReturned result)).aid number).running = none
  rw [onCommand]
  cases found : gateway.dependency.commands[number]? with
  | none =>
      simp only [aid, found]
      rfl
  | some command =>
      have fixed :=
        Call.fixed_of_frame (Call.frame_fallbackReturned ⟨gateway, number, command⟩ result)
      simp only [aid, Call.getElem?_store fixed found]
      exact Call.cause_fallbackReturned _ result

-----------------------------------------------------------------------------------------
-- What is known of the fallback of one command
-----------------------------------------------------------------------------------------

/-- A step that serves a command keeps what shows of its fallback proper. -/
theorem Serves.proper (serves : Serves before step number after)
    (proper : (before.aid number).Proper number) : (after.aid number).Proper number := by
  cases serves with
  | passes aid => exact aid ▸ proper
  | created asked next aid =>
      rw [aid]
      exact { proper with }
  | settles untold aid =>
      rw [aid]
      exact { proper with settled := fun _ => untold }
  | turns cause running untold unsettled aid =>
      rw [aid, proper.untold untold]
      by_cases room : before.HasRoom ∧ (before.aid number).attached = true
      · simp only [if_pos room]
        refine ⟨Nat.le_refl 1, Nat.le_refl 1, nofun, nofun, ?_⟩
        rintro other ⟨⟩
        rfl
      · simp only [if_neg room]
        exact ⟨Nat.zero_le 1, Nat.le_refl 1, nofun, nofun, nofun⟩
  | returns asked aid =>
      rw [aid]
      exact { proper with running := nofun }

/-- Once a fallback was started, no step starts it again. -/
theorem Serves.started_of_ne_nil (serves : Serves before step number after)
    (proper : (before.aid number).Proper number) (begun : (before.aid number).started ≠ [])
    : (after.aid number).started = (before.aid number).started := by
  cases serves with
  | turns cause running untold unsettled aid => exact absurd (proper.untold untold) begun
  | passes aid | created asked next aid | settles untold aid | returns asked aid => rw [aid]

/-- Once a command is over, no step starts its fallback. -/
theorem Serves.started_of_isOver (serves : Serves before step number after)
    (isOver : (before.dependency.account.lifecycle number).isOver)
    : (after.aid number).started = (before.aid number).started := by
  cases serves with
  | turns cause running untold unsettled aid =>
      rw [isOver] at running
      cases running
  | passes aid | created asked next aid | settles untold aid | returns asked aid => rw [aid]

/-- Each step of a run serves every command, its own and the others. -/
theorem serves_run (built : start.JustBuilt) (steps : List (Step α)) (last : Step α)
    (number : Nat) : Serves (start.run steps) last number (start.run (steps ++ [last])) := by
  rw [run_snoc]
  exact serves_step (kempt_run (kempt_of_justBuilt built) steps) (limited_run built steps) last
    number

/-- Nothing shows of fallbacks in a dependency that was just built. -/
theorem aid_of_justBuilt (built : start.JustBuilt) (number : Nat)
    : start.aid number = ⟨[], 0, false, false, none⟩ := by
  obtain ⟨builder, assembled⟩ := built
  obtain ⟨metrics, created, same⟩ := DependencyBuilder.assemble_eq_ok assembled
  rw [aid, same]
  rfl

/-- What shows of the fallback of a command is proper after every run, by induction on the steps. -/
theorem proper_run (built : start.JustBuilt) (steps : List (Step α)) (number : Nat)
    : ((start.run steps).aid number).Proper number := by
  induction steps using run_induction with
  | nil =>
      rw [run_nil, aid_of_justBuilt built]
      exact ⟨Nat.zero_le 1, Nat.zero_le 1, fun _ => rfl, nofun, nofun⟩
  | snoc steps last ih => exact (serves_run built steps last number).proper ih

-----------------------------------------------------------------------------------------
-- When a fallback is started
-----------------------------------------------------------------------------------------

/-- A step makes the record of a command tell of an error that calls for the fallback. -/
def Fails (number : Nat) (gateway : Gateway α) (step : Step α) : Prop :=
  (gateway.aid number).causes = 0 ∧ ((gateway.step step).aid number).causes = 1

/-- A step makes a command fail while it has a fallback and there is room for that. -/
def FailsWithRoom (number : Nat) (gateway : Gateway α) (step : Step α) : Prop :=
  gateway.Fails number step ∧ gateway.HasRoom ∧ (gateway.aid number).attached

/-- The fallback of a command was started by a step of the run, and has not returned since. -/
def FallbackRuns (start : Gateway α) (steps : List (Step α)) (number : Nat) : Prop :=
  ∃ earlier step later,
    steps = earlier ++ step :: later
    ∧ (start.run earlier).rescuesOf number = []
    ∧ (start.run (earlier ++ [step])).rescuesOf number ≠ []
    ∧ ∀ result, .fallbackReturned number result ∉ later

/-- No error was handed to a fallback that was not started. -/
theorem rescuesOf_eq_nil_iff {gateway : Gateway α}
    : gateway.rescuesOf number = [] ↔ (gateway.aid number).started = [] := by
  rw [rescuesOf, List.map_eq_nil_iff]

/-- The fallback of a command is started exactly when the command fails with room for that. -/
theorem started_iff (built : start.JustBuilt) (steps : List (Step α)) (number : Nat)
    : ((start.run steps).aid number).started ≠ []
      ↔ start.Sometime steps (FailsWithRoom number) := by
  induction steps using run_induction with
  | nil =>
      rw [run_nil, aid_of_justBuilt built]
      exact iff_of_false (fun begun => begun rfl) not_sometime_nil
  | snoc steps last ih =>
      have proper := proper_run built steps number
      have calm
          (started
            : ((start.run (steps ++ [last])).aid number).started
              = ((start.run steps).aid number).started)
          (causes
            : ((start.run (steps ++ [last])).aid number).causes
              = ((start.run steps).aid number).causes)
          : ((start.run (steps ++ [last])).aid number).started ≠ []
            ↔ start.Sometime (steps ++ [last]) (FailsWithRoom number) := by
        rw [started, ih, sometime_snoc, or_iff_left]
        rintro ⟨⟨untold, told⟩, _⟩
        rw [← run_snoc, causes, untold] at told
        cases told
      cases serves_run built steps last number with
      | turns cause running untold unsettled aid =>
          have before := proper.untold untold
          have told : ((start.run (steps ++ [last])).aid number).causes = 1 := by rw [aid]
          have fails : (start.run steps).Fails number last := ⟨untold, run_snoc start .. ▸ told⟩
          rw [sometime_snoc, ← ih, before, aid, before, or_iff_right (fun begun => begun rfl)]
          simp only [FailsWithRoom, fails, true_and]
          split <;> simp_all
      | passes aid | created asked next aid | settles untold aid | returns asked aid =>
          exact calm (by rw [aid]) (by rw [aid])

/-- A command has the fallback that it was created with. -/
theorem attached_create (gateway : Gateway α) (hasFallback : Bool)
    : ((gateway.step (.create hasFallback)).aid gateway.dependency.commands.length).attached
      = hasFallback := by
  have absent : gateway.dependency.commands[gateway.dependency.commands.length]? = none := by simp
  have new
      : (gateway.step (.create hasFallback)).dependency.commands[
          gateway.dependency.commands.length]? = some (.create hasFallback) :=
    List.getElem?_concat_length
  rw [aid_of_new absent new rfl]

/-- A command has a fallback exactly if it was created with one. -/
theorem attached_iff (built : start.JustBuilt) (steps : List (Step α)) (number : Nat)
    : ((start.run steps).aid number).attached
      ↔ start.Sometime steps fun gateway step =>
          step = .create true ∧ gateway.dependency.commands.length = number := by
  induction steps using run_induction with
  | nil =>
      rw [run_nil, aid_of_justBuilt built]
      exact iff_of_false nofun not_sometime_nil
  | snoc steps last ih =>
      rw [sometime_snoc, ← ih]
      have made (asked : last = .create true)
          (next : (start.run steps).dependency.commands.length = number)
          : ((start.run (steps ++ [last])).aid number).attached = true := by
        subst asked next
        rw [run_snoc, attached_create]
      cases serves_run built steps last number with
      | created asked next aid =>
          have absent : ((start.run steps).aid number).attached = false := by
            simp [Gateway.aid, ← next]
            rfl
          rw [absent, aid, asked]
          simp [next]
      | passes aid | settles untold aid | turns cause running untold unsettled aid
      | returns asked aid =>
          have same : ((start.run (steps ++ [last])).aid number).attached
              = ((start.run steps).aid number).attached := by rw [aid]
          exact ⟨fun has => .inl (same ▸ has), fun had => had.elim (same.symm ▸ ·)
            fun made_now => made made_now.1 made_now.2⟩

/-- Once a command is over, its fallback is not started any more. -/
theorem started_of_isOver (built : start.JustBuilt) (earlier later : List (Step α))
    (isOver : ((start.run earlier).dependency.account.lifecycle number).isOver)
    : ((start.run (earlier ++ later)).aid number).started
      = ((start.run earlier).aid number).started := by
  induction later using run_induction with
  | nil => rw [List.append_nil]
  | snoc later last ih =>
      have still : ((start.run (earlier ++ later)).dependency.account.lifecycle number).isOver := by
        have kept := run_of_isOver (sound_run (sound_of_justBuilt built) earlier) isOver later
        rw [run_append, kept.1]
        exact isOver
      rw [← List.append_assoc]
      exact ((serves_run built (earlier ++ later) last number).started_of_isOver still).trans ih

/-- A fallback that runs after one more step ran before that and has not returned, or the step has
started it.
-/
theorem fallbackRuns_snoc_iff {steps : List (Step α)} {last : Step α} {number : Nat}
    : FallbackRuns start (steps ++ [last]) number
      ↔ FallbackRuns start steps number ∧ (∀ result, last ≠ .fallbackReturned number result)
        ∨ (start.run steps).rescuesOf number = []
          ∧ (start.run (steps ++ [last])).rescuesOf number ≠ [] := by
  constructor
  · rintro ⟨earlier, step, later, split, free, begun, away⟩
    rcases List.eq_nil_or_concat later with rfl | ⟨later, other, rfl⟩
    · obtain ⟨rfl, same⟩ := List.append_inj' split rfl
      obtain rfl : last = step := by simpa using same
      exact .inr ⟨free, begun⟩
    · simp only [List.concat_eq_append] at split away
      rw [← List.cons_append, ← List.append_assoc] at split
      obtain ⟨rfl, same⟩ := List.append_inj' split rfl
      obtain rfl : last = other := by simpa using same
      refine .inl ⟨⟨earlier, step, later, rfl, free, begun, fun result member => ?_⟩, ?_⟩
      · exact away result (List.mem_append_left _ member)
      · rintro result rfl
        exact away result (by simp)
  · rintro (⟨⟨earlier, step, later, rfl, free, begun, away⟩, other⟩ | ⟨free, begun⟩)
    · refine ⟨earlier, step, later ++ [last], by simp, free, begun, fun result member => ?_⟩
      rcases List.mem_append.mp member with member | final
      · exact away result member
      · exact other result (List.mem_singleton.mp final).symm
    · exact ⟨steps, last, [], rfl, free, begun, fun _ => nofun⟩

/-- A fallback runs exactly if it was started and has not returned since. -/
theorem running_iff (built : start.JustBuilt) (steps : List (Step α)) (number : Nat)
    : ((start.run steps).aid number).running.isSome ↔ FallbackRuns start steps number := by
  induction steps using run_induction with
  | nil =>
      rw [run_nil, aid_of_justBuilt built]
      refine iff_of_false nofun ?_
      rintro ⟨earlier, step, later, split, _⟩
      simp at split
  | snoc steps last ih =>
      have proper := proper_run built steps number
      rw [fallbackRuns_snoc_iff, ← ih, rescuesOf_eq_nil_iff, ne_eq, rescuesOf_eq_nil_iff]
      cases serves_run built steps last number with
      | passes aid | created asked next aid | settles untold aid =>
          have running : ((start.run (steps ++ [last])).aid number).running
              = ((start.run steps).aid number).running := by rw [aid]
          have started : ((start.run (steps ++ [last])).aid number).started
              = ((start.run steps).aid number).started := by rw [aid]
          rw [running, started]
          refine ⟨fun runs => .inl ⟨runs, ?_⟩, ?_⟩
          · rintro result rfl
            rw [← running, run_snoc, running_fallbackReturned] at runs
            cases runs
          · rintro (⟨runs, _⟩ | ⟨free, begun⟩)
            · exact runs
            · exact absurd free begun
      | turns cause running untold unsettled aid =>
          have before := proper.untold untold
          rw [aid, before]
          constructor
          · intro runs
            refine .inr ⟨rfl, ?_⟩
            split at runs <;> simp_all
          · rintro (⟨runs, _⟩ | ⟨_, begun⟩)
            · obtain ⟨other, held⟩ := Option.isSome_iff_exists.mp runs
              have started := proper.running other held
              rw [before] at started
              cases started
            · split <;> simp_all
      | returns asked aid =>
          refine iff_of_false (by rw [aid]; nofun) ?_
          rintro (⟨_, other⟩ | ⟨free, begun⟩)
          · exact other _ asked
          · exact begun (by rw [aid]; exact free)

-----------------------------------------------------------------------------------------
-- What the waiter is told
-----------------------------------------------------------------------------------------

/-- An outcome that tells of a failed fallback was stored while that fallback was running. -/
theorem cause_of_stored (kempt : before.Kempt) {key : String} {cause : CommandError}
    {source : WorkError}
    (stored
      : (before.step step).dependency.account.slot number
        = .ready (.error (.fallbackFailed key cause source)))
    : before.dependency.account.slot number = .ready (.error (.fallbackFailed key cause source))
      ∨ ((before.aid number).running = some cause ∧ cause.rootCause = cause) := by
  have becomes {command : Command α}
      (new : (before.step step).dependency.commands[number]? = some command)
      : command.completion = .ready (.error (.fallbackFailed key cause source)) :=
    (Account.slot_of_get new).symm.trans stored
  cases (change_step kempt.orderly step).fate number with
  | kept same =>
      left
      rw [← stored]
      show (before.dependency.commands[number]?.map (·.completion)).getD _ = _
      rw [← same]
      rfl
  | created asked absent new => cases becomes new
  | taken asked found new ready => cases becomes new
  | @turned timer pool command call found op new _ =>
      have turn := op.turn (kempt.orderly.stage found)
      rcases op.cause_of_fallbackFailed turn (becomes new) with same | told
      · exact .inl ((Account.slot_of_get found).trans same)
      · rw [aid_of_found found]
        exact .inr told

/-- The error that a failed fallback was handed is the root cause that the waiter is told. -/
theorem started_of_awaited (built : start.JustBuilt) {steps : List (Step α)} {key : String}
    {cause : CommandError} {source : WorkError}
    (awaited : Awaited start steps number (.error (.fallbackFailed key cause source)))
    : ((start.run steps).aid number).started = [(number, cause)] ∧ cause.rootCause = cause := by
  induction steps using run_induction with
  | nil =>
      cases awaited with
      | held ready =>
          have absent : start.dependency.commands[number]? = none := by
            rw [built.commands]
            rfl
          rw [run_nil, Account.slot_of_none absent] at ready
          cases ready
      | taken split ready => simp at split
  | snoc steps last ih =>
      have proper := proper_run built steps number
      have kept (told
          : ((start.run steps).aid number).started = [(number, cause)] ∧ cause.rootCause = cause)
          : ((start.run (steps ++ [last])).aid number).started = [(number, cause)]
            ∧ cause.rootCause = cause := by
        have begun : ((start.run steps).aid number).started ≠ [] := by simp [told.1]
        exact ⟨((serves_run built steps last number).started_of_ne_nil proper begun).trans told.1,
          told.2⟩
      rcases awaited.of_snoc with earlier | ready
      · exact kept (ih earlier)
      · rw [run_snoc] at ready
        rcases cause_of_stored (kempt_run (kempt_of_justBuilt built) steps) ready with same | told
        · exact kept (ih (.held same))
        · exact kept ⟨proper.running cause told.1, told.2⟩

-----------------------------------------------------------------------------------------
-- The fallbacks of a run
-----------------------------------------------------------------------------------------

/-- What a run shows of the fallback of one command. -/
structure FallbackStarts (start : Gateway α) (steps : List (Step α)) (number : Nat) : Prop where
  once : ((start.run steps).rescuesOf number).length ≤ 1
  /-- The record of the command tells of one error at most that calls for the fallback. -/
  failedOnce : ((start.run steps).aid number).causes ≤ 1
  attached
    : ((start.run steps).aid number).attached
      ↔ start.Sometime steps fun gateway step =>
          step = .create true ∧ gateway.dependency.commands.length = number
  /-- The fallback was started exactly if the command failed at a moment when fallbacks were
  enabled, it had one, and a place was free.
  -/
  started
    : (start.run steps).rescuesOf number ≠ [] ↔ start.Sometime steps (FailsWithRoom number)
  /-- It is not started once the record tells of another end, or the command is over at all. -/
  ended
    : ∀ earlier later, steps = earlier ++ later
        → (∀ command,
            (start.run earlier).dependency.commands[number]? = some command
            → command.record.tags.contains .success
              ∨ command.record.tags.contains .badRequest
              ∨ (command.record.tags.contains .cancelled ∧ command.causes = 0)
            → (start.run steps).rescuesOf number = [])
          ∧ (((start.run earlier).dependency.account.lifecycle number).isOver
            → (start.run steps).rescuesOf number = (start.run earlier).rescuesOf number)
  /-- The error that it was handed is the root cause that the waiter is told if it fails. -/
  cause
    : ∀ key cause source,
        Awaited start steps number (.error (.fallbackFailed key cause source))
        → (start.run steps).rescuesOf number
          = [(CommandError.fallbackFailed key cause source).rootCause]
  running
    : ((start.run steps).aid number).running.isSome ↔ FallbackRuns start steps number

/-- A command whose record tells of an end, and of nothing that calls for its fallback, has none
that was started.
-/
theorem started_of_told (built : start.JustBuilt) (steps : List (Step α)) {command : Command α}
    (found : (start.run steps).dependency.commands[number]? = some command)
    (told
      : command.record.tags.contains .success
        ∨ command.record.tags.contains .badRequest
        ∨ (command.record.tags.contains .cancelled ∧ command.causes = 0))
    : ((start.run steps).dependency.account.lifecycle number).isOver
      ∧ ((start.run steps).aid number).started = [] := by
  have stage := (kempt_run (kempt_of_justBuilt built) steps).orderly.stage found
  have proper := proper_run built steps number
  have own := aid_of_found found
  have settled (ended : command.isSettled) : ((start.run steps).aid number).started = [] :=
    proper.untold (proper.settled (by rw [own]; exact ended))
  rw [Account.lifecycle_of_get found]
  rcases told with told | told | ⟨told, untold⟩
  · exact ⟨stage.isOver_of_told told rfl, settled (by rw [Command.isSettled, told]; rfl)⟩
  · exact ⟨stage.isOver_of_told told rfl,
      settled (by rw [Command.isSettled, told, Bool.or_true])⟩
  · exact ⟨stage.isOver_of_told told rfl, proper.untold (by rw [own]; exact untold)⟩

/-- All of this holds of every run. -/
theorem fallbackStarts_run (built : start.JustBuilt) (steps : List (Step α)) (number : Nat)
    : FallbackStarts start steps number := by
  have proper := proper_run built steps number
  have later_on {earlier later : List (Step α)} (split : steps = earlier ++ later)
      (isOver : ((start.run earlier).dependency.account.lifecycle number).isOver)
      : (start.run steps).rescuesOf number = (start.run earlier).rescuesOf number := by
    rw [rescuesOf, split, started_of_isOver built earlier later isOver]
    rfl
  refine ⟨?_, proper.causes, attached_iff built steps number, ?_, ?_, ?_,
    running_iff built steps number⟩
  · rw [rescuesOf, List.length_map]
    exact proper.short
  · rw [ne_eq, rescuesOf_eq_nil_iff]
    exact started_iff built steps number
  · refine fun earlier later split => ⟨fun command found told => ?_, later_on split⟩
    obtain ⟨isOver, unstarted⟩ := started_of_told built earlier found told
    rw [later_on split isOver, rescuesOf_eq_nil_iff.mpr unstarted]
  · intro key cause source awaited
    obtain ⟨started, root⟩ := started_of_awaited built awaited
    rw [rescuesOf, started]
    exact congrArg (fun error => [error]) root.symm

/-- Whatever steps a dependency takes, in whatever order, it starts the fallback of a command once
at most and only when that fails with room for it; so many run at a time as there are places, each
of which is held from the start of a fallback to its return.
-/
theorem fallbacks_started_with_room (built : start.JustBuilt) (steps : List (Step α))
    : let dependency := (start.run steps).dependency
      (∀ number, FallbackStarts start steps number)
      ∧ dependency.fallbackSemaphore.acquired
        = dependency.outside.countP OutsidePermit.takesFallback
          + dependency.commands.countP (·.fallback.isRunning)
      ∧ dependency.commands.countP (·.fallback.isRunning)
        ≤ start.dependency.config.fallbackMaxConcurrent := by
  intro dependency
  have config : dependency.config = start.dependency.config :=
    congrArg Settings.config (settings_run (sound_of_justBuilt built).orderly steps)
  have shared : dependency.fallbackSemaphore.acquired
      = dependency.outside.countP OutsidePermit.takesFallback
        + dependency.commands.countP (·.fallback.isRunning) := (tended_run built steps).shared
  have limited : dependency.fallbackSemaphore.acquired
      ≤ start.dependency.config.fallbackMaxConcurrent :=
    config ▸ (limited_run built steps).acquired
  exact ⟨fallbackStarts_run built steps, shared, by omega⟩

/-- There is one place for fallbacks. That of the first command times out and runs on after a
cancellation, so the second command, whose work fails meanwhile, gets none; the third does, once the
first fallback has panicked, and is told of its failure.
-/
theorem fallbacks_started_with_room_one
    : let start : Gateway Nat :=
        ofBuilder
          { key := "sample"
            config := {
              isolation := .threadPool, fallbackMaxConcurrent := 1
              pool := { coreSize := 1, maxQueueSize := 10 }
            } } rfl
      let steps : List (Step Nat) :=
        [.create true, .create true, .create true, .submit 0, .handOff 0, .advance 1000,
          .timeoutFired 0, .cancel 0, .submit 1, .handOff 1, .pickUp, .pickUp,
          .workReturned 1 (.error (.plain "down")), .fallbackReturned 0 (.error (.panic "lost")),
          .submit 2, .handOff 2, .advance 1000, .timeoutFired 2,
          .fallbackReturned 2 (.error (.plain "down"))]
      start.JustBuilt
      ∧ (List.range 3).map (start.run steps).rescuesOf
        = [[.timeout "sample" 1000], [], [.timeout "sample" 1000]]
      ∧ (∀ number, FallbackStarts start steps number)
      ∧ (start.run (steps.take 13)).dependency.commands.countP (·.fallback.isRunning) = 1
      ∧ (start.run (steps.take 13)).dependency.commands.countP (·.fallback.isRunning)
        ≤ start.dependency.config.fallbackMaxConcurrent := by
  intro start steps
  have built : start.JustBuilt := justBuilt_ofBuilder _ _
  exact ⟨built, by decide +kernel, (fallbacks_started_with_room built steps).1, by decide +kernel,
    (fallbacks_started_with_room built (steps.take 13)).2.2⟩

end Gateway

end Breakwater
