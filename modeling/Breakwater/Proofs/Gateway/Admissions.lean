import Breakwater.Proofs.Gateway.Tidy

/-! Which commands of a run were admitted: the start of a command is stamped exactly if the circuit
lets it pass when it is submitted, and it finds a place at its bulkhead then.
-/

namespace Breakwater

variable {α : Type}

/-- Whether the start of a command was stamped. -/
def Command.isAdmitted (command : Command α) : Bool := command.record.startedAt.isSome

namespace Call

variable {before after : Call α} {step : Gateway.Step α}

/-- A command that is let pass and finds a place is admitted by its submission. -/
theorem isAdmitted_submit (call : Call α) (idle : call.command.Idle)
    (allowed : call.isAllowed = true) (place : call.dependency.hasPlace = true)
    : call.submit.command.isAdmitted := by
  have room : call.asked.dependency.hasPlace = true := call.hasPlace_asked.trans place
  have submitted := call.submit_cases
  generalize call.submit = after at submitted ⊢
  cases submitted with
  | turnedAway denied =>
      rw [allowed] at denied
      cases denied
  | atSemaphore _ noPool =>
      have empty : call.asked.dependency.pool = none :=
        (Dependency.pool_allowRequest _ _).trans noPool
      rw [Dependency.hasPlace, empty] at room
      obtain ⟨⟨permit, left⟩, acquired⟩ := Option.isSome_iff_exists.mp room
      have inTime : call.command.timeout ≠ .timedOut := by
        rw [idle.timeout]
        decide
      have begins : Begins (call.asked.holding permit left).beginInvocation .caller
          call.asked.admitBySemaphore :=
        admitBySemaphore_begins acquired rfl inTime
      rw [begins.command, command_begun]
      rfl
  | atPool pool _ held =>
      have some_pool : call.asked.dependency.pool = some pool :=
        (Dependency.pool_allowRequest _ _).trans held
      rw [Dependency.hasPlace, some_pool] at room
      have command := call.asked.command_begun
      simp only [admitByPool, if_pos (show pool.isQueueSpaceAvailable = true from room)]
      rw [command_mapCommand, command]
      rfl

/-- Only its submission admits a command, for good. -/
theorem Move.isAdmitted (move : Move before step after)
    : (before.command.isAdmitted → after.command.isAdmitted)
      ∧ (after.command.isAdmitted → before.command.isAdmitted ∨ Admits before step after) := by
  have kept (same : after.command.record.origin = before.command.record.origin)
      : (before.command.isAdmitted → after.command.isAdmitted)
        ∧ (after.command.isAdmitted → before.command.isAdmitted ∨ Admits before step after) := by
    have startedAt : after.command.isAdmitted = before.command.isAdmitted :=
      congrArg (fun origin : Origin => origin.startedAt.isSome) same
    exact ⟨fun admitted => startedAt ▸ admitted, fun admitted => .inl (startedAt ▸ admitted)⟩
  cases move with
  | rests keeps phase semaphore record => exact kept keeps.origin
  | parks admits pool command diary => exact ⟨fun _ => by rw [command]; rfl, fun _ => .inr admits⟩
  | enters permit admits noPool command diary =>
      exact ⟨fun _ => by rw [command]; rfl, fun _ => .inr admits⟩
  | begins asked queued created inTime begins =>
      have startedAt : after.command.isAdmitted = before.command.isAdmitted := by
        rw [begins.command, Command.isAdmitted, Command.startedAt_working]
        rfl
      exact ⟨fun admitted => startedAt ▸ admitted, fun admitted => .inl (startedAt ▸ admitted)⟩
  | rescues running rescues => exact kept rescues.origin
  | ends running closes => exact kept closes.origin
  | late asked isOver running keeps share record => exact kept keeps.origin

end Call

namespace Gateway

variable {before after start : Gateway α} {step : Step α} {number : Nat}

/-- A command that was not submitted before would be let pass by the circuit, and find a place. -/
structure WouldAdmit (gateway : Gateway α) (number : Nat) : Prop where
  waits
    : ∃ command,
        gateway.dependency.commands[number]? = some command ∧ command.lifecycle = .notStarted
  allowed : (gateway.dependency.allowRequest gateway.clock.now).1 = true
  place : gateway.dependency.hasPlace = true

/-- One of the steps of a run admitted the command. -/
def WasAdmitted (start : Gateway α) (steps : List (Step α)) (number : Nat) : Prop :=
  ∃ earlier later,
    steps = earlier ++ .submit number :: later ∧ (start.run earlier).WouldAdmit number

theorem WasAdmitted.append {steps : List (Step α)} (admitted : WasAdmitted start steps number)
    (more : List (Step α)) : WasAdmitted start (steps ++ more) number := by
  obtain ⟨earlier, later, rfl, would⟩ := admitted
  exact ⟨earlier, later ++ more, by simp, would⟩

/-- A command is admitted by a step that submits it, or was so before. -/
theorem Passage.was_admitted (passage : Passage before step number after) {new : Command α}
    (there : after.dependency.commands[number]? = some new) (admitted : new.isAdmitted)
    : (∃ command, before.dependency.commands[number]? = some command ∧ command.isAdmitted)
      ∨ (step = .submit number ∧ before.WouldAdmit number) := by
  cases passage with
  | kept same story => exact .inl ⟨new, same.symm.trans there, admitted⟩
  | created absent fresh story =>
      obtain rfl := Option.some.inj (there.symm.trans fresh)
      cases admitted
  | taken found written story =>
      obtain rfl := Option.some.inj (there.symm.trans written)
      exact .inl ⟨_, found, admitted⟩
  | @moved timer pool command call found move written stored draws =>
      obtain rfl := Option.some.inj (there.symm.trans written)
      rcases move.isAdmitted.2 admitted with before | admits
      · exact .inl ⟨command, found, before⟩
      · have asked : step = .submit number := admits.asked
        obtain rfl : pool = before.dependency.pool := by
          cases draws with
          | nothing other => rfl
          | task some_pool picked => cases asked
        exact .inr ⟨asked, ⟨command, found, admits.notStarted⟩, admits.allowed, admits.place⟩

theorem isAdmitted_of_wouldAdmit (kempt : before.Kempt) (would : before.WouldAdmit number)
    : ∃ command,
        (before.step (.submit number)).dependency.commands[number]? = some command
          ∧ command.isAdmitted := by
  obtain ⟨⟨command, found, notStarted⟩, allowed, place⟩ := would
  let call : Call α := ⟨before, number, command⟩
  have idle := (kempt.orderly.stage found).isIdle notStarted
  have stored : before.step (.submit number) = call.submit.store := by
    show (before.submit number).2 = _
    simp only [submit, found, notStarted, if_true]
    rfl
  refine ⟨call.submit.command, ?_, call.isAdmitted_submit idle allowed place⟩
  rw [stored]
  exact Call.getElem?_store (Call.fixed_of_frame call.frame_submit) found

/-- A command that was admitted in a run is there and knows it, by induction on the steps since. -/
theorem WasAdmitted.isAdmitted (kempt : start.Kempt) {steps : List (Step α)}
    (admitted : WasAdmitted start steps number)
    : ∃ command,
        (start.run steps).dependency.commands[number]? = some command ∧ command.isAdmitted := by
  obtain ⟨earlier, later, rfl, would⟩ := admitted
  rw [run_append, run_cons]
  have kempt := kempt_run kempt earlier
  have there := isAdmitted_of_wouldAdmit kempt would
  have kempt := kempt_step kempt (.submit number)
  induction later using run_induction with
  | nil => exact there
  | snoc later last ih =>
      obtain ⟨command, found, admitted⟩ := ih
      have kempt := kempt_run kempt later
      have passage := (change_step kempt.orderly last).passage kempt number
      rw [run_snoc]
      exact passage.onwards found admitted admitted fun _ _ _ move => move.isAdmitted.1 admitted

theorem wasAdmitted_of_isAdmitted (built : start.JustBuilt) (steps : List (Step α))
    {command : Command α} (found : (start.run steps).dependency.commands[number]? = some command)
    (admitted : command.isAdmitted) : WasAdmitted start steps number := by
  induction steps using run_induction generalizing command with
  | nil =>
      rw [run_nil, built.commands] at found
      cases found
  | snoc steps last ih =>
      have kempt := kempt_run (kempt_of_justBuilt built) steps
      rw [run_snoc] at found
      have passage := (change_step kempt.orderly last).passage kempt number
      rcases passage.was_admitted found admitted with ⟨old, there, before⟩ | ⟨rfl, would⟩
      · exact (ih there before).append [last]
      · exact ⟨steps, [], rfl, would⟩

/-- The commands of a run whose start is stamped are those that were admitted. -/
theorem isAdmitted_run_iff (built : start.JustBuilt) (steps : List (Step α)) {command : Command α}
    (found : (start.run steps).dependency.commands[number]? = some command)
    : command.isAdmitted ↔ WasAdmitted start steps number := by
  refine ⟨wasAdmitted_of_isAdmitted built steps found, fun admitted => ?_⟩
  obtain ⟨same, there, stamped⟩ := admitted.isAdmitted (kempt_of_justBuilt built)
  obtain rfl := Option.some.inj (found.symm.trans there)
  exact stamped

end Gateway

end Breakwater
