import Breakwater.Proofs.Gateway.Change

/-! What a step makes of each command, and the order of a dependency, which every step keeps. -/

namespace Breakwater

variable {α : Type}

theorem Call.account_store {call before : Call α} (fixed : call.fixed = before.fixed)
    : call.store.dependency.account
      = { before.dependency.account with
          commands := before.dependency.commands.set before.number call.command
          waiting := call.dependency.waiting
          ledger := call.dependency.ledger } := by
  have number : call.number = before.number := congrArg Fixed.number fixed
  have commands : call.dependency.commands = before.dependency.commands :=
    congrArg Fixed.commands fixed
  have settings : call.dependency.settings = before.dependency.settings :=
    congrArg Fixed.settings fixed
  have meters : call.dependency.meters = before.dependency.meters := congrArg Fixed.meters fixed
  show Account.mk call.dependency.settings (call.dependency.commands.set call.number call.command)
    call.dependency.waiting call.dependency.ledger call.dependency.meters = _
  rw [number, commands, settings, meters]
  rfl

/-- The command at a place after one place was written. -/
theorem getElem?_set_of_found {β : Type} {entries : List β} {number : Nat} {old : β}
    (found : entries[number]? = some old) (new : β) (other : Nat)
    : (entries.set number new)[other]?
      = if other = number then some new else entries[other]? := by
  have inside : number < entries.length := (List.getElem?_eq_some_iff.mp found).1
  rw [List.getElem?_set]
  by_cases same : other = number
  · subst same
    simp [inside]
  · simp [same, Ne.symm same]

/-- A command that was worked on is put back into its place. -/
theorem Call.commands_store {call before : Call α} (fixed : call.fixed = before.fixed)
    : call.store.dependency.commands
      = before.dependency.commands.set before.number call.command :=
  congrArg Account.commands (account_store fixed)

theorem Call.getElem?_store {call before : Call α} (fixed : call.fixed = before.fixed)
    (found : before.dependency.commands[before.number]? = some before.command)
    : call.store.dependency.commands[before.number]? = some call.command := by
  rw [commands_store fixed, getElem?_set_of_found found, if_pos rfl]

/-- The command at a place after one was added: only the first place past the end is new. -/
theorem getElem?_snoc_cases {β : Type} (entries : List β) (new : β) (number : Nat)
    : (entries ++ [new])[number]? = entries[number]?
      ∨ (entries[number]? = none ∧ (entries ++ [new])[number]? = some new) := by
  rcases Nat.lt_trichotomy number entries.length with old | rfl | beyond
  · exact .inl (List.getElem?_append_left old)
  · exact .inr ⟨by simp, by simp⟩
  · refine .inl ?_
    rw [List.getElem?_eq_none (by simp; omega), List.getElem?_eq_none (by omega)]

namespace Gateway

variable {before after : Gateway α} {step : Step α}

theorem Change.settings (change : Change before step after)
    : after.dependency.settings = before.dependency.settings := by
  cases change with
  | moved dependency clock => rw [dependency]
  | quiet account clock => exact congrArg Account.settings account
  | pumped asked clock account metrics => exact congrArg Account.settings account
  | created asked clock account => exact congrArg Account.settings account
  | taken asked found ready clock account => exact congrArg Account.settings account
  | turned timer pool found suffix op turn queues fixed stored =>
      rw [stored]
      exact congrArg Account.settings (Call.account_store fixed)

/-- What a step makes of one command: it leaves the command as it is, creates it, hands out its
outcome, or is an operation on it.
-/
inductive Fate (before : Gateway α) (step : Step α) (number : Nat) (after : Gateway α) : Prop
  | kept (same : after.dependency.commands[number]? = before.dependency.commands[number]?)
  | created {hasFallback} (asked : step = .create hasFallback)
    (absent : before.dependency.commands[number]? = none)
    (new : after.dependency.commands[number]? = some (.create hasFallback))
  | taken {command} (asked : step = .take number)
    (found : before.dependency.commands[number]? = some command)
    (new : after.dependency.commands[number]? = some { command with completion := .consumed })
    (ready : ∃ outcome, command.completion = .ready outcome)
  | turned (timer : Timer CommandRef) (pool : Option (WorkerPool Nat)) {command call}
    (found : before.dependency.commands[number]? = some command)
    (op : Call.Op (before.entered timer pool number command) step call)
    (new : after.dependency.commands[number]? = some call.command) (stored : after = call.store)

theorem Change.fate (change : Change before step after) (number : Nat)
    : Fate before step number after := by
  cases change with
  | moved dependency clock => exact .kept (by rw [dependency])
  | quiet account clock =>
      have same := congrArg Account.commands account
      exact .kept (congrArg (·[number]?) same)
  | pumped asked clock account metrics =>
      have same := congrArg Account.commands account
      exact .kept (congrArg (·[number]?) same)
  | @created hasFallback asked clock account =>
      have grown : after.dependency.commands
          = before.dependency.commands ++ [.create hasFallback] :=
        congrArg Account.commands account
      rcases getElem?_snoc_cases before.dependency.commands (.create hasFallback) number with
        same | ⟨absent, new⟩
      · exact .kept (grown ▸ same)
      · exact .created asked absent (grown ▸ new)
  | @taken other command outcome asked found ready clock account =>
      have written : after.dependency.commands
          = before.dependency.commands.set other { command with completion := .consumed } :=
        congrArg Account.commands account
      by_cases own : number = other
      · subst own
        exact .taken asked found (by rw [written, getElem?_set_of_found found, if_pos rfl])
          ⟨outcome, ready⟩
      · exact .kept (by rw [written, getElem?_set_of_found found, if_neg own])
  | @turned timer pool other command call found suffix op turn queues fixed stored =>
      have written : after.dependency.commands
          = before.dependency.commands.set other call.command :=
        stored ▸ Call.commands_store fixed
      by_cases own : number = other
      · subst own
        exact .turned timer pool found op
          (by rw [written, getElem?_set_of_found found, if_pos rfl]) stored
      · exact .kept (by rw [written, getElem?_set_of_found found, if_neg own])

end Gateway

/-- The stage of a command after a turn. -/
theorem Call.Turn.stage {before after : Call α} {step : Gateway.Step α}
    (turn : Call.Turn before step after) : after.command.Stage before.config.fallbackEnabled := by
  cases turn with
  | goesOn stage lifecycle completion ledger => exact stage
  | ends running pending ending ended => exact .closed ended.closed

namespace Account

/-- The part of the order that only counts the places of the commands. -/
theorem Orderly.turn {account : Account α} {number : Nat} {command : Command α}
    {before after : Call α} (orderly : account.Orderly)
    (found : account.commands[number]? = some command) (same : before.command = command)
    (numbered : before.number = number)
    (suffix : before.dependency.waiting <:+ account.waiting)
    (stage : after.command.Stage account.settings.config.fallbackEnabled)
    (queues : Call.Queues before after) {ledger : Ledger}
    : Orderly
        { account with
          commands := account.commands.set number after.command
          waiting := after.dependency.waiting
          ledger } := by
  subst same numbered
  have distinct := orderly.distinct.sublist suffix.sublist
  have kept (other : Nat) (waits : other ∈ before.dependency.waiting)
      : ∃ command, account.commands[other]? = some command ∧ command.work = .queued :=
    orderly.queued other (suffix.subset waits)
  constructor
  · intro command member
    rcases List.mem_or_eq_of_mem_set member with member | rfl
    · exact orderly.staged command member
    · exact stage
  · cases queues with
    | stays waiting work => exact waiting ▸ distinct
    | joins waiting free work =>
        rw [waiting, List.nodup_append]
        refine ⟨distinct, by simp, ?_⟩
        rintro other waits joined new rfl
        obtain ⟨command, at_number, queued⟩ := kept other waits
        obtain rfl : other = before.number := by simpa using new
        rw [found] at at_number
        cases at_number
        exact free queued
  · intro other waits
    show ∃ command, (account.commands.set before.number after.command)[other]? = some command
      ∧ command.work = .queued
    rw [getElem?_set_of_found found]
    by_cases own : other = before.number
    · subst own
      refine ⟨after.command, if_pos rfl, ?_⟩
      cases queues with
      | stays waiting work =>
          have waited : before.number ∈ before.dependency.waiting := waiting ▸ waits
          obtain ⟨command, at_number, queued⟩ := kept before.number waited
          rw [found] at at_number
          cases at_number
          exact work queued waited
      | joins waiting free work => exact work
    · rw [if_neg own]
      cases queues with
      | stays waiting work => exact kept other (waiting ▸ waits)
      | joins waiting free work =>
          have listed : other ∈ before.dependency.waiting ++ [before.number] := waiting ▸ waits
          refine kept other ?_
          simpa [own] using listed

end Account

namespace Gateway

variable {before after : Gateway α} {step : Step α}

/-- Every step keeps the order. -/
theorem Change.orderly (change : Change before step after)
    (orderly : before.dependency.account.Orderly) : after.dependency.account.Orderly := by
  cases change with
  | moved dependency clock => exact dependency ▸ orderly
  | quiet account clock => exact account ▸ orderly
  | pumped asked clock account metrics =>
      rw [account]
      exact { orderly with }
  | @created hasFallback asked clock account =>
      rw [account]
      constructor
      · intro command member
        rcases List.mem_append.mp member with member | new
        · exact orderly.staged command member
        · obtain rfl : command = .create hasFallback := by simpa using new
          exact .idle (Command.idle_create hasFallback)
      · exact orderly.distinct
      · intro number waits
        obtain ⟨command, found, queued⟩ := orderly.queued number waits
        refine ⟨command, ?_, queued⟩
        exact (List.getElem?_append_left (List.getElem?_eq_some_iff.mp found).1).trans found
  | @taken number command outcome asked found ready clock account =>
      rw [account]
      constructor
      · intro other member
        rcases List.mem_or_eq_of_mem_set member with member | rfl
        · exact orderly.staged other member
        · have closed := (orderly.stage found).isOver_of_written (by simp [ready])
          exact .closed { closed with completion := by simp }
      · exact orderly.distinct
      · intro other waits
        obtain ⟨waiter, there, queued⟩ := orderly.queued other waits
        show ∃ command, (before.dependency.commands.set number _)[other]? = some command
          ∧ command.work = .queued
        rw [getElem?_set_of_found found]
        by_cases own : other = number
        · subst own
          rw [show before.dependency.account.commands[other]? = some command from found] at there
          cases there
          exact ⟨_, if_pos rfl, queued⟩
        · exact ⟨waiter, (if_neg own).trans there, queued⟩
  | turned timer pool found suffix op turn queues fixed stored =>
      rw [stored, Call.account_store fixed]
      exact orderly.turn found rfl rfl suffix turn.stage queues

theorem orderly_step (orderly : before.dependency.account.Orderly) (step : Step α)
    : (before.step step).dependency.account.Orderly :=
  (change_step orderly step).orderly orderly

theorem settings_run (orderly : before.dependency.account.Orderly) (steps : List (Step α))
    : (before.run steps).dependency.settings = before.dependency.settings := by
  induction steps generalizing before with
  | nil => rfl
  | cons first rest ih =>
      exact (ih (orderly_step orderly first)).trans (change_step orderly first).settings

end Gateway

end Breakwater
