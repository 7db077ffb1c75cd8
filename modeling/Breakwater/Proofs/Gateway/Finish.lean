import Breakwater.Proofs.Dependency.Built
import Breakwater.Proofs.Gateway.Order

/-! Commands end exactly once. A step either ends a command, with everything that goes with the
end, or leaves its completion and its outcome alone; what a dependency has published is what
its commands have come to.
-/

namespace Breakwater

variable {α : Type}

namespace Account

/-- How far a command has come; one that was not created has not started. -/
def lifecycle (account : Account α) (number : Nat) : Lifecycle :=
  (account.commands[number]?.map (·.lifecycle)).getD .notStarted

/-- The slot of a command's outcome; that of one that was not created is not written. -/
def slot (account : Account α) (number : Nat) : Completion α :=
  (account.commands[number]?.map (·.completion)).getD .pending

/-- The completions of one command, the earliest first. -/
def completionsOf (account : Account α) (number : Nat) : List CompletionEvent :=
  (account.completions.filter (·.1 == number)).map (·.2)

/-- How many commands are over. -/
def finished (account : Account α) : Nat := account.commands.countP (·.lifecycle.isOver)

/-- Every command that is over was published once, and nothing else was. -/
structure Balanced (account : Account α) : Prop where
  published : account.published = account.finished
  once
    : ∀ number,
        (account.completionsOf number).length
          = if (account.lifecycle number).isOver then 1 else 0

/-- A step at some time ended a command: it left its way for good, gave back what it held, and
was published with its record, and the outcome of that end was stored.
-/
structure Exit (before : Account α) (now : Nat) (step : Gateway.Step α) (number : Nat)
    (old new : Command α) (tags : List Tag) (outcome : Outcome α) (after : Account α) : Prop where
  found : before.commands[number]? = some old
  running : old.lifecycle.isOver = false
  pending : old.completion = .pending
  left : after.commands[number]? = some new
  closed : new.lifecycle.isOver
  permit : new.permit = none
  timer : new.timer = none
  gauge : new.gaugeHeld = false
  ending : Ending before.settings.key before.settings.config number step tags outcome
  tagged : new.record.tags = .ofTags tags
  stored : new.completion = .ready outcome
  completions
    : after.completions
      = before.completions ++ [(number, ⟨before.settings.metricsKey, now, new.record⟩)]
  published : after.published = before.published + 1

def Exits (before : Account α) (now : Nat) (step : Gateway.Step α) (number : Nat)
    (after : Account α) : Prop :=
  ∃ old new tags outcome, Exit before now step number old new tags outcome after

/-- A step did not end a command: nothing was published for it, and its slot was not written, but
its outcome may have been taken.
-/
structure Stays (before : Account α) (step : Gateway.Step α) (number : Nat) (after : Account α)
    : Prop where
  lifecycle
    : after.lifecycle number = before.lifecycle number
      ∨ ((before.lifecycle number).isOver = false ∧ (after.lifecycle number).isOver = false)
  completions : after.completionsOf number = before.completionsOf number
  slot
    : after.slot number = before.slot number
      ∨ (step = .take number ∧ (∃ outcome, before.slot number = .ready outcome)
          ∧ after.slot number = .consumed)

theorem Stays.refl (account : Account α) (step : Gateway.Step α) (number : Nat)
    : account.Stays step number account :=
  ⟨.inl rfl, rfl, .inl rfl⟩

theorem Stays.isOver {before after : Account α} {step : Gateway.Step α} {number : Nat}
    (stays : Stays before step number after)
    : (after.lifecycle number).isOver = (before.lifecycle number).isOver := by
  rcases stays.lifecycle with same | ⟨was, is⟩
  · rw [same]
  · rw [was, is]

theorem Exits.ends {before after : Account α} {now : Nat} {step : Gateway.Step α} {number : Nat}
    (exits : Exits before now step number after)
    : (before.lifecycle number).isOver = false ∧ (after.lifecycle number).isOver = true := by
  obtain ⟨old, new, tags, outcome, exit⟩ := exits
  simp [Account.lifecycle, exit.found, exit.left, exit.running, exit.closed]

/-- An account is not what ending a command made of it. -/
theorem Exits.irrefl {account : Account α} {now : Nat} {step : Gateway.Step α} {number : Nat}
    (exits : Exits account now step number account) : False := by
  obtain ⟨was, is⟩ := exits.ends
  rw [was] at is
  cases is

theorem Exit.slot {before after : Account α} {now : Nat} {step : Gateway.Step α} {number : Nat}
    {old new : Command α} {tags : List Tag} {outcome : Outcome α}
    (exit : Exit before now step number old new tags outcome after)
    : after.slot number = .ready outcome := by
  simp [Account.slot, exit.left, exit.stored]

theorem Stays.of_get {before after : Account α} {step : Gateway.Step α} {number : Nat}
    (same : after.commands[number]? = before.commands[number]?)
    (completions : after.completionsOf number = before.completionsOf number)
    : Stays before step number after := by
  refine ⟨.inl ?_, completions, .inl ?_⟩
  · rw [Account.lifecycle, same, Account.lifecycle]
  · rw [Account.slot, same, Account.slot]

theorem lifecycle_of_get {account : Account α} {number : Nat} {command : Command α}
    (found : account.commands[number]? = some command)
    : account.lifecycle number = command.lifecycle := by
  rw [Account.lifecycle, found]
  rfl

theorem slot_of_get {account : Account α} {number : Nat} {command : Command α}
    (found : account.commands[number]? = some command)
    : account.slot number = command.completion := by
  rw [Account.slot, found]
  rfl

theorem lifecycle_of_none {account : Account α} {number : Nat}
    (absent : account.commands[number]? = none) : account.lifecycle number = .notStarted := by
  rw [Account.lifecycle, absent]
  rfl

theorem slot_of_none {account : Account α} {number : Nat}
    (absent : account.commands[number]? = none) : account.slot number = .pending := by
  rw [Account.slot, absent]
  rfl

theorem completionsOf_append_own {before after : Account α} {number : Nat}
    {event : CompletionEvent} (told : after.completions = before.completions ++ [(number, event)])
    : after.completionsOf number = before.completionsOf number ++ [event] := by
  rw [completionsOf, told, List.filter_append, List.map_append, ← completionsOf]
  simp

theorem completionsOf_append_other {before after : Account α} {number other : Nat}
    {event : CompletionEvent} (different : number ≠ other)
    (told : after.completions = before.completions ++ [(number, event)])
    : after.completionsOf other = before.completionsOf other := by
  rw [completionsOf, told, List.filter_append, List.map_append, ← completionsOf]
  simp [different]

end Account

open Account

namespace Gateway

variable {before after : Gateway α} {step : Step α}

/-- A step ends a command or leaves it alone, as far as its end is concerned. -/
theorem Change.exits_or_stays (change : Change before step after) (number : Nat)
    : Exits before.dependency.account before.clock.now step number after.dependency.account
      ∨ Stays before.dependency.account step number after.dependency.account := by
  cases change with
  | moved dependency clock =>
      rw [dependency]
      exact .inr (.refl _ _ _)
  | quiet account clock =>
      rw [account]
      exact .inr (.refl _ _ _)
  | pumped asked clock account metrics =>
      rw [account]
      exact .inr (.of_get rfl rfl)
  | @created hasFallback asked clock account =>
      rw [account]
      -- The new command looks like one that was not created.
      rcases getElem?_snoc_cases before.dependency.commands (.create hasFallback) number with
        same | ⟨absent, new⟩
      · exact .inr (.of_get same rfl)
      · refine .inr ⟨.inl ?_, rfl, .inl ?_⟩
        · exact (lifecycle_of_get new).trans (lifecycle_of_none absent).symm
        · exact (slot_of_get new).trans (slot_of_none absent).symm
  | @taken taker command outcome asked found ready clock account =>
      rw [account]
      right
      by_cases own : number = taker
      · subst own
        have new := (getElem?_set_of_found found { command with completion := .consumed }
          number).trans (if_pos rfl)
        refine ⟨.inl ?_, rfl, .inr ⟨asked, ⟨outcome, ?_⟩, ?_⟩⟩
        · rw [lifecycle_of_get new, lifecycle_of_get found]
        · rw [slot_of_get found, ready]
        · rw [slot_of_get new]
      · exact .of_get ((getElem?_set_of_found found _ _).trans (if_neg own)) rfl
  | @turned timer pool worker command call found suffix op turn queues fixed stored =>
      rw [stored, Call.account_store fixed]
      have new := getElem?_set_of_found found call.command number
      cases turn with
      | goesOn stage lifecycle completion ledger =>
          rw [ledger]
          right
          by_cases own : number = worker
          · subst own
            rw [if_pos rfl] at new
            refine ⟨?_, rfl, .inl ?_⟩
            · rw [lifecycle_of_get new, lifecycle_of_get found]
              exact lifecycle
            · rw [slot_of_get new, slot_of_get found]
              exact completion
          · exact .of_get (new.trans (if_neg own)) rfl
      | @ends tags outcome running pending ending ended =>
          rw [ended.told]
          by_cases own : number = worker
          · subst own
            rw [if_pos rfl] at new
            exact .inl ⟨command, call.command, tags, outcome, {
              found, running, pending, ending
              left := new
              closed := ended.closed.lifecycle
              permit := ended.permit
              timer := ended.closed.timer
              gauge := ended.gauge
              tagged := ended.tags
              stored := ended.stored
              completions := rfl
              published := rfl }⟩
          · refine .inr (.of_get (new.trans (if_neg own)) ?_)
            exact completionsOf_append_other (Ne.symm own) rfl

end Gateway

end Breakwater
