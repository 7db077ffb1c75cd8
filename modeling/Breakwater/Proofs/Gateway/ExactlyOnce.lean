import Breakwater.Proofs.Gateway.Finish

/-! Whatever happens to the commands of a dependency, in whatever order: each of them ends at most
once, is published at that end and never else, and its outcome is stored then and handed out
once.
-/

namespace Breakwater

variable {α : Type}

open Account

-----------------------------------------------------------------------------------------
-- Balance
-----------------------------------------------------------------------------------------

/-- How many commands are over after one place was written. -/
theorem countP_isOver_set {commands : List (Command α)} {number : Nat} {old : Command α}
    (found : commands[number]? = some old) (new : Command α)
    : (commands.set number new).countP (·.lifecycle.isOver)
          + (if old.lifecycle.isOver then 1 else 0)
        = commands.countP (·.lifecycle.isOver) + if new.lifecycle.isOver then 1 else 0 := by
  obtain ⟨inside, rfl⟩ := List.getElem?_eq_some_iff.mp found
  rw [List.countP_set inside]
  by_cases closed : commands[number].lifecycle.isOver
  · have counted : 0 < commands.countP (·.lifecycle.isOver) :=
      List.countP_pos_iff.mpr ⟨_, List.getElem_mem inside, closed⟩
    simp only [closed, if_true]
    omega
  · simp [closed]

namespace Gateway

variable {before after : Gateway α} {step : Step α}

/-- What is published grows with the commands that are over. -/
theorem Change.published (change : Change before step after)
    (published : before.dependency.account.published = before.dependency.account.finished)
    : after.dependency.account.published = after.dependency.account.finished := by
  cases change with
  | moved dependency clock => rw [dependency, published]
  | quiet account clock => rw [account, published]
  | pumped asked clock account metrics =>
      rw [account]
      exact published
  | created asked clock account =>
      rw [account]
      refine published.trans ?_
      simp only [finished, List.countP_append]
      rfl
  | @taken number command outcome asked found ready clock account =>
      rw [account]
      have counted := countP_isOver_set found { command with completion := .consumed }
      exact published.trans (Nat.add_right_cancel counted).symm
  | @turned timer pool number command call found suffix op turn queues fixed stored =>
      rw [stored, Call.account_store fixed]
      have counted := countP_isOver_set found call.command
      cases turn with
      | goesOn stage lifecycle completion ledger =>
          have same : call.command.lifecycle.isOver = command.lifecycle.isOver := by
            rcases lifecycle with same | ⟨was, is⟩
            · exact congrArg Lifecycle.isOver same
            · exact is.trans was.symm
          rw [ledger]
          rw [same] at counted
          exact published.trans (Nat.add_right_cancel counted).symm
      | ends running pending ending ended =>
          have closed := ended.closed.lifecycle
          have was : command.lifecycle.isOver = false := running
          rw [ended.told]
          simp only [was, closed, Bool.false_eq_true, if_false, if_true, Nat.add_zero] at counted
          exact (congrArg (· + 1) published).trans counted.symm

theorem Change.balanced (change : Change before step after)
    (balanced : before.dependency.account.Balanced) : after.dependency.account.Balanced := by
  refine ⟨change.published balanced.published, ?_⟩
  intro number
  rcases change.exits_or_stays number with exits | stays
  · obtain ⟨was, is⟩ := exits.ends
    obtain ⟨old, new, tags, outcome, exit⟩ := exits
    have once := balanced.once number
    rw [was] at once
    rw [is, completionsOf_append_own exit.completions, List.length_append, once]
    rfl
  · rw [stays.completions, stays.isOver]
    exact balanced.once number

/-- What every step keeps from the start on. -/
structure Sound (gateway : Gateway α) : Prop where
  orderly : gateway.dependency.account.Orderly
  balanced : gateway.dependency.account.Balanced

theorem sound_step (sound : before.Sound) (step : Step α) : (before.step step).Sound :=
  ⟨orderly_step sound.orderly step, (change_step sound.orderly step).balanced sound.balanced⟩

theorem sound_of_justBuilt (built : before.JustBuilt) : before.Sound := by
  obtain ⟨builder, assembled⟩ := built
  obtain ⟨metrics, created, same⟩ := DependencyBuilder.assemble_eq_ok assembled
  obtain ⟨_, _, _, rfl⟩ := Metrics.create_eq_ok created
  have waiting : before.dependency.account.waiting = [] := by
    rw [same]
    show (builder.freshPool.map (·.queue)).getD [] = []
    cases fresh : builder.freshPool with
    | none => rfl
    | some pool => exact builder.queue_of_freshPool fresh
  constructor
  · constructor
    · rw [same]
      rintro command ⟨⟩
    · rw [waiting]
      exact List.nodup_nil
    · intro number waits
      rw [waiting] at waits
      cases waits
  · constructor
    · rw [same]
      rfl
    · intro number
      rw [same]
      rfl

theorem sound_run (sound : before.Sound) (steps : List (Step α)) : (before.run steps).Sound :=
  run_keeps Sound (fun _ step sound => sound_step sound step) sound steps

-----------------------------------------------------------------------------------------
-- After the end
-----------------------------------------------------------------------------------------

/-- A command that is over is never ended again. -/
theorem stays_of_isOver (sound : before.Sound) {number : Nat}
    (closed : (before.dependency.account.lifecycle number).isOver) (step : Step α)
    : Stays before.dependency.account step number (before.step step).dependency.account := by
  rcases (change_step sound.orderly step).exits_or_stays number with exits | stays
  · have was := exits.ends.1
    simp [closed] at was
  · exact stays

/-- However long a run goes on, nothing more happens to a command that is over than that its
outcome is taken.
-/
theorem run_of_isOver (sound : before.Sound) {number : Nat}
    (closed : (before.dependency.account.lifecycle number).isOver) (steps : List (Step α))
    : (before.run steps).dependency.account.lifecycle number
          = before.dependency.account.lifecycle number
        ∧ (before.run steps).dependency.account.completionsOf number
          = before.dependency.account.completionsOf number
        ∧ ((before.run steps).dependency.account.slot number
              = before.dependency.account.slot number
            ∨ (before.run steps).dependency.account.slot number = .consumed) := by
  induction steps generalizing before with
  | nil => exact ⟨rfl, rfl, .inl rfl⟩
  | cons first rest ih =>
      have stays := stays_of_isOver sound closed first
      have still : ((before.step first).dependency.account.lifecycle number).isOver := by
        rw [stays.isOver, closed]
      obtain ⟨lifecycle, completions, slot⟩ := ih (sound_step sound first) still
      refine ⟨?_, completions.trans stays.completions, ?_⟩
      · rcases stays.lifecycle with same | ⟨was, _⟩
        · exact lifecycle.trans same
        · simp [closed] at was
      · rcases slot with same | taken
        · rcases stays.slot with kept | ⟨_, _, taken⟩
          · exact .inl (same.trans kept)
          · exact .inr (same.trans taken)
        · exact .inr taken

-----------------------------------------------------------------------------------------
-- Cancelling and taking
-----------------------------------------------------------------------------------------

/-- What the caller is handed depends on the slot alone. -/
theorem take_answer (gateway : Gateway α) (number : Nat)
    : (gateway.take number).1
      = match gateway.dependency.account.slot number with
        | .pending => none
        | .ready outcome => some outcome
        | .consumed => some (.error (.invalidState gateway.dependency.key "Consumed")) := by
  simp only [take]
  cases found : gateway.dependency.commands[number]? with
  | none =>
      have slot : gateway.dependency.account.slot number = .pending := slot_of_none found
      rw [slot]
  | some command =>
      have slot : gateway.dependency.account.slot number = command.completion :=
        slot_of_get found
      rw [slot]
      cases written : command.completion <;> simp [written]

/-- Once taken, an outcome is gone. -/
theorem slot_take {gateway : Gateway α} {number : Nat} {outcome : Outcome α}
    (ready : gateway.dependency.account.slot number = .ready outcome)
    : (gateway.step (.take number)).dependency.account.slot number = .consumed := by
  cases found : gateway.dependency.commands[number]? with
  | none =>
      rw [show gateway.dependency.account.slot number = .pending from slot_of_none found] at ready
      cases ready
  | some command =>
      rw [show gateway.dependency.account.slot number = command.completion from
        slot_of_get found] at ready
      have taken
          : (gateway.step (.take number)).dependency.account.commands
            = gateway.dependency.commands.set number { command with completion := .consumed } := by
        show (gateway.take number).2.dependency.commands = _
        simp only [take, found, ready]
        rfl
      have written
          : (gateway.step (.take number)).dependency.account.commands[number]?
            = some { command with completion := .consumed } := by
        rw [taken, getElem?_set_of_found found, if_pos rfl]
      exact slot_of_get written

/-- A command that is cancelled is unsubscribed. -/
theorem lifecycle_abandon {number : Nat} {command : Command α}
    (found : before.dependency.commands[number]? = some command)
    : (Call.abandon ⟨before, number, command⟩).store.dependency.account.lifecycle number
      = .unsubscribed := by
  rw [Call.account_store (Call.fixed_of_frame (Call.frame_abandon _))]
  have written := (getElem?_set_of_found found
    (Call.abandon ⟨before, number, command⟩).command number).trans (if_pos rfl)
  refine (lifecycle_of_get written).trans ?_
  simp [Call.abandon, Command.cleaned]

/-- The caller is told of a cancellation exactly when that ended the command. -/
theorem cancel_iff_exits (sound : before.Sound) (number : Nat)
    : (before.cancel number).1 = true
      ↔ Exits before.dependency.account before.clock.now (.cancel number) number
          (before.cancel number).2.dependency.account := by
  have change := (change_cancel sound.orderly number).exits_or_stays number
  revert change
  simp only [cancel]
  cases found : before.dependency.commands[number]? with
  | none =>
      intro _
      exact ⟨fun told => absurd told Bool.false_ne_true, fun exits => exits.irrefl.elim⟩
  | some command =>
      dsimp only
      split
      · rename_i allowed
        simp only [Bool.and_eq_true] at allowed
        have was : before.dependency.account.lifecycle number = command.lifecycle :=
          lifecycle_of_get found
        rintro (exits | stays)
        · exact ⟨fun _ => exits, fun _ => rfl⟩
        · have same := stays.isOver
          rw [was, lifecycle_abandon found, Lifecycle.isOver_of_isActive allowed.1] at same
          cases same
      · intro _
        exact ⟨fun told => absurd told Bool.false_ne_true, fun exits => exits.irrefl.elim⟩

/-- The slot of a command is written exactly while it is over. -/
theorem slot_pending_iff (sound : before.Sound) (number : Nat)
    : before.dependency.account.slot number = .pending
      ↔ (before.dependency.account.lifecycle number).isOver = false := by
  cases found : before.dependency.commands[number]? with
  | none =>
      have slot : before.dependency.account.slot number = .pending := slot_of_none found
      have lifecycle : before.dependency.account.lifecycle number = .notStarted :=
        lifecycle_of_none found
      rw [slot, lifecycle]
      exact ⟨fun _ => rfl, fun _ => rfl⟩
  | some command =>
      have slot : before.dependency.account.slot number = command.completion := slot_of_get found
      have lifecycle : before.dependency.account.lifecycle number = command.lifecycle :=
        lifecycle_of_get found
      rw [slot, lifecycle]
      cases sound.orderly.stage found with
      | idle idle => simp [idle.completion, idle.lifecycle, Lifecycle.isOver]
      | undecided undecided =>
          simp [undecided.completion, Lifecycle.isOver_of_isActive undecided.isActive]
      | rescuing on rescuing =>
          simp [rescuing.completion, Lifecycle.isOver_of_isActive rescuing.lifecycle]
      | closed closed => simp [closed.completion, closed.lifecycle]

/-- Commands end exactly once from here on, and have done so until now. -/
structure ExactlyOnce (gateway : Gateway α) : Prop where
  /-- As many events were published as commands are over. -/
  published : gateway.dependency.metrics.bus.published = gateway.dependency.account.finished
  /-- Each command that is over was published once, and no other command was. -/
  once
    : ∀ number,
        (gateway.dependency.account.completionsOf number).length
          = if (gateway.dependency.account.lifecycle number).isOver then 1 else 0
  /-- The outcome of a command is stored exactly when it is over. -/
  stored
    : ∀ number,
        gateway.dependency.account.slot number = .pending
          ↔ (gateway.dependency.account.lifecycle number).isOver = false
  /-- A step ends a command, with all that belongs to the end, or leaves its end alone. -/
  steps
    : ∀ step number,
        Exits gateway.dependency.account gateway.clock.now step number
            (gateway.step step).dependency.account
          ∨ Stays gateway.dependency.account step number (gateway.step step).dependency.account
  /-- No run ends a command again. -/
  final
    : ∀ number, (gateway.dependency.account.lifecycle number).isOver → ∀ later,
        (gateway.run later).dependency.account.lifecycle number
            = gateway.dependency.account.lifecycle number
          ∧ (gateway.run later).dependency.account.completionsOf number
            = gateway.dependency.account.completionsOf number
          ∧ ((gateway.run later).dependency.account.slot number
                = gateway.dependency.account.slot number
              ∨ (gateway.run later).dependency.account.slot number = .consumed)
  /-- A cancellation is confirmed exactly when it ended the command. -/
  cancelled
    : ∀ number,
        (gateway.cancel number).1 = true
          ↔ Exits gateway.dependency.account gateway.clock.now (.cancel number) number
              (gateway.step (.cancel number)).dependency.account
  /-- Before the end nothing is handed out. -/
  waits
    : ∀ number, (gateway.dependency.account.lifecycle number).isOver = false
        → (gateway.take number).1 = none
  /-- The stored outcome is handed out once; every later request is told so. -/
  handsOut
    : ∀ number outcome, gateway.dependency.account.slot number = .ready outcome
        → (gateway.take number).1 = some outcome
          ∧ ∀ later,
              (((gateway.step (.take number)).run later).take number).1
                = some (.error (.invalidState gateway.dependency.key "Consumed"))

theorem exactlyOnce_of_sound (sound : before.Sound) : before.ExactlyOnce where
  published := sound.balanced.published
  once := sound.balanced.once
  stored := slot_pending_iff sound
  steps step number := (change_step sound.orderly step).exits_or_stays number
  final _ closed later := run_of_isOver sound closed later
  cancelled := cancel_iff_exits sound
  waits number running := by
    rw [take_answer, (slot_pending_iff sound number).mpr running]
  handsOut number outcome ready := by
    refine ⟨by rw [take_answer, ready], ?_⟩
    intro later
    have taken := slot_take ready
    have after := sound_step sound (.take number)
    have closed : ((before.step (.take number)).dependency.account.lifecycle number).isOver := by
      have written := mt (slot_pending_iff after number).mpr
      rw [taken] at written
      simpa using written (by simp)
    obtain ⟨_, _, slot⟩ := run_of_isOver after closed later
    have consumed
        : ((before.step (.take number)).run later).dependency.account.slot number = .consumed :=
      slot.elim (·.trans taken) id
    have key : ((before.step (.take number)).run later).dependency.key = before.dependency.key :=
      congrArg Settings.key (settings_run sound.orderly (.take number :: later))
    rw [take_answer, consumed, key]

/-- Whatever steps a dependency takes, in whatever order, its commands end exactly once. -/
theorem ends_exactly_once (built : before.JustBuilt) (steps : List (Step α))
    : (before.run steps).ExactlyOnce :=
  exactlyOnce_of_sound (sound_run (sound_of_justBuilt built) steps)

/-- A success that is taken, after which a cancellation comes too late. -/
theorem ends_exactly_once_success
    : let start : Gateway Nat := ofBuilder { key := "sample" } rfl
      let steps : List (Step Nat) :=
        [.create true, .submit 0, .workReturned 0 (.ok 7), .cancel 0, .take 0]
      start.JustBuilt ∧ (start.run steps).ExactlyOnce
        ∧ (start.run steps).dependency.account.finished = 1
        ∧ (start.run steps).dependency.account.slot 0 = .consumed :=
  have built := justBuilt_ofBuilder { key := "sample" } rfl
  ⟨built, ends_exactly_once built _, rfl, rfl⟩

end Gateway

end Breakwater
