import Breakwater.Proofs.Gateway.Admissions
import Breakwater.Proofs.Gateway.Timeouts

/-! Nothing that a dependency lends to its commands is lost: places in its two semaphores, the count
of commands that run their work, and the timeouts that are armed are at any time those of the
commands that have them.
-/

namespace Breakwater

variable {α : Type}

-----------------------------------------------------------------------------------------
-- Places in the fallback semaphore
-----------------------------------------------------------------------------------------

/-- Whether a permit takes a place in the fallback semaphore. -/
def OutsidePermit.takesFallback (held : OutsidePermit) : Bool :=
  held.bulkhead == .fallback && !held.permit.released

/-- The places that are taken in the fallback semaphore are those of fallbacks that run, and of
permits outside of commands.
-/
def Loans.Shared (loans : Loans) (commands : List (Command α)) : Prop :=
  loans.fallbackSemaphore.acquired
    = loans.outside.countP OutsidePermit.takesFallback
      + commands.countP (fun command => command.fallback.isRunning)

theorem Semaphore.acquired_of_tryAcquire {semaphore left : Semaphore} {permit : Permit}
    (acquired : semaphore.tryAcquire = some (permit, left))
    : permit = ⟨false⟩ ∧ left.acquired = semaphore.acquired + 1 := by
  unfold tryAcquire at acquired
  split at acquired
  · cases acquired
    exact ⟨rfl, rfl⟩
  · cases acquired

theorem shared_acquireOutside {dependency : Dependency α} {commands : List (Command α)}
    (shared : dependency.loans.Shared commands) (bulkhead : Bulkhead)
    : (dependency.acquireOutside bulkhead).2.loans.Shared commands := by
  simp only [Dependency.acquireOutside]
  split
  · exact shared
  · rename_i permit semaphore acquired
    obtain ⟨rfl, grown⟩ := Semaphore.acquired_of_tryAcquire acquired
    let taken : OutsidePermit := ⟨bulkhead, ⟨false⟩⟩
    have counted : (dependency.outside ++ [taken]).countP OutsidePermit.takesFallback
        = dependency.outside.countP OutsidePermit.takesFallback + taken.takesFallback.toNat := by
      rw [List.countP_append]
      cases bulkhead <;> rfl
    unfold Loans.Shared at shared ⊢
    cases bulkhead with
    | main =>
        show dependency.fallbackSemaphore.acquired = (dependency.outside ++ [taken]).countP _ + _
        rw [counted]
        exact shared
    | fallback =>
        show semaphore.acquired = (dependency.outside ++ [taken]).countP _ + _
        rw [counted, grown]
        show dependency.loans.fallbackSemaphore.acquired + 1
          = dependency.loans.outside.countP _ + 1 + _
        omega

theorem shared_releaseOutside {dependency : Dependency α} {commands : List (Command α)}
    (shared : dependency.loans.Shared commands) (number : Nat)
    : (dependency.releaseOutside number).loans.Shared commands := by
  simp only [Dependency.releaseOutside]
  split
  · exact shared
  · rename_i held found
    obtain ⟨others, counted, written⟩ := countP_set_split found OutsidePermit.takesFallback
    obtain ⟨bulkhead, ⟨released⟩⟩ := held
    have before : dependency.fallbackSemaphore.acquired = dependency.outside.countP _ + _ := shared
    unfold Loans.Shared
    cases bulkhead with
    | main =>
        show dependency.fallbackSemaphore.acquired
          = (dependency.outside.set number ⟨.main, _⟩).countP _ + _
        rw [written, before, counted]
        rfl
    | fallback =>
        cases released with
        | true =>
            show dependency.fallbackSemaphore.acquired
              = (dependency.outside.set number ⟨.fallback, ⟨true⟩⟩).countP _ + _
            rw [written, before, counted]
        | false =>
            show dependency.fallbackSemaphore.acquired - 1
              = (dependency.outside.set number ⟨.fallback, ⟨true⟩⟩).countP _ + _
            rw [written, before, counted]
            show others + 1 + _ - 1 = others + _
            omega

/-- A command that goes on changes the places that are taken by its own at most. -/
theorem Call.Share.acquired {before after : Call α} (share : Call.Share before after) {others : Nat}
    (acquired
      : before.dependency.fallbackSemaphore.acquired
        = others + before.command.fallback.isRunning.toNat)
    : after.dependency.fallbackSemaphore.acquired
      = others + after.command.fallback.isRunning.toNat := by
  cases share with
  | kept phase semaphore => rw [phase, semaphore, acquired]
  | taken free running semaphore =>
      rw [(Semaphore.acquired_of_tryAcquire semaphore).2, acquired, free, running]
      rfl
  | returned running finished semaphore =>
      rw [semaphore, finished]
      rw [running] at acquired
      show before.dependency.fallbackSemaphore.acquired - 1 = others
      rw [acquired]
      rfl

-----------------------------------------------------------------------------------------
-- The count of commands that run their work
-----------------------------------------------------------------------------------------

/-- A command that goes on is counted while it runs its work. -/
theorem Call.Move.running {before after : Call α} {step : Gateway.Step α}
    (move : Call.Move before step after) {pooled : Bool} (tidy : before.command.Tidy pooled)
    {others : Nat}
    (counted : before.dependency.diary.running = others + before.command.gaugeHeld.toNat)
    : after.dependency.diary.running = others + after.command.gaugeHeld.toNat := by
  have kept (diary : after.dependency.diary = before.dependency.diary)
      (gauge : after.command.gaugeHeld = before.command.gaugeHeld)
      : after.dependency.diary.running = others + after.command.gaugeHeld.toNat := by
    rw [diary, gauge, counted]
  have started (diary : after.dependency.diary = before.dependency.diary.start before.number)
      (early : before.command.lifecycle ≠ .userCodeExecuted)
      (gauge : after.command.gaugeHeld = true)
      : after.dependency.diary.running = others + after.command.gaugeHeld.toNat := by
    have free : before.command.gaugeHeld = false :=
      tidy.counted.trans (beq_eq_false_iff_ne.mpr early)
    rw [diary, Diary.start, counted, free, gauge]
    rfl
  cases move with
  | rests keeps phase semaphore record => exact kept keeps.diary keeps.gauge
  | parks admits pool command diary => exact kept diary (by rw [command])
  | enters permit admits noPool command diary =>
      exact started diary (admits.notStarted ▸ nofun) (by rw [command]; rfl)
  | begins asked queued created inTime begins =>
      exact started begins.diary (created ▸ nofun) (by rw [begins.command]; rfl)
  | rescues running rescues => exact kept rescues.diary rescues.gauge
  | ends running closes =>
      rw [closes.diary, Diary.finish, counted, closes.gauge]
      exact Nat.add_sub_cancel _ _
  | late asked isOver running keeps share record => exact kept keeps.diary keeps.gauge

namespace Gateway

variable {before after start : Gateway α} {step : Step α}

/-- The places in the fallback semaphore and the count of running work are those of the commands. -/
structure Tended (gateway : Gateway α) : Prop where
  counted
    : gateway.dependency.diary.running = gateway.dependency.commands.countP (·.gaugeHeld)
  shared : gateway.dependency.loans.Shared gateway.dependency.commands

theorem Tended.of_same (tended : before.Tended)
    (diary : after.dependency.diary = before.dependency.diary)
    (commands : after.dependency.commands = before.dependency.commands)
    (loans : after.dependency.loans = before.dependency.loans) : after.Tended := by
  constructor
  · rw [diary, commands]
    exact tended.counted
  · rw [loans, commands]
    exact tended.shared

theorem Change.tended (change : Change before step after) (kempt : before.Kempt)
    (tended : before.Tended) : after.Tended := by
  cases change with
  | moved dependency clock aside =>
      exact tended.of_same (by rw [dependency]) (by rw [dependency]) (by rw [dependency])
  | quiet account clock lends aside =>
      have commands : after.dependency.commands = before.dependency.commands :=
        congrArg Account.commands account
      cases lends with
      | kept loans => exact tended.of_same aside.diary commands loans
      | acquired bulkhead =>
          refine ⟨by rw [aside.diary, commands]; exact tended.counted, ?_⟩
          rw [commands]
          exact shared_acquireOutside tended.shared bulkhead
      | released permit =>
          refine ⟨by rw [aside.diary, commands]; exact tended.counted, ?_⟩
          rw [commands]
          exact shared_releaseOutside tended.shared permit
  | pumped asked clock account metrics loans aside =>
      exact tended.of_same aside.diary (congrArg Account.commands account) loans
  | @created hasFallback asked clock account loans aside =>
      have commands : after.dependency.commands
          = before.dependency.commands ++ [.create hasFallback] :=
        congrArg Account.commands account
      have idle : (Command.create hasFallback : Command α).fallback.isRunning = false := by
        cases hasFallback <;> rfl
      constructor
      · rw [aside.diary, commands, List.countP_append]
        exact tended.counted
      · rw [loans, commands, Loans.Shared, List.countP_append, List.countP_singleton, idle]
        exact tended.shared
  | @taken number command outcome asked found ready clock account loans aside =>
      have commands : after.dependency.commands
          = before.dependency.commands.set number { command with completion := .consumed } :=
        congrArg Account.commands account
      obtain ⟨others, counted, written⟩ := countP_set_split found (fun command => command.gaugeHeld)
      obtain ⟨resting, shared, rewritten⟩ :=
        countP_set_split found (fun command => command.fallback.isRunning)
      constructor
      · rw [aside.diary, commands, written, tended.counted, counted]
      · rw [loans, commands, Loans.Shared, rewritten, tended.shared, shared]
  | @turned timer pool number command call found suffix op turn queues fixed stored draws fires =>
      have move := kempt.move found op
      have commands : after.dependency.commands
          = before.dependency.commands.set number call.command :=
        stored ▸ Call.commands_store fixed
      obtain ⟨others, counted, written⟩ := countP_set_split found (fun command => command.gaugeHeld)
      obtain ⟨resting, shared, rewritten⟩ :=
        countP_set_split found (fun command => command.fallback.isRunning)
      constructor
      · rw [commands, written, stored]
        refine move.running (kempt.tidy.of_found found) ?_
        exact tended.counted.trans counted
      · have outside : call.dependency.outside = before.dependency.outside :=
          congrArg Fixed.outside fixed
        rw [commands, Loans.Shared, rewritten, stored]
        show call.dependency.fallbackSemaphore.acquired = call.dependency.outside.countP _ + _
        -- The permits outside and the other commands are what the share of this one adds to.
        rw [outside, ← Nat.add_assoc]
        refine move.share.acquired ?_
        rw [Nat.add_assoc]
        exact tended.shared.trans (congrArg _ shared)

theorem tended_of_justBuilt (built : start.JustBuilt) : start.Tended := by
  obtain ⟨builder, assembled⟩ := built
  obtain ⟨metrics, created, same⟩ := DependencyBuilder.assemble_eq_ok assembled
  obtain ⟨_, _, _, rfl⟩ := Metrics.create_eq_ok created
  constructor
  · rw [same]
    rfl
  · rw [same]
    rfl

theorem tended_run (built : start.JustBuilt) (steps : List (Step α))
    : (start.run steps).Tended := by
  induction steps using run_induction with
  | nil => exact tended_of_justBuilt built
  | snoc steps last ih =>
      have kempt := kempt_run (kempt_of_justBuilt built) steps
      rw [run_snoc]
      exact (change_step kempt.orderly last).tended kempt ih

-----------------------------------------------------------------------------------------
-- Nothing is lost
-----------------------------------------------------------------------------------------

/-- Whatever the commands of a run hold at its end is what they have a use for. -/
structure NothingLost (start : Gateway α) (steps : List (Step α)) : Prop where
  /-- Places are taken by permits outside of commands, and by the commands that a semaphore admitted
  and that have not ended.
  -/
  permits
    : (start.run steps).dependency.semaphore.acquired
      = (start.run steps).dependency.outside.countP OutsidePermit.takesPlace
        + (start.run steps).dependency.commands.countP fun command =>
            (start.run steps).dependency.config.isolation == .semaphore && command.isAdmitted
              && !command.lifecycle.isOver
  admitted
    : ∀ number command, (start.run steps).dependency.commands[number]? = some command
        → (command.isAdmitted ↔ WasAdmitted start steps number)
  concurrent
    : (start.run steps).dependency.metrics.concurrent
      = (start.run steps).dependency.commands.countP (·.lifecycle == .userCodeExecuted)
  /-- A timeout is armed exactly if it was so at some moment and its command is still unclaimed. -/
  armed
    : ∀ number,
        (⟨start.dependency.id, number⟩ : CommandRef) ∈ (start.run steps).timer.armed
          ↔ HadTimeout start steps number
            ∧ ∃ command,
                (start.run steps).dependency.commands[number]? = some command
                  ∧ command.timeout = .notExecuted
  armedOnce
    : ∀ number, (start.run steps).timer.armed.count ⟨start.dependency.id, number⟩ ≤ 1
  fallbacks
    : (start.run steps).dependency.fallbackSemaphore.acquired
      = (start.run steps).dependency.outside.countP OutsidePermit.takesFallback
        + (start.run steps).dependency.commands.countP (·.fallback.isRunning)

/-- Only what is held outside of commands is left. -/
structure AllReturned (gateway : Gateway α) : Prop where
  permits
    : gateway.dependency.semaphore.acquired
      = gateway.dependency.outside.countP OutsidePermit.takesPlace
  concurrent : gateway.dependency.metrics.concurrent = 0
  armed : ∀ number, (⟨gateway.dependency.id, number⟩ : CommandRef) ∉ gateway.timer.armed
  fallbacks
    : gateway.dependency.fallbackSemaphore.acquired
      = gateway.dependency.outside.countP OutsidePermit.takesFallback

/-- All commands that were submitted have ended, and all fallbacks have returned. -/
def AtRest (gateway : Gateway α) : Prop :=
  ∀ command ∈ gateway.dependency.commands,
    (command.lifecycle = .notStarted ∨ command.lifecycle.isOver)
      ∧ command.fallback.isRunning = false

theorem Kempt.concurrent (kempt : before.Kempt) (tended : before.Tended)
    : before.dependency.metrics.concurrent
      = before.dependency.commands.countP (·.lifecycle == .userCodeExecuted) := by
  refine tended.counted.trans (List.countP_congr fun command member => ?_)
  rw [(kempt.tidy command member).counted]

theorem Kempt.permits (kempt : before.Kempt)
    : before.dependency.semaphore.acquired
      = before.dependency.outside.countP OutsidePermit.takesPlace
        + before.dependency.commands.countP fun command =>
            before.dependency.config.isolation == .semaphore && command.isAdmitted
              && !command.lifecycle.isOver := by
  have pooled : (!before.isPooled) = (before.dependency.config.isolation == .semaphore) := by
    unfold isPooled
    cases before.dependency.config.isolation <;> rfl
  refine kempt.accounted.acquired.trans (congrArg _ (List.countP_congr fun command member => ?_))
  rw [(kempt.tidy command member).placed, pooled]
  rfl

/-- A command that was not submitted, or has ended, has nothing to give back. -/
theorem AtRest.allReturned (atRest : before.AtRest) (kempt : before.Kempt) (timed : before.Timed)
    (tended : before.Tended) : before.AllReturned := by
  -- A command that was not submitted holds no place, and no timeout.
  have idle {command : Command α} (member : command ∈ before.dependency.commands)
      (notStarted : command.lifecycle = .notStarted)
      : command.permit = none ∧ command.timer = none := by
    have idle := (kempt.orderly.staged command member).isIdle notStarted
    exact ⟨(kempt.accounted.placed command member).spare idle.work, idle.timer⟩
  constructor
  · have free : before.dependency.commands.countP (·.permit.isSome) = 0 := by
      refine List.countP_eq_zero.mpr fun command member held => ?_
      rcases (atRest command member).1 with notStarted | isOver
      · rw [(idle member notStarted).1] at held
        cases held
      · rw [(kempt.tidy command member).placed, isOver, Bool.not_true, Bool.and_false] at held
        cases held
    exact kempt.accounted.acquired.trans (congrArg _ free)
  · rw [kempt.concurrent tended]
    refine List.countP_eq_zero.mpr fun command member runs => ?_
    rcases (atRest command member).1 with notStarted | isOver
    · rw [notStarted] at runs
      cases runs
    · exact (Lifecycle.ne_of_isOver isOver).1 (beq_iff_eq.mp runs)
  · intro number armed
    obtain ⟨command, found, unclaimed, held⟩ := (timed.mem_armed_iff number).mp armed
    have member := List.mem_of_getElem? found
    have disarmed : command.timer = none := by
      rcases (atRest command member).1 with notStarted | isOver
      · exact (idle member notStarted).2
      · exact ((kempt.orderly.staged command member).isClosed isOver).timer
    rw [disarmed] at held
    cases held
  · have free : before.dependency.commands.countP (·.fallback.isRunning) = 0 :=
      List.countP_eq_zero.mpr fun command member => by rw [(atRest command member).2]; exact nofun
    exact tended.shared.trans (congrArg _ free)

/-- Whatever steps a dependency takes, in whatever order, its commands hold nothing that they have
no use for, and nothing at all once they have ended.
-/
theorem nothing_is_lost (built : start.JustBuilt) (fresh : start.FreshTimer) (steps : List (Step α))
    : NothingLost start steps ∧ ((start.run steps).AtRest → (start.run steps).AllReturned) := by
  have kempt := kempt_run (kempt_of_justBuilt built) steps
  have timed := timed_run (kempt_of_justBuilt built) (timed_of_fresh built fresh) steps
  have tended := tended_run built steps
  refine ⟨⟨kempt.permits, fun number command found => isAdmitted_run_iff built steps found,
    kempt.concurrent tended, ?_, fun number => ?_, tended.shared⟩,
    fun atRest => atRest.allReturned kempt timed tended⟩
  · exact mem_armed_run (kempt_of_justBuilt built) (timed_of_fresh built fresh) steps
  · rw [← id_run (kempt_of_justBuilt built) steps, timed.count_armed]
    exact Bool.toNat_le _

/-- A command whose fallback returns leaves its place to a permit outside of commands. -/
theorem nothing_is_lost_rescued
    : let start : Gateway Nat := ofBuilder { key := "sample" } rfl
      let steps : List (Step Nat) :=
        [.create true, .submit 0, .acquireOutside .fallback,
          .workReturned 0 (.error (.plain "down")), .fallbackReturned 0 (.ok 5)]
      start.JustBuilt ∧ start.FreshTimer ∧ (start.run steps).AtRest
        ∧ NothingLost start steps ∧ (start.run steps).AllReturned
        ∧ (start.run (steps.take 4)).dependency.fallbackSemaphore.acquired = 2
        ∧ (start.run steps).dependency.fallbackSemaphore.acquired = 1 := by
  intro start steps
  have built : start.JustBuilt := justBuilt_ofBuilder _ _
  have fresh : start.FreshTimer := ⟨"sample", [], rfl⟩
  have atRest : (start.run steps).AtRest := by
    unfold AtRest
    decide +kernel
  obtain ⟨lost, returned⟩ := nothing_is_lost built fresh steps
  exact ⟨built, fresh, atRest, lost, returned atRest, by decide +kernel, by decide +kernel⟩

end Gateway

end Breakwater
