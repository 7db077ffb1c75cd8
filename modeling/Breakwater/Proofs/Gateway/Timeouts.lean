import Breakwater.Proofs.Gateway.Tidy
import Breakwater.Proofs.Timer.Arena

/-! The timeouts of a dependency in a timer that it shares with others: those that are armed are
those of the commands that nobody has claimed.
-/

namespace Breakwater

variable {α : Type}

namespace Command

/-- The registration of a timeout that can still fire. -/
def armedHandle (command : Command α) : Option TimerHandle :=
  if command.timeout = .notExecuted then command.timer else none

/-- The registration of a timeout that has fired, and whose command has not ended. -/
def firedHandle (command : Command α) : Option TimerHandle :=
  if command.timeout = .notExecuted then none else command.timer

end Command

/-- The registrations of the commands' timeouts, by number, as the timer has to know them: those
that are armed, and those that have fired.
-/
structure Timetable where
  armed : Nat → Option TimerHandle
  fired : Nat → Option TimerHandle

def Timetable.of (commands : List (Command α)) : Timetable where
  armed number := commands[number]?.bind Command.armedHandle
  fired number := commands[number]?.bind Command.firedHandle

namespace Timetable

/-- The registrations once those of one command have changed. -/
def write (table : Timetable) (number : Nat) (armed fired : Option TimerHandle) : Timetable where
  armed other := if other = number then armed else table.armed other
  fired other := if other = number then fired else table.fired other

theorem of_set {commands : List (Command α)} {number : Nat} {old : Command α}
    (found : commands[number]? = some old) (new : Command α)
    : of (commands.set number new)
      = (of commands).write number new.armedHandle new.firedHandle := by
  simp only [of, write, mk.injEq]
  constructor
  · funext other
    rw [getElem?_set_of_found found]
    split <;> rfl
  · funext other
    rw [getElem?_set_of_found found]
    split <;> rfl

theorem of_write {commands : List (Command α)} {number : Nat} {command : Command α}
    (found : commands[number]? = some command)
    : (of commands).write number command.armedHandle command.firedHandle = of commands := by
  have same : commands.set number command = commands := by
    obtain ⟨inside, rfl⟩ := List.getElem?_eq_some_iff.mp found
    exact List.set_getElem_self inside
  rw [← of_set found, same]

/-- A command that was just created has no timeout. -/
theorem of_snoc (commands : List (Command α)) (hasFallback : Bool)
    : of (commands ++ [.create hasFallback]) = of commands := by
  simp only [of, mk.injEq]
  constructor
  · funext number
    rcases getElem?_snoc_cases commands (.create hasFallback) number with same | ⟨absent, new⟩
    · rw [same]
    · rw [new, absent]
      rfl
  · funext number
    rcases getElem?_snoc_cases commands (.create hasFallback) number with same | ⟨absent, new⟩
    · rw [same]
    · rw [new, absent]
      rfl

end Timetable

/-- A timer knows the timeouts of one of its dependencies by their registrations. -/
structure Timer.Keeps (timer : Timer CommandRef) (id : Nat) (table : Timetable) : Prop where
  sound : timer.Sound
  armed : ∀ number handle, timer.Holds ⟨id, number⟩ handle ↔ table.armed number = some handle
  fired : ∀ number handle, table.fired number = some handle → timer.Spent handle

namespace Timer.Keeps

variable {timer after : Timer CommandRef} {id : Nat} {table later : Timetable}
  {listener : CommandRef} {handle : TimerHandle}

/-- What a timer keeps is in its slots and registrations. -/
theorem congr (keeps : timer.Keeps id table) (slots : after.slots = timer.slots)
    (free : after.free = timer.free) (registrations : after.registrations = timer.registrations)
    : after.Keeps id table := by
  obtain ⟨_, _, _, _, _, _⟩ := timer
  obtain ⟨_, _, _, _, _, _⟩ := after
  subst slots free registrations
  exact ⟨{ keeps.sound with }, keeps.armed, fun number handle listed =>
    { keeps.fired number handle listed with }⟩

/-- The registration of somebody comes to its end. The table says so if it was one of its own. -/
theorem dropped (keeps : timer.Keeps id table) (holds : timer.Holds listener handle)
    {fate : Registration} (ended : fate ≠ .armed)
    (armed
      : ∀ number held,
          later.armed number = some held
            ↔ table.armed number = some held ∧ listener ≠ ⟨id, number⟩)
    (fired
      : ∀ number held, later.fired number = some held
          → table.fired number = some held ∨ held = handle)
    : (timer.drop handle fate).Keeps id later := by
  refine ⟨keeps.sound.drop holds fate, fun number held => ?_, fun number held listed => ?_⟩
  · rw [holds_drop_iff holds, keeps.armed, armed]
    refine and_congr_right fun waits => not_congr ⟨fun same => ?_, fun same => ?_⟩
    · exact (((keeps.armed number held).mpr waits).unique holds same).1.symm
    · rw [same] at holds
      have only := (keeps.armed number handle).mp holds
      rw [waits] at only
      cases only
      rfl
  · rcases fired number held listed with before | rfl
    · exact (keeps.fired number held before).drop holds ended
    · exact spent_drop keeps.sound holds ended

/-- Somebody registers, and the table says so if it is one of its own. -/
theorem registered (keeps : timer.Keeps id table)
    (registered : Registered timer listener handle after)
    (armed
      : ∀ number held,
          later.armed number = some held
            ↔ table.armed number = some held
              ∨ ((⟨id, number⟩ : CommandRef) = listener ∧ held = handle))
    (fired : ∀ number held, later.fired number = some held → table.fired number = some held)
    : after.Keeps id later := by
  refine ⟨registered.sound keeps.sound, fun number held => ?_, fun number held listed => ?_⟩
  · rw [registered.holds_iff keeps.sound, keeps.armed, armed]
  · exact registered.spent (keeps.fired number held (fired number held listed))

variable {number : Nat} {armed fired : Option TimerHandle}

/-- The timeout of one command fires or is cancelled. -/
theorem settled (keeps : timer.Keeps id (table.write number armed fired))
    (waits : armed = some handle) {fate : Registration} (ended : fate ≠ .armed)
    {left : Option TimerHandle} (spent : ∀ held, left = some held → held = handle)
    : (timer.drop handle fate).Keeps id (table.write number none left) := by
  have holds : timer.Holds ⟨id, number⟩ handle :=
    (keeps.armed number handle).mpr ((if_pos rfl).trans waits)
  refine keeps.dropped holds ended (fun other held => ?_) (fun other held listed => ?_)
  · by_cases own : other = number
    · subst own
      simp [Timetable.write]
    · simp [Timetable.write, own, Ne.symm own]
  · by_cases own : other = number
    · subst own
      simp only [Timetable.write, if_true] at listed ⊢
      exact .inr (spent held listed)
    · simp only [Timetable.write, if_neg own] at listed ⊢
      exact .inl listed

/-- Nothing is remembered of the timeout of one command. -/
theorem forgotten (keeps : timer.Keeps id (table.write number none fired))
    : timer.Keeps id (table.write number none none) := by
  refine ⟨keeps.sound, keeps.armed, fun other held listed => keeps.fired other held ?_⟩
  by_cases own : other = number
  · subst own
    simp [Timetable.write] at listed
  · simpa [Timetable.write, own] using listed

/-- A timeout is registered for one command. -/
theorem began (keeps : timer.Keeps id (table.write number none fired))
    (registered : Registered timer ⟨id, number⟩ handle after)
    : after.Keeps id (table.write number (some handle) none) := by
  refine keeps.registered registered (fun other held => ?_) (fun other held listed => ?_)
  · by_cases own : other = number
    · subst own
      simp [Timetable.write, eq_comm]
    · simp [Timetable.write, own]
  · by_cases own : other = number
    · subst own
      simp [Timetable.write] at listed
    · simpa [Timetable.write, own] using listed

end Timer.Keeps

-----------------------------------------------------------------------------------------
-- Moves
-----------------------------------------------------------------------------------------

section

variable {before after : Call α} {step : Gateway.Step α} {table : Timetable}

theorem Command.handles_of_none {command : Command α} (disarmed : command.timer = none)
    : command.armedHandle = none ∧ command.firedHandle = none := by
  simp [Command.armedHandle, Command.firedHandle, disarmed]

theorem Command.handles_of_claimed {command : Command α} (claimed : command.timeout ≠ .notExecuted)
    : command.armedHandle = none ∧ command.firedHandle = command.timer :=
  ⟨if_neg claimed, if_neg claimed⟩

theorem Command.handles_of_unclaimed {command : Command α}
    (unclaimed : command.timeout = .notExecuted)
    : command.armedHandle = command.timer ∧ command.firedHandle = none :=
  ⟨if_pos unclaimed, if_pos unclaimed⟩

/-- The timeout of a command is cancelled, if it has not fired yet. -/
theorem Call.timed_of_disarmed
    (keeps
      : before.gateway.timer.Keeps before.dependency.id
          (table.write before.number before.command.armedHandle before.command.firedHandle))
    : before.disarmedTimer.Keeps before.dependency.id (table.write before.number none none) := by
  cases held : before.command.timer with
  | none =>
      obtain ⟨armed, fired⟩ := Command.handles_of_none held
      rw [armed, fired] at keeps
      rw [disarmedTimer_of_none held]
      exact keeps
  | some handle =>
      have cancelled : before.disarmedTimer = (before.gateway.timer.cancel handle).2 := by
        rw [disarmedTimer, held]
      rw [cancelled]
      by_cases unclaimed : before.command.timeout = .notExecuted
      · obtain ⟨armed, fired⟩ := Command.handles_of_unclaimed unclaimed
        rw [armed, fired, held] at keeps
        have holds : before.gateway.timer.Holds ⟨before.dependency.id, before.number⟩ handle :=
          (keeps.armed before.number handle).mpr (if_pos rfl)
        rw [Timer.cancel_of_holds keeps.sound holds]
        refine keeps.settled rfl (by decide) fun held none => ?_
        cases none
      · obtain ⟨armed, fired⟩ := Command.handles_of_claimed unclaimed
        rw [armed, fired, held] at keeps
        have spent : before.gateway.timer.Spent handle :=
          keeps.fired before.number handle (if_pos rfl)
        rw [Timer.cancel_of_spent spent]
        exact keeps.forgotten

/-- A move that is not its firing keeps the timeout of a command as the timer has to know it. -/
theorem Call.Move.timed (move : Call.Move before step after)
    (other : step ≠ .timeoutFired before.number)
    (keeps
      : before.gateway.timer.Keeps before.dependency.id
          (table.write before.number before.command.armedHandle before.command.firedHandle))
    : after.gateway.timer.Keeps before.dependency.id
        (table.write before.number after.command.armedHandle after.command.firedHandle) := by
  rcases move.timing with timing | ⟨_, free, unclaimed, arms⟩
  · cases timing with
    | kept _ handle timer timeout =>
        rw [timer, Command.armedHandle, Command.firedHandle, handle, timeout]
        exact keeps
    | fired asked handle timer claimed => exact absurd asked other
    | disarmed handle timer claimed =>
        obtain ⟨armed, fired⟩ := Command.handles_of_none handle
        rw [armed, fired, timer]
        exact Call.timed_of_disarmed keeps
  · obtain ⟨armed, fired⟩ := Command.handles_of_none free
    rw [armed, fired] at keeps
    obtain ⟨arming, firing⟩ := Command.handles_of_unclaimed unclaimed
    rw [arming, firing]
    cases arms with
    | untimed handle timer =>
        rw [timer, handle, free]
        exact keeps
    | timed enabled handle registered =>
        rw [handle]
        exact keeps.began (Timer.registered_of_register keeps.sound registered)

/-- A timeout that has fired is known to have done so. -/
theorem Call.Move.timed_out (move : Call.Move before step after)
    (asked : step = .timeoutFired before.number) {handle : TimerHandle}
    (held : before.command.timer = some handle)
    (keeps
      : before.gateway.timer.Keeps before.dependency.id
          (table.write before.number none (some handle)))
    : after.gateway.timer.Keeps before.dependency.id
        (table.write before.number after.command.armedHandle after.command.firedHandle) := by
  rcases move.timing with timing | ⟨_, free, _⟩
  · cases timing with
    | kept other _ _ _ => exact absurd asked (other _)
    | fired _ same timer claimed =>
        obtain ⟨armed, fired⟩ := Command.handles_of_claimed claimed
        rw [armed, fired, same, held, timer]
        exact keeps
    | disarmed none timer claimed =>
        obtain ⟨armed, fired⟩ := Command.handles_of_none none
        have spent : before.gateway.timer.Spent handle :=
          keeps.fired before.number handle (if_pos rfl)
        have cancelled : before.disarmedTimer = (before.gateway.timer.cancel handle).2 := by
          rw [Call.disarmedTimer, held]
        rw [armed, fired, timer, cancelled, Timer.cancel_of_spent spent]
        exact keeps.forgotten
  · rw [held] at free
    cases free

end

namespace Gateway

variable {before after start : Gateway α} {step : Step α}

/-- The timer that a dependency shares with others keeps the timeouts of its commands. -/
def Timed (gateway : Gateway α) : Prop :=
  gateway.timer.Keeps gateway.dependency.id (.of gateway.dependency.commands)

/-- The slot that another dependency may touch holds a registration of that. -/
theorem holds_of_foreignSlot? {gateway : Gateway α} {token : TimerToken}
    {slot : TimerSlot CommandRef} (foreign : gateway.foreignSlot? token = some slot)
    : ∃ listener : CommandRef,
        gateway.timer.Holds listener ⟨token, slot.number⟩
          ∧ listener.dependency ≠ gateway.dependency.id := by
  obtain ⟨matched, other⟩ := Option.filter_eq_some_iff.mp foreign
  cases waiting : slot.listener with
  | none => simp [waiting] at other
  | some listener =>
      exact ⟨listener, Timer.holds_of_slot? matched waiting, by simpa [waiting] using other⟩

theorem Timed.dropped_foreign {gateway : Gateway α} (timed : gateway.Timed)
    {listener : CommandRef} {handle : TimerHandle} (holds : gateway.timer.Holds listener handle)
    (foreign : listener.dependency ≠ gateway.dependency.id) {fate : Registration}
    (ended : fate ≠ .armed)
    : (gateway.timer.drop handle fate).Keeps gateway.dependency.id
        (.of gateway.dependency.commands) := by
  refine Timer.Keeps.dropped timed holds ended (fun number held => ?_) (fun _ _ => .inl)
  refine (and_iff_left ?_).symm
  rintro rfl
  exact foreign rfl

/-- What others do with the timer leaves the timeouts of a dependency alone. -/
theorem Timed.timerAfter {gateway : Gateway α} (timed : gateway.Timed) (use : TimerUse)
    : (gateway.timerAfter use).Keeps gateway.dependency.id (.of gateway.dependency.commands) := by
  cases use with
  | register listener due =>
      simp only [Gateway.timerAfter]
      split
      · exact timed
      · rename_i foreign
        split
        · rename_i handle timer taken
          refine Timer.Keeps.registered timed (Timer.registered_of_register timed.sound taken)
            (fun number held => ?_) (fun _ _ => id)
          refine (or_iff_left ?_).symm
          rintro ⟨rfl, _⟩
          exact foreign rfl
        · exact timed
  | cancel token =>
      simp only [Gateway.timerAfter]
      split
      · rename_i slot matched
        obtain ⟨listener, holds, foreign⟩ := holds_of_foreignSlot? matched
        rw [Timer.cancel_of_holds timed.sound holds]
        exact timed.dropped_foreign holds foreign nofun
      · exact timed
  | fire token =>
      simp only [Gateway.timerAfter]
      split
      · rename_i slot fired matched due
        obtain ⟨listener, holds, foreign⟩ := holds_of_foreignSlot? matched
        obtain ⟨number, same, rfl⟩ := Timer.fire?_cases due
        obtain ⟨rfl, _⟩ := holds.unique same rfl
        exact timed.dropped_foreign same foreign nofun
      · exact timed
  | shutdown => exact Timer.Keeps.congr timed rfl rfl rfl

/-- A step that works on a command takes its timeout from the timer, if that is to fire. -/
theorem Timed.fires (timed : before.Timed) {number : Nat} {command : Command α}
    (found : before.dependency.commands[number]? = some command) {timer : Timer CommandRef}
    (fires : Fires before.timer command.timer number step timer)
    : (step ≠ .timeoutFired number
        ∧ timer.Keeps before.dependency.id
            ((Timetable.of before.dependency.commands).write number command.armedHandle
              command.firedHandle))
      ∨ ∃ handle,
          step = .timeoutFired number
            ∧ command.timer = some handle
            ∧ timer.Keeps before.dependency.id
                ((Timetable.of before.dependency.commands).write number none (some handle)) := by
  have keeps : before.timer.Keeps before.dependency.id
      ((Timetable.of before.dependency.commands).write number command.armedHandle
        command.firedHandle) := by
    rw [Timetable.of_write found]
    exact timed
  cases fires with
  | nothing other => exact .inl ⟨other, keeps⟩
  | @timeout handle listener fired held due =>
      refine .inr ⟨handle, rfl, held, ?_⟩
      by_cases unclaimed : command.timeout = .notExecuted
      · obtain ⟨armed, firing⟩ := Command.handles_of_unclaimed unclaimed
        rw [armed, firing, held] at keeps
        have holds : before.timer.Holds ⟨before.dependency.id, number⟩ handle :=
          (keeps.armed number handle).mpr (if_pos rfl)
        obtain ⟨place, same, rfl⟩ := Timer.fire?_cases due
        obtain ⟨_, own⟩ := same.unique holds rfl
        rw [own]
        refine keeps.settled rfl ?_ fun other listed => (Option.some.inj listed).symm
        exact nofun
      · obtain ⟨armed, firing⟩ := Command.handles_of_claimed unclaimed
        rw [armed, firing, held] at keeps
        rw [Timer.fire?_of_spent (keeps.fired number handle (if_pos rfl))] at due
        cases due

theorem Change.id (change : Change before step after)
    : after.dependency.id = before.dependency.id := by
  cases change with
  | moved dependency clock aside => exact aside.id
  | quiet account clock lends aside => exact aside.id
  | pumped asked clock account metrics loans aside => exact aside.id
  | created asked clock account loans aside => exact aside.id
  | taken asked found ready clock account loans aside => exact aside.id
  | turned timer pool found suffix op turn queues fixed stored draws fires =>
      rw [stored]
      exact congrArg Fixed.id fixed

theorem Change.timed (change : Change before step after) (kempt : before.Kempt)
    (timed : before.Timed) : after.Timed := by
  have id := change.id
  -- Whatever the others do with the timer, the timeouts of the same commands stay.
  have aside {commands : List (Command α)} (aside : Aside before step after)
      (same : after.dependency.commands = commands)
      (listed : Timetable.of commands = .of before.dependency.commands) : after.Timed := by
    unfold Timed
    rw [aside.id, same, listed]
    rcases aside.timer with kept | ⟨use, _, used⟩
    · rw [kept]
      exact timed
    · rw [used]
      exact timed.timerAfter use
  cases change with
  | moved dependency clock away => exact aside away (by rw [dependency]) rfl
  | quiet account clock lends away => exact aside away (congrArg Account.commands account) rfl
  | pumped asked clock account metrics loans away =>
      exact aside away (congrArg Account.commands account) rfl
  | @created hasFallback asked clock account loans away =>
      exact aside away (congrArg Account.commands account) (Timetable.of_snoc _ hasFallback)
  | @taken number command outcome asked found ready clock account loans away =>
      refine aside away (congrArg Account.commands account) ?_
      show Timetable.of (before.dependency.commands.set number { command with
        completion := .consumed }) = _
      rw [Timetable.of_set found]
      exact (Timetable.of_write found :)
  | @turned timer pool number command call found suffix op turn queues fixed stored draws fires =>
      have move := kempt.move found op
      have commands : after.dependency.commands
          = before.dependency.commands.set number call.command :=
        stored ▸ Call.commands_store fixed
      have same : after.timer = call.gateway.timer := by rw [stored]; rfl
      unfold Timed
      rw [id, commands, same, Timetable.of_set found]
      rcases timed.fires found fires with ⟨other, keeps⟩ | ⟨handle, asked, held, keeps⟩
      · exact move.timed other keeps
      · exact move.timed_out asked held keeps

-----------------------------------------------------------------------------------------
-- Runs
-----------------------------------------------------------------------------------------

/-- The timer is new to the dependency: only others have used it so far. -/
def FreshTimer (gateway : Gateway α) : Prop :=
  ∃ (name : String) (uses : List TimerUse),
    gateway.timer
      = uses.foldl (fun timer use => Gateway.timerAfter { gateway with timer } use) (.create name)

theorem timed_of_fresh (built : start.JustBuilt) (fresh : start.FreshTimer) : start.Timed := by
  obtain ⟨name, uses, timer⟩ := fresh
  have used (uses : List TimerUse) (timer : Timer CommandRef)
      (timed : Timed { start with timer })
      : (uses.foldl (fun timer use => Gateway.timerAfter { start with timer } use) timer).Keeps
          start.dependency.id (.of start.dependency.commands) := by
    induction uses generalizing timer with
    | nil => exact timed
    | cons use rest ih => exact ih _ (timed.timerAfter use)
  unfold Timed
  rw [timer]
  refine used uses _ ⟨Timer.sound_create name, fun number handle => ?_, fun number handle => ?_⟩
  · rw [built.commands]
    constructor <;> rintro ⟨⟩
  · rw [built.commands]
    rintro ⟨⟩

theorem timed_run (kempt : start.Kempt) (timed : start.Timed) (steps : List (Step α))
    : (start.run steps).Timed := by
  induction steps using run_induction with
  | nil => exact timed
  | snoc steps last ih =>
      have before := kempt_run kempt steps
      rw [run_snoc]
      exact (change_step before.orderly last).timed before ih

theorem id_run (kempt : start.Kempt) (steps : List (Step α))
    : (start.run steps).dependency.id = start.dependency.id := by
  induction steps using run_induction with
  | nil => rfl
  | snoc steps last ih =>
      rw [run_snoc, (change_step (kempt_run kempt steps).orderly last).id, ih]

-----------------------------------------------------------------------------------------
-- What is armed
-----------------------------------------------------------------------------------------

/-- A command is armed in the timer once if its timeout can still fire, and else not at all. -/
theorem Timed.count_armed {gateway : Gateway α} (timed : gateway.Timed) (number : Nat)
    : gateway.timer.armed.count ⟨gateway.dependency.id, number⟩
      = (((Timetable.of gateway.dependency.commands).armed number).isSome).toNat := by
  cases held : (Timetable.of gateway.dependency.commands).armed number with
  | none =>
      refine Timer.count_armed_eq_zero fun handle holds => ?_
      have armed := (timed.armed number handle).mp holds
      rw [held] at armed
      cases armed
  | some handle =>
      refine Timer.count_armed_eq_one ((timed.armed number handle).mpr held) fun other holds => ?_
      have armed := (timed.armed number other).mp holds
      rw [held] at armed
      exact (Option.some.inj armed).symm

theorem Timed.mem_armed_iff {gateway : Gateway α} (timed : gateway.Timed) (number : Nat)
    : (⟨gateway.dependency.id, number⟩ : CommandRef) ∈ gateway.timer.armed
      ↔ ∃ command,
          gateway.dependency.commands[number]? = some command
            ∧ command.timeout = .notExecuted
            ∧ command.timer.isSome := by
  rw [← List.count_pos_iff, timed.count_armed]
  simp only [Timetable.of]
  cases gateway.dependency.commands[number]? with
  | none => simp
  | some command =>
      by_cases unclaimed : command.timeout = .notExecuted
      · obtain ⟨armed, _⟩ := Command.handles_of_unclaimed unclaimed
        cases held : command.timer <;> simp [armed, held, unclaimed]
      · obtain ⟨armed, _⟩ := Command.handles_of_claimed unclaimed
        simp [armed, unclaimed]

/-- While nobody has claimed a command, its timeout stays registered. -/
theorem Passage.timer {number : Nat} (passage : Passage before step number after)
    {command : Command α} (found : before.dependency.commands[number]? = some command)
    (armed : command.timeout = .notExecuted → command.timer.isSome)
    : ∃ new, after.dependency.commands[number]? = some new
        ∧ (new.timeout = .notExecuted → new.timer.isSome) := by
  refine passage.onwards found armed armed fun timer pool call move unclaimed => ?_
  have was : command.timeout = .notExecuted := by
    rcases move.claim with was | same
    · exact was
    · exact same.symm.trans unclaimed
  have held := armed was
  rcases move.timing with timing | ⟨_, free, _⟩
  · cases timing with
    | kept other handle timer timeout => exact handle ▸ held
    | fired asked handle timer claimed => exact absurd unclaimed claimed
    | disarmed handle timer claimed =>
        rcases claimed with free | claimed
        · rw [show command.timer = none from free] at held
          cases held
        · exact absurd unclaimed claimed
  · rw [show command.timer = none from free] at held
    cases held

/-- At some moment of a run the timeout of a command was armed. -/
def HadTimeout (start : Gateway α) (steps : List (Step α)) (number : Nat) : Prop :=
  ∃ earlier later,
    steps = earlier ++ later
      ∧ (⟨start.dependency.id, number⟩ : CommandRef) ∈ (start.run earlier).timer.armed

/-- A command that had its timeout armed keeps it armed while nobody has claimed it. -/
theorem HadTimeout.holds (kempt : start.Kempt) (timed : start.Timed) {steps : List (Step α)}
    {number : Nat} (had : HadTimeout start steps number)
    : ∃ command,
        (start.run steps).dependency.commands[number]? = some command
          ∧ (command.timeout = .notExecuted → command.timer.isSome) := by
  obtain ⟨earlier, later, rfl, armed⟩ := had
  induction later using run_induction with
  | nil =>
      rw [List.append_nil]
      rw [← id_run kempt earlier, (timed_run kempt timed earlier).mem_armed_iff] at armed
      obtain ⟨command, found, _, held⟩ := armed
      exact ⟨command, found, fun _ => held⟩
  | snoc later last ih =>
      obtain ⟨command, found, held⟩ := ih
      have kempt := kempt_run kempt (earlier ++ later)
      rw [← List.append_assoc, run_snoc]
      exact ((change_step kempt.orderly last).passage kempt number).timer found held

/-- The timeouts that are armed are those that were armed once and whose command nobody has
claimed.
-/
theorem mem_armed_run (kempt : start.Kempt) (timed : start.Timed) (steps : List (Step α))
    (number : Nat)
    : (⟨start.dependency.id, number⟩ : CommandRef) ∈ (start.run steps).timer.armed
      ↔ HadTimeout start steps number
        ∧ ∃ command,
            (start.run steps).dependency.commands[number]? = some command
              ∧ command.timeout = .notExecuted := by
  have now := (timed_run kempt timed steps).mem_armed_iff number
  rw [id_run kempt steps] at now
  constructor
  · intro armed
    obtain ⟨command, found, unclaimed, _⟩ := now.mp armed
    exact ⟨⟨steps, [], (List.append_nil steps).symm, armed⟩, command, found, unclaimed⟩
  · rintro ⟨had, command, found, unclaimed⟩
    obtain ⟨same, there, held⟩ := had.holds kempt timed
    obtain rfl := Option.some.inj (found.symm.trans there)
    exact now.mpr ⟨command, found, unclaimed, held unclaimed⟩

end Gateway

end Breakwater
