import Breakwater.Proofs.Gateway.Counters
import Breakwater.Proofs.Gateway.Timeouts
import Breakwater.Proofs.Timer.Agenda

/-! What a step does to the timer that its dependency shares with others: the timeout of one command
comes onto the agenda or off it, and nobody else's entry is touched.
-/

namespace Breakwater.Gateway

variable {α : Type} {before after : Gateway α} {step : Step α} {number : Nat}

/-- Whether the timeout of a command is armed. -/
def isArmed (gateway : Gateway α) (number : Nat) : Bool :=
  (gateway.dependency.commands[number]?.bind Command.armedHandle).isSome

/-- The command that a step works on, if it works on one. -/
def Step.subject (gateway : Gateway α) : Step α → Nat
  | .submit number | .handOff number | .workReturned number _ | .fallbackReturned number _
  | .timeoutFired number | .cancel number => number
  | .pickUp => gateway.dependency.waiting.head?.getD 0
  | _ => 0

/-- What a step does to the timer: the timeout of the command that it works on stays as it is, comes
to its end, or is registered.
-/
inductive Retimes (before : Gateway α) (step : Step α) (number : Nat) (after : Gateway α) : Prop
  | kept (timer : after.timer = before.timer)
    (same : after.isArmed number = before.isArmed number)
  | disarmed {handle fate} (holds : before.timer.Holds ⟨before.dependency.id, number⟩ handle)
    (ended : fate ≠ .armed) (timer : after.timer = before.timer.drop handle fate)
    (was : before.isArmed number = true) (is : after.isArmed number = false)
  | armed {handle} (asked : step = .submit number)
    (enabled : before.dependency.config.timeoutEnabled = true)
    (registered
      : before.timer.register ⟨before.dependency.id, number⟩
          before.dependency.config.executionTimeout
        = .ok (handle, after.timer))
    (was : before.isArmed number = false) (is : after.isArmed number = true)

/-- Which timeouts are armed depends on the commands alone. -/
theorem isArmed_congr
    (same : Timetable.of after.dependency.commands = .of before.dependency.commands)
    (number : Nat) : after.isArmed number = before.isArmed number :=
  congrArg (fun table => (table.armed number).isSome) same

theorem isArmed_of_found {gateway : Gateway α} {command : Command α}
    (found : gateway.dependency.commands[number]? = some command)
    : gateway.isArmed number = command.armedHandle.isSome := by
  rw [isArmed, found]
  rfl

/-- A timeout that is armed waits in the timer. -/
theorem Timed.holds {gateway : Gateway α} (timed : gateway.Timed) {command : Command α}
    (found : gateway.dependency.commands[number]? = some command) {handle : TimerHandle}
    (armed : command.armedHandle = some handle)
    : gateway.timer.Holds ⟨gateway.dependency.id, number⟩ handle := by
  refine (timed.armed number handle).mpr ?_
  simp only [Timetable.of, found, Option.bind_some, armed]

/-- A timeout that has fired waits no longer. -/
theorem Timed.spent {gateway : Gateway α} (timed : gateway.Timed) {command : Command α}
    (found : gateway.dependency.commands[number]? = some command) {handle : TimerHandle}
    (fired : command.firedHandle = some handle) : gateway.timer.Spent handle := by
  refine timed.fired number handle ?_
  simp only [Timetable.of, found, Option.bind_some, fired]

/-- A command whose timeout is disarmed. -/
theorem Retimes.of_disarmed (timed : before.Timed) {command : Command α}
    {pool : Option (WorkerPool Nat)}
    (found : before.dependency.commands[number]? = some command)
    (timer : after.timer = (before.entered before.timer pool number command).disarmedTimer)
    (is : after.isArmed number = false) : Retimes before step number after := by
  have was := isArmed_of_found found
  cases held : command.timer with
  | none =>
      rw [(Command.handles_of_none held).1] at was
      exact .kept (timer.trans (Call.disarmedTimer_of_none held)) (is.trans was.symm)
  | some handle =>
      have cancelled : after.timer = (before.timer.cancel handle).2 := by
        rw [timer, Call.disarmedTimer, show (before.entered _ _ _ _).command.timer = _ from held]
        rfl
      by_cases unclaimed : command.timeout = .notExecuted
      · have armed : command.armedHandle = some handle :=
          (Command.handles_of_unclaimed unclaimed).1.trans held
        have holds := timed.holds found armed
        have ended : Registration.cancelled ≠ .armed := by decide
        rw [armed] at was
        rw [Timer.cancel_of_holds timed.sound holds] at cancelled
        exact .disarmed holds ended cancelled was is
      · obtain ⟨armed, fired⟩ := Command.handles_of_claimed unclaimed
        rw [armed] at was
        rw [Timer.cancel_of_spent (timed.spent found (fired.trans held))] at cancelled
        exact .kept cancelled (is.trans was.symm)

/-- A step that works on a command, and that is not the firing of its timeout. -/
theorem Retimes.of_move (timed : before.Timed) {command : Command α}
    {pool : Option (WorkerPool Nat)} {call : Call α}
    (found : before.dependency.commands[number]? = some command)
    (move : Call.Move (before.entered before.timer pool number command) step call)
    (other : step ≠ .timeoutFired number) (timer : after.timer = call.gateway.timer)
    (new : after.dependency.commands[number]? = some call.command)
    : Retimes before step number after := by
  have was := isArmed_of_found found
  have is := isArmed_of_found new
  rcases move.timing with timing | ⟨asked, free, unclaimed, arms⟩
  · cases timing with
    | kept _ handle same timeout =>
        refine .kept (timer.trans same) ?_
        rw [is, was, Command.armedHandle, Command.armedHandle, handle, timeout]
        rfl
    | fired asked _ _ _ => exact absurd asked other
    | disarmed handle same _ =>
        rw [(Command.handles_of_none handle).1] at is
        exact .of_disarmed timed found (timer.trans same) is
  · have free : command.timer = none := free
    rw [(Command.handles_of_none free).1] at was
    rw [(Command.handles_of_unclaimed unclaimed).1] at is
    cases arms with
    | untimed handle same =>
        refine .kept (timer.trans same) ?_
        rw [is, was, handle]
        exact congrArg Option.isSome free
    | timed enabled handle registered =>
        rw [handle] at is
        exact .armed asked enabled (timer ▸ registered) was is

/-- A timeout that has fired is not armed any more. -/
theorem armedHandle_of_fired {fired : Timer CommandRef} {pool : Option (WorkerPool Nat)}
    {command : Command α} {call : Call α} {handle : TimerHandle}
    (move : Call.Move (before.entered fired pool number command) (.timeoutFired number) call)
    (held : command.timer = some handle) : call.command.armedHandle = none := by
  rcases move.timing with timing | ⟨_, free, _⟩
  · cases timing with
    | kept other _ _ _ => exact absurd rfl (other _)
    | fired _ _ _ claimed => exact (Command.handles_of_claimed claimed).1
    | disarmed none _ _ => exact (Command.handles_of_none none).1
  · rw [show command.timer = none from free] at held
    cases held

/-- A timeout that fires comes to its end. -/
theorem Retimes.of_fired (timed : before.Timed) {command : Command α}
    {pool : Option (WorkerPool Nat)} {call : Call α} {fired : Timer CommandRef}
    {handle : TimerHandle} {listener : CommandRef}
    (found : before.dependency.commands[number]? = some command)
    (held : command.timer = some handle)
    (due : before.timer.fire? handle.token = some (listener, fired))
    (move : Call.Move (before.entered fired pool number command) (.timeoutFired number) call)
    (timer : after.timer = call.gateway.timer)
    (new : after.dependency.commands[number]? = some call.command)
    : Retimes before (.timeoutFired number) number after := by
  have unclaimed : command.timeout = .notExecuted := by
    by_contra claimed
    have spent := timed.spent found ((Command.handles_of_claimed claimed).2.trans held)
    rw [Timer.fire?_of_spent spent] at due
    cases due
  have armed : command.armedHandle = some handle :=
    (Command.handles_of_unclaimed unclaimed).1.trans held
  have holds := timed.holds found armed
  obtain ⟨place, same, rfl⟩ := Timer.fire?_cases due
  obtain ⟨_, own⟩ := holds.unique same rfl
  rw [← own] at move
  have ended : Registration.fired ≠ .armed := by decide
  have was := isArmed_of_found found
  rw [armed] at was
  have is := isArmed_of_found new
  rw [armedHandle_of_fired move held] at is
  rcases move.timing with timing | ⟨_, free, _⟩
  · cases timing with
    | kept other _ _ _ => exact absurd rfl (other _)
    | fired _ _ same _ => exact .disarmed holds ended (timer.trans same) was is
    | disarmed _ same _ =>
        have spent := Timer.spent_drop timed.sound holds ended
        refine .disarmed holds ended (timer.trans (same.trans ?_)) was is
        rw [Call.disarmedTimer, show (before.entered _ _ _ _).command.timer = _ from held]
        exact congrArg (·.2) (Timer.cancel_of_spent spent)
  · rw [show command.timer = none from free] at held
    cases held

/-- A step that turns a command works on that. -/
theorem subject_of_op {timer : Timer CommandRef} {pool : Option (WorkerPool Nat)}
    {command : Command α} {call : Call α}
    (op : Call.Op (before.entered timer pool number command) step call)
    (draws : Draws before.dependency.pool number step pool) : step.subject before = number := by
  cases op with
  | pickUp queued =>
      cases draws with
      | nothing other => exact absurd rfl other
      | task held picked =>
          simp only [Step.subject, Dependency.waiting, held, Option.map_some, Option.getD_some,
            queue_of_picked picked, List.head?_cons]
  | _ => rfl

/-- What a step of the dependency's own does to the timer. -/
theorem Change.retimes (change : Change before step after) (kempt : before.Kempt)
    (timed : before.Timed) (own : ∀ use, step ≠ .timerUsed use)
    : Retimes before step (step.subject before) after := by
  have aside (aside : Aside before step after)
      (same : Timetable.of after.dependency.commands = .of before.dependency.commands)
      : Retimes before step (step.subject before) after := by
    refine .kept ?_ (isArmed_congr same _)
    rcases aside.timer with kept | ⟨use, asked, _⟩
    · exact kept
    · exact absurd asked (own use)
  cases change with
  | moved dependency clock away => exact aside away (by rw [dependency])
  | quiet account clock lends away =>
      exact aside away (congrArg Timetable.of (congrArg Account.commands account))
  | pumped asked clock account metrics loans away =>
      exact aside away (congrArg Timetable.of (congrArg Account.commands account))
  | @created hasFallback asked clock account loans away =>
      exact aside away ((congrArg Timetable.of (congrArg Account.commands account)).trans
        (Timetable.of_snoc _ hasFallback))
  | @taken number command outcome asked found ready clock account loans away =>
      refine aside away ((congrArg Timetable.of (congrArg Account.commands account)).trans ?_)
      exact (Timetable.of_set found _).trans (Timetable.of_write found :)
  | @turned timer pool number command call found suffix op turn queues fixed stored draws fires =>
      have move := kempt.move found op
      have written : after.dependency.commands
          = before.dependency.commands.set number call.command :=
        stored ▸ Call.commands_store fixed
      have new : after.dependency.commands[number]? = some call.command := by
        rw [written, getElem?_set_of_found found, if_pos rfl]
      have same : after.timer = call.gateway.timer := by rw [stored]; rfl
      rw [subject_of_op op draws]
      cases fires with
      | nothing other => exact .of_move timed found move other same new
      | timeout held due => exact .of_fired timed found held due move same new

-----------------------------------------------------------------------------------------
-- The timer after a step
-----------------------------------------------------------------------------------------

namespace Retimes

variable (retimes : Retimes before step number after)
include retimes

/-- Only a submission arms a timeout. -/
theorem not_armed (other : step ≠ .submit number) (was : before.isArmed number = false)
    : after.isArmed number = false := by
  cases retimes with
  | kept timer same => exact same.trans was
  | disarmed holds ended timer was is => exact is
  | armed asked enabled registered was is => exact absurd asked other

theorem isShutdown : after.timer.isShutdown = before.timer.isShutdown := by
  cases retimes with
  | kept timer same => rw [timer]
  | disarmed holds ended timer was is => rw [timer, Timer.drop_eq holds]
  | armed asked enabled registered was is =>
      obtain ⟨_, running, runs⟩ := Timer.deadlines_of_register registered
      rw [running, runs]

theorem listed (listed : before.timer.Listed) : after.timer.Listed := by
  cases retimes with
  | kept timer same => rwa [timer]
  | disarmed holds ended timer was is =>
      rw [timer]
      exact listed.drop holds _
  | armed asked enabled registered was is => exact listed.register registered

/-- The timeout of the command comes onto the agenda or off it. -/
theorem agenda (timed : before.Timed) (listed : before.timer.Listed)
    (patient
      : before.dependency.config.timeoutEnabled = true
        → 0 < before.dependency.config.executionTimeout)
    : Retimed (before.isArmed number) (after.isArmed number)
        before.dependency.config.executionTimeout ⟨before.dependency.id, number⟩
        before.timer.agenda after.timer.agenda := by
  cases retimes with
  | kept timer same => exact .kept same (by rw [timer])
  | disarmed holds ended timer was is =>
      have only (other : TimerHandle)
          (waits : before.timer.Holds ⟨before.dependency.id, number⟩ other) : other = _ :=
        Option.some.inj
          (((timed.armed number other).mp waits).symm.trans ((timed.armed number _).mp holds))
      exact .removed was is (by rw [timer, Timer.agenda_drop holds only])
  | armed asked enabled registered was is =>
      exact .added was is (patient enabled) (listed.agenda_register registered)

/-- The timeouts of other dependencies stay as they are. -/
theorem keeps {id : Nat} (foreign : id ≠ before.dependency.id) {table : Timetable}
    (keeps : before.timer.Keeps id table) : after.timer.Keeps id table := by
  cases retimes with
  | kept timer same => rwa [timer]
  | disarmed holds ended timer was is =>
      rw [timer]
      refine keeps.dropped holds ended (fun other held => ?_) (fun _ _ => .inl)
      refine (and_iff_left ?_).symm
      intro same
      exact foreign (congrArg CommandRef.dependency same).symm
  | armed asked enabled registered was is =>
      refine keeps.registered (Timer.registered_of_register keeps.sound registered)
        (fun other held => ?_) (fun _ _ listed => listed)
      refine (or_iff_left ?_).symm
      rintro ⟨same, _⟩
      exact foreign (congrArg CommandRef.dependency same)

/-- Nobody comes to wait but the command. -/
theorem holds_of (sound : before.timer.Sound) {listener : CommandRef} {handle : TimerHandle}
    (holds : after.timer.Holds listener handle)
    : before.timer.Holds listener handle ∨ listener = ⟨before.dependency.id, number⟩ := by
  cases retimes with
  | kept timer same => exact .inl (timer ▸ holds)
  | disarmed waits ended timer was is =>
      rw [timer] at holds
      exact .inl ((Timer.holds_drop_iff waits _).mp holds).1
  | armed asked enabled registered was is =>
      exact (((Timer.registered_of_register sound registered).holds_iff sound).mp holds).imp_right
        (·.1)

end Retimes

-----------------------------------------------------------------------------------------
-- Own steps of a dependency
-----------------------------------------------------------------------------------------

/-- A command whose timeout waits in the timer. -/
theorem Timed.found_of_holds {gateway : Gateway α} (timed : gateway.Timed) {handle : TimerHandle}
    (holds : gateway.timer.Holds ⟨gateway.dependency.id, number⟩ handle)
    : ∃ command,
        gateway.dependency.commands[number]? = some command
          ∧ command.armedHandle = some handle
          ∧ command.timer = some handle := by
  obtain ⟨command, found, armed⟩ :=
    Option.bind_eq_some_iff.mp ((timed.armed number handle).mp holds)
  refine ⟨command, found, armed, ?_⟩
  rw [Command.armedHandle] at armed
  split at armed
  · exact armed
  · cases armed

/-- A timeout that waits in a timer that runs is not armed any more once it fires. -/
theorem Kempt.isArmed_timeoutFired {gateway : Gateway α} (kempt : gateway.Kempt)
    (timed : gateway.Timed) (running : gateway.timer.isShutdown = false) {handle : TimerHandle}
    (holds : gateway.timer.Holds ⟨gateway.dependency.id, number⟩ handle)
    : (gateway.timeoutFired number).isArmed number = false := by
  obtain ⟨command, found, _, held⟩ := timed.found_of_holds holds
  have armed : command.timer ≠ none := by simp [held]
  let call :=
    gateway.entered (gateway.timer.drop handle .fired) gateway.dependency.pool number command
  have move : Call.Move call (.timeoutFired number) call.timedOut :=
    kempt.move found (.timeoutFired armed)
  have fired : gateway.timeoutFired number = call.timedOut.store := by
    simp only [timeoutFired, found, held, Option.bind_some, Timer.fire?_of_holds running holds]
    rfl
  have there : call.dependency.commands[call.number]? = some call.command := found
  have stored : call.timedOut.store.dependency.commands[number]? = some call.timedOut.command :=
    Call.getElem?_store (Call.fixed_of_frame call.frame_timedOut) there
  rw [fired, isArmed_of_found stored, armedHandle_of_fired move held]
  rfl

/-- Whether a step is taken by the dependency itself or by those who use it: time is not moved, and
neither does the timer fire.
-/
def Step.isLocal : Step α → Bool
  | .advance _ | .setClock _ | .timeoutFired _ | .timerUsed _ => false
  | _ => true

/-- Whether a step leaves the clock alone, and the timer but for the dependency's own timeouts. -/
def Step.isOwn : Step α → Bool
  | .advance _ | .setClock _ | .timerUsed _ => false
  | _ => true

theorem Step.isOwn_of_isLocal {step : Step α} (own : step.isLocal) : step.isOwn := by
  cases step with
  | advance | setClock | timerUsed | timeoutFired => cases own
  | _ => rfl

/-- What a step of its own makes of a dependency that works on one of its commands. -/
structure Onward (before : Gateway α) (step : Step α) (number : Nat) (after : Gateway α)
    : Prop where
  clock : after.clock = before.clock
  id : after.dependency.id = before.dependency.id
  settings : after.dependency.settings = before.dependency.settings
  retimes : Retimes before step number after
  kempt : after.Kempt
  timed : after.Timed

theorem onward_step (kempt : before.Kempt) (timed : before.Timed) {step : Step α}
    (own : step.isOwn) : Onward before step (step.subject before) (before.step step) := by
  have change := change_step kempt.orderly step
  refine ⟨?_, change.id, change.settings, change.retimes kempt timed ?_, kempt_step kempt step,
    change.timed kempt timed⟩
  · rcases change.clock with same | ⟨millis, rfl, _⟩ | ⟨millis, rfl, _⟩
    · exact congrArg Clock.mk same
    · cases own
    · cases own
  · rintro use rfl
    cases own

end Breakwater.Gateway
