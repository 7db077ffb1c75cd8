import Mathlib.Data.List.Perm.Subperm
import Breakwater.Proofs.Timer.Account

/-! A timer starts each listener once, in the order of the deadlines, and never after its
registration was cancelled or the timer shut down.
-/

namespace Breakwater.Timer.Session

variable {session after : Session} {booking : Booking}

-----------------------------------------------------------------------------------------
-- What is done stays done
-----------------------------------------------------------------------------------------

theorem isShutdown_drop {ι : Type} (timer : Timer ι) (handle : TimerHandle) (fate : Registration)
    : (timer.drop handle fate).isShutdown = timer.isShutdown := by
  simp only [drop, release]
  split <;> rfl

theorem Effect.disarmed_subset (effect : session.Effect after)
    : session.disarmed ⊆ after.disarmed := by
  cases effect with
  | disarmed => exact List.subset_append_left _ _
  | _ => exact List.Subset.refl _

theorem Accurate.disarmed_subset (accurate : session.Accurate) (steps : List Step)
    : session.disarmed ⊆ (session.run steps).disarmed := by
  induction steps generalizing session with
  | nil => exact List.Subset.refl _
  | cons first rest ih =>
      exact List.Subset.trans (accurate.effect_step first).disarmed_subset
        (ih (accurate.step first))

/-- A listener whose registration was disarmed is not started. -/
theorem Accurate.not_started (accurate : session.Accurate) {number : Nat}
    (gone : number ∈ session.disarmed) : number ∉ session.started := by
  obtain ⟨booking, found⟩ : ∃ booking, session.bookings[number]? = some booking :=
    ⟨_, List.getElem?_eq_getElem (accurate.known number (.inr gone))⟩
  obtain rfl := accurate.numbered number booking found
  obtain ⟨fate, standing⟩ := accurate.standing booking (List.mem_of_getElem? found)
  cases standing with
  | armed _ _ quiet => exact quiet
  | fired _ _ _ kept => exact absurd gone kept
  | cancelled _ _ quiet => exact quiet

/-- A timer that is shut down starts nothing, and nothing is registered with it. -/
theorem Effect.stopped_of_shutdown (effect : session.Effect after)
    (stopped : session.timer.isShutdown = true)
    : after.timer.isShutdown = true
      ∧ after.started = session.started ∧ after.bookings = session.bookings := by
  cases effect with
  | waited => exact ⟨stopped, rfl, rfl⟩
  | registered _ _ running => exact absurd (running.symm.trans stopped) Bool.false_ne_true
  | disarmed => exact ⟨(isShutdown_drop _ _ _).trans stopped, rfl, rfl⟩
  | started starts => exact absurd (starts.running.symm.trans stopped) Bool.false_ne_true
  | stopped => exact ⟨rfl, rfl, rfl⟩

theorem Accurate.stopped_run (accurate : session.Accurate)
    (stopped : session.timer.isShutdown = true) (steps : List Step)
    : (session.run steps).started = session.started
      ∧ (session.run steps).bookings = session.bookings := by
  induction steps generalizing session with
  | nil => exact ⟨rfl, rfl⟩
  | cons first rest ih =>
      obtain ⟨still, started, bookings⟩ := (accurate.effect_step first).stopped_of_shutdown stopped
      obtain ⟨later, known⟩ := ih (accurate.step first) still
      exact ⟨later.trans started, known.trans bookings⟩

-----------------------------------------------------------------------------------------
-- Cancelling
-----------------------------------------------------------------------------------------

/-- Whether a registration is armed. -/
def IsArmed (session : Session) (booking : Booking) : Prop :=
  session.timer.registration booking.handle = .armed

/-- A timer that runs takes whoever asks: the registration gets the next number, and is armed. -/
theorem Accurate.registers (accurate : session.Accurate)
    (running : session.timer.isShutdown = false) (delay : Nat)
    : ∃ handle timer,
        session.step (.register delay)
          = { session with
              timer, bookings := session.bookings ++ [⟨handle, session.now + delay⟩] }
        ∧ Registered session.timer session.bookings.length handle timer
        ∧ handle.number = session.bookings.length
        ∧ (session.step (.register delay)).IsArmed ⟨handle, session.now + delay⟩ := by
  obtain ⟨handle, timer, taken, _⟩ :=
    register_of_running running session.bookings.length (session.now + delay)
  have took := registered_of_register accurate.sound taken
  have stepped : session.step (.register delay)
      = { session with
          timer, bookings := session.bookings ++ [⟨handle, session.now + delay⟩] } := by
    simp only [Session.step, taken]
  refine ⟨handle, timer, stepped, took, took.number.trans accurate.counted, ?_⟩
  rw [stepped, IsArmed, Timer.registration, took.registrations, took.number]
  simp

theorem Accurate.cancel_of_armed (accurate : session.Accurate)
    (member : booking ∈ session.bookings) (armed : session.IsArmed booking)
    : (session.timer.cancel booking.handle).1 = true
      ∧ session.step (.cancel booking.handle.number)
        = { session with
            timer := session.timer.drop booking.handle .cancelled
            disarmed := session.disarmed ++ [booking.handle.number] } := by
  have waits := (accurate.registration_eq_armed_iff member).mp armed
  have cancels := cancel_of_holds accurate.sound waits
  simp [Session.step, accurate.found member, cancels]

/-- The handle of a registration that is not armed any more has no hold on anything. -/
theorem Accurate.cancel_of_not_armed (accurate : session.Accurate)
    (member : booking ∈ session.bookings) (settled : ¬session.IsArmed booking)
    : session.timer.cancel booking.handle = (false, session.timer)
      ∧ session.step (.cancel booking.handle.number) = session := by
  have stale : session.timer.cancel booking.handle = (false, session.timer) := by
    obtain ⟨fate, standing⟩ := accurate.standing booking member
    cases standing with
    | armed waits =>
        exact absurd ((accurate.registration_eq_armed_iff member).mpr waits) settled
    | fired spent => exact cancel_of_spent spent
    | cancelled spent => exact cancel_of_spent spent
  simp [Session.step, accurate.found member, stale]

-----------------------------------------------------------------------------------------
-- Catching up
-----------------------------------------------------------------------------------------

/-- Nobody who is due waits. -/
def NothingDue (session : Session) : Prop :=
  ∀ booking ∈ session.bookings, session.Waits booking → session.now < booking.due

/-- When the timer's thread looks, it starts whoever is due first; otherwise nobody is due. -/
theorem Accurate.look_cases (accurate : session.Accurate) (idle : session.ticking = false)
    (running : session.timer.isShutdown = false)
    : (∃ booking rest,
        session.Starts booking rest
        ∧ session.step .look
          = { session with
              timer := { session.timer.drop booking.handle .fired with deadlines := rest }
              ticking := true
              started := session.started ++ [booking.handle.number] })
      ∨ (session.NothingDue ∧ session.step .look = session) := by
  cases found : session.timer.fireNext? (session.now + 1) with
  | none =>
      refine .inr ⟨fun booking member waits => Nat.lt_of_not_le fun due => ?_, ?_⟩
      · cases (accurate.armed_of_holds member waits).2 with
        | armed _ listed =>
            have silent :=
              fire?_of_fireFirst?_eq_none accurate.inOrder found listed (Nat.lt_succ_of_le due)
            have fires := fire?_of_holds running waits
            rw [← show booking.deadline.token = booking.handle.token from rfl, silent] at fires
            cases fires
      · simp [Session.step, idle, found]
  | some fired =>
      obtain ⟨listener, timer⟩ := fired
      obtain ⟨booking, rest, starts, rfl, rfl⟩ := accurate.starts_of_fireNext? idle found
      exact .inl ⟨booking, rest, starts, by simp [Session.step, idle, found]⟩

/-- The timer's thread has one turn after the other; some of the ticks panic. -/
def turns (panics : List Bool) : List Step :=
  panics.flatMap fun panicked => [.look, .tickOver panicked]

theorem Accurate.run_turns_of_nothing_due (accurate : session.Accurate)
    (idle : session.ticking = false) (nothing : session.NothingDue) (panics : List Bool)
    : session.run (turns panics) = session := by
  have still : session.step .look = session := by
    cases found : session.timer.fireNext? (session.now + 1) with
    | none => simp [Session.step, idle, found]
    | some fired =>
        obtain ⟨booking, rest, starts, _⟩ := accurate.starts_of_fireNext? idle found
        have late := nothing booking starts.member starts.waits
        exact absurd starts.isDue (Nat.not_le_of_lt late)
  have ended (panicked : Bool) : session.step (.tickOver panicked) = session := by
    rw [Session.step, ← idle]
  induction panics with
  | nil => rfl
  | cons first rest ih =>
      show ((session.step .look).step (.tickOver first)).run (turns rest) = session
      rw [still, ended, ih]

/-- What a number of turns comes to. -/
structure CaughtUp (session after : Session) (count : Nat) : Prop where
  now : after.now = session.now
  bookings : after.bookings = session.bookings
  disarmed : after.disarmed = session.disarmed
  /-- Every turn has started a listener, unless nobody was due any more. -/
  progress
    : after.NothingDue ∨ after.started.length = session.started.length + count

theorem Accurate.caughtUp (accurate : session.Accurate) (idle : session.ticking = false)
    (running : session.timer.isShutdown = false) (panics : List Bool)
    : session.CaughtUp (session.run (turns panics)) panics.length := by
  induction panics generalizing session with
  | nil => exact ⟨rfl, rfl, rfl, .inr rfl⟩
  | cons first rest ih =>
      rcases accurate.look_cases idle running with ⟨booking, left, starts, looked⟩ | ⟨nothing, _⟩
      · have next : (session.run (turns (first :: rest)))
            = ((session.step .look).step (.tickOver first)).run (turns rest) := rfl
        have onward := accurate.started starts false
        have still : (session.timer.drop booking.handle .fired).isShutdown = false :=
          (isShutdown_drop _ _ _).trans running
        obtain ⟨now, bookings, disarmed, progress⟩ := ih onward rfl still
        rw [next, looked]
        refine ⟨now, bookings, disarmed, progress.imp_right fun length => ?_⟩
        refine length.trans ?_
        simp only [List.length_append, List.length_cons, List.length_nil]
        omega
      · rw [accurate.run_turns_of_nothing_due idle nothing]
        exact ⟨rfl, rfl, rfl, .inl nothing⟩

/-- A registration whose listener was due is started within as many turns as there are
registrations.
-/
theorem Accurate.started_in_turns (accurate : session.Accurate)
    (running : session.timer.isShutdown = false) {panics : List Bool}
    (enough : session.bookings.length ≤ panics.length) (member : booking ∈ session.bookings)
    (armed : session.IsArmed booking) (due : booking.due ≤ session.now)
    : booking.handle.number ∈ (session.run (.tickOver false :: turns panics)).started := by
  have ready : (session.step (.tickOver false)).Accurate := accurate.step _
  obtain ⟨now, bookings, disarmed, progress⟩ := ready.caughtUp rfl running panics
  have final : (session.run (.tickOver false :: turns panics)).Accurate := accurate.run _
  rw [run_first] at final ⊢
  generalize (session.step (.tickOver false)).run (turns panics) = after at *
  replace bookings : after.bookings = session.bookings := bookings
  have known : booking ∈ after.bookings := bookings ▸ member
  rcases progress with nothing | length
  · obtain ⟨fate, standing⟩ := final.standing booking known
    cases standing with
    | armed waits =>
        have late : session.now < booking.due := now ▸ nothing booking known waits
        exact absurd due (Nat.not_le_of_lt late)
    | fired _ _ began => exact began
    | cancelled _ _ _ gone =>
        have waits := (accurate.registration_eq_armed_iff member).mp armed
        cases (accurate.armed_of_holds member waits).2 with
        | armed _ _ _ kept => exact absurd (disarmed ▸ gone) kept
  · -- Then every registration there is has been started.
    have within : after.started ⊆ List.range after.bookings.length :=
      fun number began => List.mem_range.mpr (final.known number (.inl began))
    have all := (List.subperm_of_subset final.startedOnce within).perm_of_length_le (by
      rw [List.length_range, length, bookings]
      exact Nat.le_trans enough (Nat.le_add_left _ _))
    have inside := (List.getElem?_eq_some_iff.mp (final.found known)).1
    exact all.mem_iff.mpr (List.mem_range.mpr inside)

-----------------------------------------------------------------------------------------
-- Once at most, in order, and never after a cancel
-----------------------------------------------------------------------------------------

/-- How a timer deals with its registrations. -/
structure FiresOnce (session : Session) : Prop where
  /-- A timer that runs takes whoever asks. The registration is armed and due after the delay. -/
  registers
    : session.timer.isShutdown = false
        → ∀ delay,
            ∃ handle,
              handle.number = session.bookings.length
              ∧ (session.step (.register delay)).bookings
                = session.bookings ++ [⟨handle, session.now + delay⟩]
              ∧ (session.step (.register delay)).IsArmed ⟨handle, session.now + delay⟩
  /-- Each listener is started at most once, and of the calls that cancel a registration at most one
  disarms it. -/
  startedOnce : session.started.Nodup
  disarmedOnce : session.disarmed.Nodup
  /-- Each registration is armed until its listener is started or it is disarmed, never both. -/
  fate
    : ∀ booking ∈ session.bookings,
        session.timer.registration booking.handle
        = if booking.handle.number ∈ session.started then .fired
          else if booking.handle.number ∈ session.disarmed then .cancelled
          else .armed
  exclusive : ∀ number ∈ session.disarmed, number ∉ session.started
  /-- A call that cancels a registration disarms exactly that one if it is armed, -/
  cancel_iff
    : ∀ booking ∈ session.bookings,
        (session.timer.cancel booking.handle).1 = true ↔ session.IsArmed booking
  cancelled
    : ∀ booking ∈ session.bookings, session.IsArmed booking
        → (session.step (.cancel booking.handle.number)).disarmed
            = session.disarmed ++ [booking.handle.number]
          ∧ (session.step (.cancel booking.handle.number)).started = session.started
          ∧ (session.step (.cancel booking.handle.number)).bookings = session.bookings
  /-- and does nothing otherwise, whoever has its slot now. -/
  stale
    : ∀ booking ∈ session.bookings, ¬session.IsArmed booking
        → session.timer.cancel booking.handle = (false, session.timer)
          ∧ session.step (.cancel booking.handle.number) = session
  /-- The listener of a registration that was disarmed is never started. -/
  silenced : ∀ number ∈ session.disarmed, ∀ steps, number ∉ (session.run steps).started
  /-- Listeners are started in the order of their deadlines, -/
  ordered : (session.started.map session.due).Pairwise (· ≤ ·)
  /-- as the thread always takes the one that is due first, if there is any, -/
  earliest
    : session.ticking = false → session.timer.isShutdown = false
        → (∃ booking ∈ session.bookings,
            session.IsArmed booking
            ∧ booking.due ≤ session.now
            ∧ (∀ other ∈ session.bookings, session.IsArmed other → booking.due ≤ other.due)
            ∧ (session.step .look).started = session.started ++ [booking.handle.number])
          ∨ ((∀ booking ∈ session.bookings, session.IsArmed booking → session.now < booking.due)
            ∧ session.step .look = session)
  /-- and none that is due is left out, whichever ticks panic. -/
  unskipped
    : session.timer.isShutdown = false
        → ∀ panics : List Bool, session.bookings.length ≤ panics.length
        → ∀ booking ∈ session.bookings, session.IsArmed booking → booking.due ≤ session.now
        → booking.handle.number ∈ (session.run (.tickOver false :: turns panics)).started
  /-- Once the timer is shut down, no listener is started and nothing is registered any more. -/
  stopped
    : session.timer.isShutdown = true
        → ∀ steps,
            (session.run steps).started = session.started
            ∧ (session.run steps).bookings = session.bookings
  refused
    : session.timer.isShutdown = true
        → ∀ listener delay,
            session.timer.register listener (session.now + delay)
              = .error (.shutdown session.timer.name)
            ∧ session.step (.register delay) = session

/-- Whatever is registered and cancelled, by others or by listeners in their ticks, and whichever of
them panic: a timer starts each listener at most once, in order, and none that was cancelled.
-/
theorem fires_once (name : String) (now : Nat) (steps : List Step)
    : ((create name now).run steps).FiresOnce := by
  have accurate := (accurate_create name now).run steps
  have punctual := (punctual_create name now).run (accurate_create name now) steps
  generalize (create name now).run steps = session at accurate punctual
  have waits_iff (booking : Booking) (member : booking ∈ session.bookings)
      : session.IsArmed booking ↔ session.Waits booking :=
    accurate.registration_eq_armed_iff member
  constructor
  case registers =>
    intro running delay
    obtain ⟨handle, timer, stepped, _, number, armed⟩ := accurate.registers running delay
    exact ⟨handle, number, congrArg (·.bookings) stepped, armed⟩
  case startedOnce => exact accurate.startedOnce
  case disarmedOnce => exact accurate.disarmedOnce
  case fate =>
    intro booking member
    obtain ⟨fate, standing⟩ := accurate.standing booking member
    rw [accurate.registration_eq standing]
    cases standing with
    | armed _ _ quiet kept => rw [if_neg quiet, if_neg kept]
    | fired _ _ began => rw [if_pos began]
    | cancelled _ _ quiet gone => rw [if_neg quiet, if_pos gone]
  case exclusive => exact fun number gone => accurate.not_started gone
  case cancel_iff =>
    intro booking member
    refine ⟨fun disarms => ?_, fun armed => (accurate.cancel_of_armed member armed).1⟩
    by_contra settled
    rw [(accurate.cancel_of_not_armed member settled).1] at disarms
    exact Bool.false_ne_true disarms
  case cancelled =>
    intro booking member armed
    rw [(accurate.cancel_of_armed member armed).2]
    exact ⟨rfl, rfl, rfl⟩
  case stale => exact fun booking member => accurate.cancel_of_not_armed member
  case silenced =>
    intro number gone steps
    exact (accurate.run steps).not_started (accurate.disarmed_subset steps gone)
  case ordered => exact punctual.ordered
  case earliest =>
    intro idle running
    rcases accurate.look_cases idle running with ⟨booking, rest, starts, looked⟩ | ⟨nothing, still⟩
    · refine .inl ⟨booking, starts.member, (waits_iff _ starts.member).mpr starts.waits,
        starts.isDue, fun other known armed => ?_, congrArg (·.started) looked⟩
      exact starts.first other known ((waits_iff other known).mp armed)
    · exact .inr ⟨fun booking member armed =>
        nothing booking member ((waits_iff booking member).mp armed), still⟩
  case unskipped =>
    exact fun running panics enough booking member armed due =>
      accurate.started_in_turns running enough member armed due
  case stopped => exact fun stopped steps => accurate.stopped_run stopped steps
  case refused =>
    intro stopped listener delay
    refine ⟨register_of_shutdown stopped _ _, ?_⟩
    simp [Session.step, register_of_shutdown stopped]

/-- A listener cancels another one that is already due, and panics; the third one takes the slot of
the first. -/
example
    : let session :=
        (create "sample" 0).run
          [.register 5, .register 6, .pass 10, .look, .register 0, .cancel 0, .cancel 1,
            .tickOver true, .look]
      session.started = [0, 2] ∧ session.disarmed = [1] := by
  decide

end Breakwater.Timer.Session
