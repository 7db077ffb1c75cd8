import Breakwater.Proofs.Timer.Deadlines

/-! Runs of a timer. Listeners are registered and cancelled in any order, by others and by listeners
in the middle of their tick, while the timer's thread starts what is due, one after the other. What
becomes of each registration, and which deadlines are left, is an invariant of these runs.
-/

namespace Breakwater.Timer

/-- One registration, as its holder knows it. -/
structure Booking where
  handle : TimerHandle
  due : Nat

/-- The entry under which a registration is listed. -/
def Booking.deadline (booking : Booking) : Deadline := ⟨booking.due, booking.handle.token⟩

/-- A timer in use. The listener of a registration goes by the registration's number. -/
structure Session where
  now : Nat
  timer : Timer Nat
  /-- All registrations so far. -/
  bookings : List Booking
  /-- Whether the timer's thread is in the middle of a tick. -/
  ticking : Bool
  /-- Listeners that were started, the first one first. -/
  started : List Nat
  /-- Registrations that a call has disarmed, the first one first. -/
  disarmed : List Nat

namespace Session

/-- One thing that can happen to a timer. What a listener does in its tick are the steps between its
start and the end of the tick.
-/
inductive Step where
  | pass (millis : Nat)
  | register (delay : Nat)
  /-- Whoever holds the handle of a registration cancels it. -/
  | cancel (number : Nat)
  /-- The timer's thread looks for a listener to start, unless it is in the middle of a tick. -/
  | look
  | tickOver (panicked : Bool)
  | shutdown

/-- A new timer. -/
def create (name : String) (now : Nat) : Session := ⟨now, .create name, [], false, [], []⟩

variable (session : Session)

/-- Take one step. -/
def step : Step → Session
  | .pass millis => { session with now := session.now + millis }
  | .register delay =>
      let due := session.now + delay
      match session.timer.register session.bookings.length due with
      | .ok (handle, timer) =>
          { session with timer, bookings := session.bookings ++ [⟨handle, due⟩] }
      | .error _ => session
  | .cancel number =>
      match session.bookings[number]? with
      | none => session
      | some booking =>
          let (disarms, timer) := session.timer.cancel booking.handle
          { session with
            timer
            disarmed := if disarms then session.disarmed ++ [number] else session.disarmed }
  | .look =>
      if session.ticking then session
      else
        match session.timer.fireNext? (session.now + 1) with
        | none => session
        | some (listener, timer) =>
            { session with timer, ticking := true, started := session.started ++ [listener] }
  | .tickOver _ => { session with ticking := false }
  | .shutdown => { session with timer := session.timer.shutdown }

/-- Take steps in order. -/
def run (steps : List Step) : Session := steps.foldl step session

@[simp]
theorem run_nothing : session.run [] = session := rfl

@[simp]
theorem run_first (first : Step) (rest : List Step)
    : session.run (first :: rest) = (session.step first).run rest := rfl

@[simp]
theorem run_more (first rest : List Step)
    : session.run (first ++ rest) = (session.run first).run rest :=
  List.foldl_append

/-- When a registration is due. -/
def due (number : Nat) : Nat := (session.bookings[number]?.map (·.due)).getD 0

-----------------------------------------------------------------------------------------
-- Where a registration stands
-----------------------------------------------------------------------------------------

/-- Whether the listener of a registration still waits. -/
def Waits (booking : Booking) : Prop :=
  session.timer.Holds booking.handle.number booking.handle

/-- A registration is armed, was started or was disarmed, and its slot shows which. -/
inductive Standing (booking : Booking) : Registration → Prop where
  | armed
      (waits : session.Waits booking)
      (listed : booking.deadline ∈ session.timer.deadlines)
      (quiet : booking.handle.number ∉ session.started)
      (kept : booking.handle.number ∉ session.disarmed)
      : Standing booking .armed
  | fired
      (spent : session.timer.Spent booking.handle)
      (marked : session.timer.registrations[booking.handle.number]? = some .fired)
      (began : booking.handle.number ∈ session.started)
      (kept : booking.handle.number ∉ session.disarmed)
      : Standing booking .fired
  | cancelled
      (spent : session.timer.Spent booking.handle)
      (marked : session.timer.registrations[booking.handle.number]? = some .cancelled)
      (quiet : booking.handle.number ∉ session.started)
      (gone : booking.handle.number ∈ session.disarmed)
      : Standing booking .cancelled

/-- The registrations, the slots and the deadlines of a timer belong together. -/
structure Accurate : Prop where
  sound : session.timer.Sound
  counted : session.timer.registrations.length = session.bookings.length
  numbered
    : ∀ (number : Nat) booking,
        session.bookings[number]? = some booking → booking.handle.number = number
  standing : ∀ booking ∈ session.bookings, ∃ fate, session.Standing booking fate
  booked
    : ∀ listener handle,
        session.timer.Holds listener handle
        → ∃ booking ∈ session.bookings, booking.handle = handle
  inOrder : session.timer.deadlines.Pairwise (·.due ≤ ·.due)
  dues
    : ∀ deadline ∈ session.timer.deadlines,
        ∃ booking ∈ session.bookings,
          booking.handle.token = deadline.token ∧ booking.due = deadline.due
  startedOnce : session.started.Nodup
  disarmedOnce : session.disarmed.Nodup
  known
    : ∀ number, number ∈ session.started ∨ number ∈ session.disarmed
        → number < session.bookings.length

end Session

-----------------------------------------------------------------------------------------
-- The parts of a timer on which its arena depends
-----------------------------------------------------------------------------------------

section

variable {ι : Type} {timer other : Timer ι} {listener : ι} {handle held : TimerHandle}

theorem Sound.congr (sound : timer.Sound) (slots : other.slots = timer.slots)
    (free : other.free = timer.free) (registrations : other.registrations = timer.registrations)
    : other.Sound := by
  obtain ⟨_, _, _, _, _, _⟩ := timer
  obtain ⟨_, _, _, _, _, _⟩ := other
  subst slots free registrations
  exact ⟨sound.distinct, sound.vacant, sound.armed, sound.numbered⟩

theorem Spent.congr (spent : timer.Spent handle) (slots : other.slots = timer.slots)
    (registrations : other.registrations = timer.registrations) : other.Spent handle :=
  ⟨slots ▸ spent.passed, registrations ▸ spent.settled⟩

/-- Nobody waits under the token of a spent handle. -/
theorem Spent.not_holds (spent : timer.Spent handle) (token : held.token = handle.token)
    : ¬timer.Holds listener held := by
  intro holds
  obtain ⟨slot, found, passed⟩ := spent.passed
  unfold Holds at holds
  rw [token, found] at holds
  cases holds
  exact Nat.lt_irrefl _ passed

end

namespace Session

variable {session after : Session} {booking other : Booking} {fate : Registration}

theorem due_eq {number : Nat} (found : session.bookings[number]? = some booking)
    : session.due number = booking.due := by
  rw [due, found]
  rfl

/-- Where a registration stands depends on what is known of it alone. -/
theorem Standing.mono (standing : session.Standing booking fate)
    (waits : session.Waits booking → after.Waits booking)
    (listed
      : session.Waits booking → booking.deadline ∈ session.timer.deadlines
          → booking.deadline ∈ after.timer.deadlines)
    (spent : session.timer.Spent booking.handle → after.timer.Spent booking.handle)
    (marked
      : ∀ mark, session.timer.registrations[booking.handle.number]? = some mark
          → after.timer.registrations[booking.handle.number]? = some mark)
    (started : booking.handle.number ∈ after.started ↔ booking.handle.number ∈ session.started)
    (disarmed
      : booking.handle.number ∈ after.disarmed ↔ booking.handle.number ∈ session.disarmed)
    : after.Standing booking fate := by
  cases standing with
  | armed held there quiet kept =>
      exact .armed (waits held) (listed held there) (mt started.mp quiet) (mt disarmed.mp kept)
  | fired gone mark began kept =>
      exact .fired (spent gone) (marked _ mark) (started.mpr began) (mt disarmed.mp kept)
  | cancelled spentHandle mark quiet gone =>
      exact .cancelled (spent spentHandle) (marked _ mark) (mt started.mp quiet)
        (disarmed.mpr gone)

namespace Accurate

variable (accurate : session.Accurate)
include accurate

theorem found (member : booking ∈ session.bookings)
    : session.bookings[booking.handle.number]? = some booking := by
  obtain ⟨number, found⟩ := List.mem_iff_getElem?.mp member
  rw [accurate.numbered number booking found, found]

/-- A registration is known by its number. -/
theorem unique (member : booking ∈ session.bookings) (known : other ∈ session.bookings)
    (same : other.handle.number = booking.handle.number) : other = booking := by
  have found := accurate.found member
  rw [← same, accurate.found known] at found
  exact Option.some.inj found

/-- The listener that waits under the handle of a registration is its own. -/
theorem armed_of_holds (member : booking ∈ session.bookings) {listener : Nat}
    (holds : session.timer.Holds listener booking.handle)
    : listener = booking.handle.number ∧ session.Standing booking .armed := by
  obtain ⟨fate, standing⟩ := accurate.standing booking member
  cases standing with
  | armed waits listed quiet kept =>
      exact ⟨(holds.unique waits rfl).1, .armed waits listed quiet kept⟩
  | fired spent => exact absurd holds (spent.not_holds rfl)
  | cancelled spent => exact absurd holds (spent.not_holds rfl)

/-- Two registrations whose listeners wait have different slots. -/
theorem apart (member : booking ∈ session.bookings) (known : other ∈ session.bookings)
    (different : other ≠ booking) (waits : session.Waits booking) (also : session.Waits other)
    : other.handle.token.index ≠ booking.handle.token.index := by
  intro same
  obtain ⟨_, handles⟩ := Holds.unique also waits same
  exact different (accurate.unique member known (congrArg (·.number) handles))

/-- What the table says of a registration is where it stands. -/
theorem registration_eq (standing : session.Standing booking fate)
    : session.timer.registration booking.handle = fate := by
  have marked : session.timer.registrations[booking.handle.number]? = some fate := by
    cases standing with
    | armed waits => exact accurate.sound.armed _ _ waits
    | fired _ marked => exact marked
    | cancelled _ marked => exact marked
  rw [registration, marked]
  rfl

theorem registration_eq_armed_iff (member : booking ∈ session.bookings)
    : session.timer.registration booking.handle = .armed ↔ session.Waits booking := by
  constructor
  · intro armed
    obtain ⟨fate, standing⟩ := accurate.standing booking member
    obtain rfl : fate = .armed := (accurate.registration_eq standing).symm.trans armed
    cases standing with
    | armed waits => exact waits
  · intro waits
    exact accurate.registration_eq (accurate.armed_of_holds member waits).2

/-- A listed deadline that somebody waits for is that of their registration. -/
theorem due_of_listed {deadline : Deadline} (listed : deadline ∈ session.timer.deadlines)
    (member : booking ∈ session.bookings) (waits : session.Waits booking)
    (token : booking.handle.token = deadline.token) : booking.due = deadline.due := by
  obtain ⟨owner, known, owned, due⟩ := accurate.dues deadline listed
  obtain ⟨fate, standing⟩ := accurate.standing owner known
  have same : booking.handle.token = owner.handle.token := token.trans owned.symm
  cases standing with
  | armed held =>
      obtain ⟨_, handles⟩ := Holds.unique waits held (congrArg (·.index) same)
      have := accurate.unique known member (congrArg (·.number) handles)
      rw [this, due]
  | fired spent => exact absurd waits (spent.not_holds same)
  | cancelled spent => exact absurd waits (spent.not_holds same)

end Accurate

-----------------------------------------------------------------------------------------
-- What a step does
-----------------------------------------------------------------------------------------

/-- The timer's thread starts the listener of a registration; some deadlines are left. -/
structure Starts (session : Session) (booking : Booking) (rest : List Deadline) : Prop where
  idle : session.ticking = false
  running : session.timer.isShutdown = false
  member : booking ∈ session.bookings
  waits : session.Waits booking
  isDue : booking.due ≤ session.now
  first : ∀ other ∈ session.bookings, session.Waits other → booking.due ≤ other.due
  left : rest.Sublist session.timer.deadlines
  others
    : ∀ other ∈ session.bookings,
        session.Waits other → other ≠ booking → other.deadline ∈ rest

/-- What a step can do. -/
inductive Effect (session : Session) : Session → Prop where
  | waited {now : Nat} (onward : session.now ≤ now) (ticking : Bool)
      : Effect session { session with now, ticking }
  | registered {handle : TimerHandle} {due : Nat} {timer : Timer Nat}
      (took : Registered session.timer session.bookings.length handle timer)
      (listed : timer.deadlines = insertDeadline ⟨due, handle.token⟩ session.timer.deadlines)
      (running : session.timer.isShutdown = false)
      (still : timer.isShutdown = false)
      (ahead : session.now ≤ due)
      : Effect session { session with timer, bookings := session.bookings ++ [⟨handle, due⟩] }
  | disarmed {booking : Booking} (member : booking ∈ session.bookings)
      (waits : session.Waits booking)
      : Effect session
          { session with
            timer := session.timer.drop booking.handle .cancelled
            disarmed := session.disarmed ++ [booking.handle.number] }
  | started {booking : Booking} {rest : List Deadline} (starts : session.Starts booking rest)
      : Effect session
          { session with
            timer := { session.timer.drop booking.handle .fired with deadlines := rest }
            ticking := true
            started := session.started ++ [booking.handle.number] }
  | stopped : Effect session { session with timer := session.timer.shutdown }

/-- What the timer's thread finds first is the earliest registration that still waits. -/
theorem Accurate.starts_of_fireNext? (accurate : session.Accurate) (idle : session.ticking = false)
    {listener : Nat} {timer : Timer Nat}
    (fired : session.timer.fireNext? (session.now + 1) = some (listener, timer))
    : ∃ booking rest,
        session.Starts booking rest
        ∧ listener = booking.handle.number
        ∧ timer = { session.timer.drop booking.handle .fired with deadlines := rest } := by
  obtain ⟨passed, deadline, rest, number, split, silent, early, running, holds, rfl⟩ :=
    fireFirst?_cases fired
  obtain ⟨booking, member, handle⟩ := accurate.booked _ _ holds
  rw [← handle] at holds ⊢
  obtain ⟨rfl, standing⟩ := accurate.armed_of_holds member holds
  have listed : deadline ∈ session.timer.deadlines := by
    rw [split]
    exact List.mem_append_right _ List.mem_cons_self
  have token : booking.handle.token = deadline.token := congrArg (·.token) handle
  have due : booking.due = deadline.due := accurate.due_of_listed listed member holds token
  have after : (deadline :: rest).Sublist session.timer.deadlines :=
    split ▸ List.sublist_append_right passed _
  -- Whoever else waits is listed no earlier.
  have later (other : Booking) (known : other ∈ session.bookings)
      (waits : session.Waits other) : other.deadline ∈ deadline :: rest := by
    obtain ⟨_, standing⟩ := accurate.armed_of_holds known waits
    cases standing with
    | armed _ there =>
        rw [split] at there
        rcases List.mem_append.mp there with before | behind
        · have fires := fire?_of_holds running waits
          rw [← show other.deadline.token = other.handle.token from rfl, silent _ before] at fires
          cases fires
        · exact behind
  refine ⟨booking, rest, ?_, rfl, rfl⟩
  constructor
  case idle => exact idle
  case running => exact running
  case member => exact member
  case waits => exact holds
  case isDue => omega
  case first =>
    intro other known waits
    have ordered := accurate.inOrder.sublist after
    rw [due]
    rcases List.mem_cons.mp (later other known waits) with same | behind
    · exact Nat.le_of_eq (congrArg (·.due) same).symm
    · exact (List.pairwise_cons.mp ordered).1 _ behind
  case left => exact (List.sublist_cons_self _ _).trans after
  case others =>
    intro other known waits different
    refine (List.mem_cons.mp (later other known waits)).resolve_left fun same => ?_
    have token : other.handle.token = booking.handle.token :=
      (congrArg (·.token) same).trans token.symm
    exact accurate.apart member known different holds waits (congrArg (·.index) token)

theorem Accurate.effect_step (accurate : session.Accurate) (step : Step)
    : session.Effect (session.step step) := by
  cases step with
  | pass millis => exact .waited (Nat.le_add_right _ millis) session.ticking
  | register delay =>
      simp only [Session.step]
      split
      · rename_i handle timer took
        obtain ⟨listed, running, still⟩ := deadlines_of_register took
        exact .registered (registered_of_register accurate.sound took) listed running still
          (Nat.le_add_right _ delay)
      · exact .waited (Nat.le_refl _) session.ticking
  | cancel number =>
      simp only [Session.step]
      split
      · exact .waited (Nat.le_refl _) session.ticking
      · rename_i booking found
        have member := List.mem_of_getElem? found
        have named := accurate.numbered number booking found
        obtain ⟨fate, standing⟩ := accurate.standing booking member
        cases standing with
        | armed waits =>
            rw [cancel_of_holds accurate.sound waits, ← named]
            exact .disarmed member waits
        | fired spent =>
            rw [cancel_of_spent spent]
            exact .waited (Nat.le_refl _) session.ticking
        | cancelled spent =>
            rw [cancel_of_spent spent]
            exact .waited (Nat.le_refl _) session.ticking
  | look =>
      simp only [Session.step]
      split
      · exact .waited (Nat.le_refl _) session.ticking
      · rename_i idle
        split
        · exact .waited (Nat.le_refl _) session.ticking
        · rename_i fired
          obtain ⟨booking, rest, starts, rfl, rfl⟩ :=
            accurate.starts_of_fireNext? (eq_false_of_ne_true idle) fired
          exact .started starts
  | tickOver panicked => exact .waited (Nat.le_refl _) false
  | shutdown => exact .stopped

end Session

end Breakwater.Timer
