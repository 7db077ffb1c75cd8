import Mathlib.Data.List.Nodup
import Breakwater.Proofs.Timer.Session

/-! What a timer's slots, its table and its deadlines say of the registrations is right after every
run, and its listeners have been started in the order of their deadlines.
-/

namespace Breakwater.Timer.Session

variable {session after : Session} {booking other : Booking}

-----------------------------------------------------------------------------------------
-- What every step keeps
-----------------------------------------------------------------------------------------

theorem accurate_create (name : String) (now : Nat) : (create name now).Accurate where
  sound := sound_create name
  counted := rfl
  numbered number booking found := by cases found
  standing booking member := by cases member
  booked listener handle holds := by cases holds
  inOrder := List.Pairwise.nil
  dues deadline listed := by cases listed
  startedOnce := List.nodup_nil
  disarmedOnce := List.nodup_nil
  known number listed := by rcases listed with listed | listed <;> cases listed

/-- The end of one registration leaves the others where they stand. -/
theorem Accurate.standing_drop (accurate : session.Accurate) (member : booking ∈ session.bookings)
    (waits : session.Waits booking) {mark : Registration} (ended : mark ≠ .armed)
    (timer
      : after.timer
        = { session.timer.drop booking.handle mark with deadlines := after.timer.deadlines })
    (known : other ∈ session.bookings) (different : other ≠ booking)
    (listed : session.Waits other → other.deadline ∈ after.timer.deadlines)
    (started : other.handle.number ∈ after.started ↔ other.handle.number ∈ session.started)
    (disarmed : other.handle.number ∈ after.disarmed ↔ other.handle.number ∈ session.disarmed)
    : ∃ fate, after.Standing other fate := by
  have slots : after.timer.slots = (session.timer.drop booking.handle mark).slots :=
    congrArg (·.slots) timer
  have table
      : after.timer.registrations = (session.timer.drop booking.handle mark).registrations :=
    congrArg (·.registrations) timer
  obtain ⟨fate, standing⟩ := accurate.standing other known
  refine ⟨fate, standing.mono ?_ (fun held _ => listed held) ?_ ?_ started disarmed⟩
  · intro held
    unfold Waits Holds
    rw [slots]
    exact (holds_drop_iff waits mark).mpr ⟨held, accurate.apart member known different waits held⟩
  · intro spent
    exact (spent.drop waits ended).congr slots table
  · intro old marked
    rw [table, registrations_drop waits, List.getElem?_set_ne]
    · exact marked
    · exact fun same => different (accurate.unique member known same.symm)

/-- What is known of a timer whose registration of a booking has come to its end. -/
theorem Accurate.ended (accurate : session.Accurate) (member : booking ∈ session.bookings)
    (waits : session.Waits booking) {mark : Registration} (ended : mark ≠ .armed)
    (bookings : after.bookings = session.bookings)
    (timer
      : after.timer
        = { session.timer.drop booking.handle mark with deadlines := after.timer.deadlines })
    (left : after.timer.deadlines.Sublist session.timer.deadlines)
    (listed
      : ∀ other ∈ session.bookings,
          session.Waits other → other ≠ booking → other.deadline ∈ after.timer.deadlines)
    (standing : after.Standing booking mark)
    (others
      : ∀ number ≠ booking.handle.number,
          (number ∈ after.started ↔ number ∈ session.started)
          ∧ (number ∈ after.disarmed ↔ number ∈ session.disarmed))
    (startedOnce : after.started.Nodup) (disarmedOnce : after.disarmed.Nodup)
    : after.Accurate := by
  have slots : after.timer.slots = (session.timer.drop booking.handle mark).slots :=
    congrArg (·.slots) timer
  have table
      : after.timer.registrations = (session.timer.drop booking.handle mark).registrations :=
    congrArg (·.registrations) timer
  constructor
  case sound =>
    exact (accurate.sound.drop waits mark).congr slots (congrArg (·.free) timer) table
  case counted =>
    rw [table, registrations_drop waits, List.length_set, accurate.counted, bookings]
  case numbered =>
    rw [bookings]
    exact accurate.numbered
  case standing =>
    rw [bookings]
    intro other known
    by_cases same : other = booking
    · exact ⟨mark, same ▸ standing⟩
    · have number : other.handle.number ≠ booking.handle.number :=
        fun equal => same (accurate.unique member known equal)
      exact accurate.standing_drop member waits ended timer known same
        (fun held => listed other known held same) (others _ number).1 (others _ number).2
  case booked =>
    rw [bookings]
    intro listener handle holds
    unfold Holds at holds
    rw [slots] at holds
    exact accurate.booked listener handle ((holds_drop_iff waits mark).mp holds).1
  case inOrder => exact accurate.inOrder.sublist left
  case dues =>
    rw [bookings]
    exact fun deadline there => accurate.dues deadline (left.subset there)
  case startedOnce => exact startedOnce
  case disarmedOnce => exact disarmedOnce
  case known =>
    intro number ends
    rw [bookings]
    by_cases same : number = booking.handle.number
    · rw [same]
      exact (List.getElem?_eq_some_iff.mp (accurate.found member)).1
    · refine accurate.known number (ends.imp ?_ ?_)
      · exact (others number same).1.mp
      · exact (others number same).2.mp

theorem Accurate.registered (accurate : session.Accurate) {handle : TimerHandle} {due : Nat}
    {timer : Timer Nat} (took : Registered session.timer session.bookings.length handle timer)
    (entry : timer.deadlines = insertDeadline ⟨due, handle.token⟩ session.timer.deadlines)
    : Accurate { session with timer, bookings := session.bookings ++ [⟨handle, due⟩] } := by
  have number : handle.number = session.bookings.length := took.number.trans accurate.counted
  have fresh : handle.number ∉ session.started ∧ handle.number ∉ session.disarmed := by
    constructor
    · exact fun listed => Nat.lt_irrefl _ (number ▸ accurate.known _ (.inl listed))
    · exact fun listed => Nat.lt_irrefl _ (number ▸ accurate.known _ (.inr listed))
  constructor
  case sound => exact took.sound accurate.sound
  case counted =>
    show timer.registrations.length = (session.bookings ++ [Booking.mk handle due]).length
    rw [took.registrations, List.length_append, List.length_append, accurate.counted]
    rfl
  case numbered =>
    intro place booking found
    replace found : (session.bookings ++ [⟨handle, due⟩])[place]? = some booking := found
    rw [List.getElem?_append] at found
    split at found
    · exact accurate.numbered place booking found
    · rename_i beyond
      obtain ⟨within, rfl⟩ := List.getElem?_eq_some_iff.mp found
      have last : place = session.bookings.length := by
        simp only [List.length_singleton] at within
        omega
      simp [number, last]
  case standing =>
    intro booking member
    rcases List.mem_append.mp member with old | new
    · obtain ⟨fate, standing⟩ := accurate.standing booking old
      refine ⟨fate, standing.mono ?_ ?_ took.spent ?_ Iff.rfl Iff.rfl⟩
      · exact fun waits => (took.holds_iff accurate.sound).mpr (.inl waits)
      · intro _ listed
        show booking.deadline ∈ timer.deadlines
        rw [entry]
        exact mem_insertDeadline.mpr (.inr listed)
      · intro mark marked
        show timer.registrations[booking.handle.number]? = some mark
        rw [took.registrations, List.getElem?_append_left]
        · exact marked
        · exact (List.getElem?_eq_some_iff.mp marked).1
    · obtain rfl := List.mem_singleton.mp new
      refine ⟨.armed, .armed ?_ ?_ fresh.1 fresh.2⟩
      · show timer.Holds handle.number handle
        rw [number]
        exact took.holds
      · show _ ∈ timer.deadlines
        rw [entry]
        exact mem_insertDeadline.mpr (.inl rfl)
  case booked =>
    intro listener held holds
    rcases (took.holds_iff accurate.sound).mp holds with old | ⟨_, rfl⟩
    · obtain ⟨booking, member, same⟩ := accurate.booked listener held old
      exact ⟨booking, List.mem_append_left _ member, same⟩
    · exact ⟨⟨held, due⟩, List.mem_append_right _ (List.mem_singleton.mpr rfl), rfl⟩
  case inOrder =>
    show timer.deadlines.Pairwise (·.due ≤ ·.due)
    rw [entry]
    exact pairwise_insertDeadline accurate.inOrder
  case dues =>
    intro deadline listed
    replace listed : deadline ∈ timer.deadlines := listed
    rw [entry] at listed
    rcases mem_insertDeadline.mp listed with rfl | old
    · exact ⟨⟨handle, due⟩, List.mem_append_right _ (List.mem_singleton.mpr rfl), rfl, rfl⟩
    · obtain ⟨booking, member, same⟩ := accurate.dues deadline old
      exact ⟨booking, List.mem_append_left _ member, same⟩
  case startedOnce => exact accurate.startedOnce
  case disarmedOnce => exact accurate.disarmedOnce
  case known =>
    intro place listed
    have within := accurate.known place listed
    simp only [List.length_append]
    exact Nat.lt_add_right _ within

/-- The clock, the thread and the switch of a timer have no part in what its slots show. -/
theorem Accurate.congr (accurate : session.Accurate) (now : Nat) (ticking isShutdown : Bool)
    : Accurate
        { session with
          now, ticking, timer := { session.timer with isShutdown := isShutdown } } where
  sound := accurate.sound.congr rfl rfl rfl
  counted := accurate.counted
  numbered := accurate.numbered
  standing booking member := by
    obtain ⟨fate, standing⟩ := accurate.standing booking member
    refine ⟨fate, standing.mono id (fun _ => id) ?_ (fun _ => id) Iff.rfl Iff.rfl⟩
    exact fun spent => spent.congr rfl rfl
  booked := accurate.booked
  inOrder := accurate.inOrder
  dues := accurate.dues
  startedOnce := accurate.startedOnce
  disarmedOnce := accurate.disarmedOnce
  known := accurate.known

theorem Accurate.disarmed (accurate : session.Accurate) (member : booking ∈ session.bookings)
    (waits : session.Waits booking)
    : Accurate
        { session with
          timer := session.timer.drop booking.handle .cancelled
          disarmed := session.disarmed ++ [booking.handle.number] } := by
  have ended : Registration.cancelled ≠ .armed := by decide
  have deadlines
      : (session.timer.drop booking.handle .cancelled).deadlines = session.timer.deadlines := by
    rw [drop_eq waits]
  obtain ⟨_, standing⟩ := accurate.armed_of_holds member waits
  cases standing with
  | armed _ _ quiet kept =>
      have inside := (List.getElem?_eq_some_iff.mp (accurate.sound.armed _ _ waits)).1
      apply accurate.ended member waits ended
      case bookings => rfl
      case timer => rfl
      case left => exact deadlines ▸ List.Sublist.refl _
      case listed =>
        intro other known held _
        cases (accurate.armed_of_holds known held).2 with
        | armed _ listed => exact deadlines ▸ listed
      case standing =>
        refine .cancelled (spent_drop accurate.sound waits ended) ?_ quiet ?_
        · rw [registrations_drop waits, List.getElem?_set_self inside]
        · exact List.mem_append_right _ (List.mem_singleton.mpr rfl)
      case others =>
        intro number different
        exact ⟨Iff.rfl, by simp [different]⟩
      case startedOnce => exact accurate.startedOnce
      case disarmedOnce =>
        exact List.nodup_append_comm.mpr (List.nodup_cons.mpr ⟨kept, accurate.disarmedOnce⟩)

theorem Accurate.started (accurate : session.Accurate) {rest : List Deadline}
    (starts : session.Starts booking rest) (ticking : Bool)
    : Accurate
        { session with
          timer := { session.timer.drop booking.handle .fired with deadlines := rest }
          ticking
          started := session.started ++ [booking.handle.number] } := by
  have ended : Registration.fired ≠ .armed := by decide
  have waits := starts.waits
  obtain ⟨_, standing⟩ := accurate.armed_of_holds starts.member waits
  cases standing with
  | armed _ _ quiet kept =>
      have inside := (List.getElem?_eq_some_iff.mp (accurate.sound.armed _ _ waits)).1
      apply accurate.ended starts.member waits ended
      case bookings => rfl
      case timer => rfl
      case left => exact starts.left
      case listed => exact starts.others
      case standing =>
        refine .fired ((spent_drop accurate.sound waits ended).congr rfl rfl) ?_ ?_ kept
        · show (session.timer.drop booking.handle .fired).registrations[_]? = _
          rw [registrations_drop waits, List.getElem?_set_self inside]
        · exact List.mem_append_right _ (List.mem_singleton.mpr rfl)
      case others =>
        intro number different
        exact ⟨by simp [different], Iff.rfl⟩
      case startedOnce =>
        exact List.nodup_append_comm.mpr (List.nodup_cons.mpr ⟨quiet, accurate.startedOnce⟩)
      case disarmedOnce => exact accurate.disarmedOnce

theorem Accurate.effect (accurate : session.Accurate) (effect : session.Effect after)
    : after.Accurate := by
  cases effect with
  | waited => exact accurate.congr _ _ _
  | registered took listed => exact accurate.registered took listed
  | disarmed member waits => exact accurate.disarmed member waits
  | started starts => exact accurate.started starts true
  | stopped => exact accurate.congr _ _ true

theorem Accurate.step (accurate : session.Accurate) (step : Step)
    : (session.step step).Accurate :=
  accurate.effect (accurate.effect_step step)

theorem Accurate.run (accurate : session.Accurate) (steps : List Step)
    : (session.run steps).Accurate := by
  induction steps generalizing session with
  | nil => exact accurate
  | cons first rest ih => exact ih (accurate.step first)

-----------------------------------------------------------------------------------------
-- The order of the ticks
-----------------------------------------------------------------------------------------

/-- Listeners were started in the order of their deadlines, and whoever waits is due no earlier. -/
structure Punctual (session : Session) : Prop where
  ordered : (session.started.map session.due).Pairwise (· ≤ ·)
  past : ∀ number ∈ session.started, session.due number ≤ session.now
  ahead
    : ∀ number ∈ session.started, ∀ booking ∈ session.bookings,
        session.Waits booking → session.due number ≤ booking.due

theorem punctual_create (name : String) (now : Nat) : (create name now).Punctual where
  ordered := List.Pairwise.nil
  past number listed := by cases listed
  ahead number listed := by cases listed

theorem Punctual.effect (punctual : session.Punctual) (accurate : session.Accurate)
    (effect : session.Effect after) : after.Punctual := by
  cases effect with
  | waited onward =>
      have past (number : Nat) (listed : number ∈ session.started) :=
        Nat.le_trans (punctual.past number listed) onward
      exact ⟨punctual.ordered, past, punctual.ahead⟩
  | @registered handle due timer took _ _ _ ahead =>
      have same (number : Nat) (listed : number ∈ session.started)
          : (session.bookings ++ [⟨handle, due⟩])[number]? = session.bookings[number]? :=
        List.getElem?_append_left (accurate.known number (.inl listed))
      have dues (number : Nat) (listed : number ∈ session.started)
          : Session.due
              { session with timer, bookings := session.bookings ++ [⟨handle, due⟩] } number
            = session.due number := by
        rw [Session.due, same number listed]
        rfl
      constructor
      case ordered =>
        rw [List.map_congr_left dues]
        exact punctual.ordered
      case past =>
        intro number listed
        rw [dues number listed]
        exact punctual.past number listed
      case ahead =>
        intro number listed booking member held
        rw [dues number listed]
        rcases List.mem_append.mp member with old | new
        · have inside := (List.getElem?_eq_some_iff.mp (accurate.found old)).1
          rcases (took.holds_iff accurate.sound).mp held with waits | ⟨beyond, _⟩
          · exact punctual.ahead number listed booking old waits
          · exact absurd inside (Nat.not_lt_of_le (Nat.le_of_eq beyond.symm))
        · obtain rfl := List.mem_singleton.mp new
          exact Nat.le_trans (punctual.past number listed) ahead
  | @disarmed booking member waits =>
      refine ⟨punctual.ordered, punctual.past, fun number listed other known held => ?_⟩
      exact punctual.ahead number listed other known ((holds_drop_iff waits _).mp held).1
  | @started booking rest starts =>
      have own : session.due booking.handle.number = booking.due :=
        due_eq (accurate.found starts.member)
      have earlier (number : Nat) (listed : number ∈ session.started)
          : session.due number ≤ booking.due :=
        punctual.ahead number listed booking starts.member starts.waits
      constructor
      case ordered =>
        show ((session.started ++ [booking.handle.number]).map session.due).Pairwise (· ≤ ·)
        rw [List.map_append, List.pairwise_append]
        refine ⟨punctual.ordered, List.pairwise_singleton _ _, ?_⟩
        intro first listed last new
        obtain ⟨number, began, rfl⟩ := List.mem_map.mp listed
        obtain rfl := List.mem_singleton.mp new
        exact own ▸ earlier number began
      case past =>
        intro number listed
        rcases List.mem_append.mp listed with began | new
        · exact punctual.past number began
        · obtain rfl := List.mem_singleton.mp new
          exact Nat.le_trans (Nat.le_of_eq own) starts.isDue
      case ahead =>
        intro number listed other known held
        have waits : session.Waits other := ((holds_drop_iff starts.waits _).mp held).1
        rcases List.mem_append.mp listed with began | new
        · exact punctual.ahead number began other known waits
        · obtain rfl := List.mem_singleton.mp new
          exact Nat.le_trans (Nat.le_of_eq own) (starts.first other known waits)
  | stopped => exact ⟨punctual.ordered, punctual.past, punctual.ahead⟩

theorem Punctual.run (punctual : session.Punctual) (accurate : session.Accurate)
    (steps : List Step) : (session.run steps).Punctual := by
  induction steps generalizing session with
  | nil => exact punctual
  | cons first rest ih =>
      exact ih (punctual.effect accurate (accurate.effect_step first)) (accurate.step first)

end Breakwater.Timer.Session
