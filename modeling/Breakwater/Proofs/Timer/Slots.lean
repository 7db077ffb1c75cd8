import Breakwater.Proofs.Timer.FiresOnce

/-! How the slots of a timer are used again. A slot is listed as free or is that of one armed
registration. It gets older whenever it is given back, so that no two registrations ever have the
same token, and none finds its slot again once it was given back.
-/

namespace Breakwater.Timer

section

variable {ι : Type} {timer after : Timer ι} {listener : ι} {handle : TimerHandle}

/-- Somebody waits in every slot that is not free. -/
def Occupied (timer : Timer ι) : Prop :=
  ∀ (index : Nat) slot,
    timer.slots[index]? = some slot → index ∉ timer.free
    → ∃ listener, slot.listener = some listener

/-- No slot goes away or has a lower generation later on. -/
def Ages (before after : Timer ι) : Prop :=
  ∀ (index : Nat) slot,
    before.slots[index]? = some slot
    → ∃ later, after.slots[index]? = some later ∧ slot.generation ≤ later.generation

theorem Ages.of_slots_eq (slots : after.slots = timer.slots) : timer.Ages after :=
  fun _ slot found => ⟨slot, slots ▸ found, Nat.le_refl _⟩

theorem Ages.trans {last : Timer ι} (first : timer.Ages after) (second : after.Ages last)
    : timer.Ages last := by
  intro index slot found
  obtain ⟨next, there, grown⟩ := first index slot found
  obtain ⟨later, still, more⟩ := second index next there
  exact ⟨later, still, Nat.le_trans grown more⟩

-----------------------------------------------------------------------------------------
-- Taking a slot and giving it back
-----------------------------------------------------------------------------------------

/-- The slot of a registration is the one that was freed last, or else a new one. -/
theorem Registered.index (registered : Registered timer listener handle after)
    : handle.token.index = timer.free.headD timer.slots.length := by
  rcases registered.slot with ⟨index, rest, slot, unused, _, token, _⟩ | ⟨unused, token, _⟩
  · rw [unused, token, List.headD_cons]
  · rw [unused, token, List.headD_nil]

/-- Registering takes one slot off the free ones at most, the one it uses. -/
theorem Registered.mem_free (registered : Registered timer listener handle after) {index : Nat}
    (listed : index ∈ timer.free) : index = handle.token.index ∨ index ∈ after.free := by
  rw [registered.free]
  rcases registered.slot with ⟨place, rest, slot, unused, _, token, _⟩ | ⟨none, _⟩
  · rw [unused] at listed ⊢
    rw [token]
    exact List.mem_cons.mp listed
  · rw [none] at listed
    cases listed

theorem Occupied.registered (occupied : timer.Occupied)
    (registered : Registered timer listener handle after) : after.Occupied := by
  intro index slot found taken
  rw [registered.getElem?] at found
  split at found
  · cases found
    exact ⟨listener, rfl⟩
  · rename_i other
    refine occupied index slot found fun listed => ?_
    exact (registered.mem_free listed).elim other taken

theorem Occupied.drop (occupied : timer.Occupied) (holds : timer.Holds listener handle)
    (fate : Registration) : (timer.drop handle fate).Occupied := by
  intro index slot found taken
  rw [drop_eq holds] at taken
  rw [getElem?_drop holds] at found
  split at found
  · rename_i same
    exact absurd (same ▸ List.mem_cons_self) taken
  · exact occupied index slot found fun listed => taken (List.mem_cons_of_mem _ listed)

theorem Ages.registered (registered : Registered timer listener handle after)
    : timer.Ages after := by
  intro index slot found
  rw [registered.getElem?]
  split
  · rename_i same
    subst same
    exact ⟨_, rfl, Nat.le_of_eq (registered.generation found).symm⟩
  · exact ⟨slot, found, Nat.le_refl _⟩

theorem Ages.drop (holds : timer.Holds listener handle) (fate : Registration)
    : timer.Ages (timer.drop handle fate) := by
  intro index slot found
  rw [getElem?_drop holds]
  split
  · rename_i same
    subst same
    rw [holds] at found
    cases found
    exact ⟨_, rfl, Nat.le_succ _⟩
  · exact ⟨slot, found, Nat.le_refl _⟩

-----------------------------------------------------------------------------------------
-- Whose slot it is
-----------------------------------------------------------------------------------------

theorem slot?_of_holds (holds : timer.Holds listener handle)
    : timer.slot? handle.token
      = some ⟨handle.token.generation, handle.number, some listener⟩ := by
  unfold Holds at holds
  simp [slot?, holds]

theorem slot?_of_spent (spent : timer.Spent handle) : timer.slot? handle.token = none := by
  obtain ⟨slot, found, passed⟩ := spent.passed
  simp [slot?, found, Nat.ne_of_gt passed]

theorem release_of_slot?_eq_none {token : TimerToken} (gone : timer.slot? token = none)
    : timer.release token = timer := by
  rw [release, gone]

/-- A slot that was given back does not match the token any more. -/
theorem slot?_release (timer : Timer ι) (token : TimerToken)
    : (timer.release token).slot? token = none := by
  cases matched : timer.slot? token with
  | none => rw [release_of_slot?_eq_none matched, matched]
  | some slot =>
      obtain ⟨found, generation⟩ := slot?_eq_some_iff.mp matched
      have inside := (List.getElem?_eq_some_iff.mp found).1
      have given
          : (timer.release token).slots[token.index]?
            = some ⟨slot.generation + 1, slot.number, none⟩ := by
        rw [release, matched]
        exact List.getElem?_set_self inside
      simp [slot?, given, generation]

end

namespace Session

variable {session after : Session} {booking other : Booking}

/-- Every slot in use has its listener, and no token was handed out twice. -/
structure Distinct (session : Session) : Prop where
  occupied : session.timer.Occupied
  tokens : (session.bookings.map (·.handle.token)).Nodup

theorem distinct_create (name : String) (now : Nat) : (create name now).Distinct where
  occupied index slot found := by cases found
  tokens := List.nodup_nil

/-- The token of a new registration is a new one, whatever became of the slot's earlier uses. -/
theorem Accurate.token_ne (accurate : session.Accurate) {handle : TimerHandle} {timer : Timer Nat}
    (took : Registered session.timer session.bookings.length handle timer)
    (member : booking ∈ session.bookings) : booking.handle.token ≠ handle.token := by
  intro same
  obtain ⟨fate, standing⟩ := accurate.standing booking member
  have spent (gone : session.timer.Spent booking.handle) : False := by
    obtain ⟨slot, found, passed⟩ := gone.passed
    rw [same] at found passed
    rw [took.generation found] at passed
    exact Nat.lt_irrefl _ passed
  cases standing with
  | armed waits =>
      exact took.vacant accurate.sound waits (congrArg (·.index) same)
  | fired gone => exact spent gone
  | cancelled gone => exact spent gone

theorem Distinct.effect (distinct : session.Distinct) (accurate : session.Accurate)
    (effect : session.Effect after) : after.Distinct := by
  cases effect with
  | waited => exact ⟨distinct.occupied, distinct.tokens⟩
  | @registered handle due timer took =>
      refine ⟨distinct.occupied.registered took, ?_⟩
      show ((session.bookings ++ [Booking.mk handle due]).map (·.handle.token)).Nodup
      rw [List.map_append, List.map_singleton]
      refine List.nodup_append_comm.mpr
        (List.nodup_cons.mpr ⟨fun listed => ?_, distinct.tokens⟩)
      obtain ⟨booking, member, same⟩ := List.mem_map.mp listed
      exact accurate.token_ne took member same
  | disarmed member waits => exact ⟨distinct.occupied.drop waits _, distinct.tokens⟩
  | started starts => exact ⟨distinct.occupied.drop starts.waits .fired, distinct.tokens⟩
  | stopped => exact ⟨distinct.occupied, distinct.tokens⟩

theorem Distinct.run (distinct : session.Distinct) (accurate : session.Accurate)
    (steps : List Step) : (session.run steps).Distinct := by
  induction steps generalizing session with
  | nil => exact distinct
  | cons first rest ih =>
      exact ih (distinct.effect accurate (accurate.effect_step first)) (accurate.step first)

theorem ages_effect (effect : session.Effect after) : session.timer.Ages after.timer := by
  cases effect with
  | waited => exact .of_slots_eq rfl
  | registered took => exact .registered took
  | disarmed _ waits => exact .drop waits _
  | started starts =>
      exact (Ages.drop starts.waits .fired).trans (.of_slots_eq rfl)
  | stopped => exact .of_slots_eq rfl

theorem Accurate.ages_run (accurate : session.Accurate) (steps : List Step)
    : session.timer.Ages (session.run steps).timer := by
  induction steps generalizing session with
  | nil => exact .of_slots_eq rfl
  | cons first rest ih =>
      exact (ages_effect (accurate.effect_step first)).trans (ih (accurate.step first))

-----------------------------------------------------------------------------------------
-- Slots and registrations
-----------------------------------------------------------------------------------------

/-- A registration is armed, and its token is that of a slot as it is now. -/
structure Occupies (session : Session) (booking : Booking) (index : Nat) (slot : TimerSlot Nat)
    : Prop where
  armed : session.IsArmed booking
  token : booking.handle.token = ⟨index, slot.generation⟩

namespace Accurate

variable (accurate : session.Accurate)
include accurate

/-- The token of a registration finds a slot while the registration is armed. -/
theorem slot?_isSome_iff (member : booking ∈ session.bookings)
    : (session.timer.slot? booking.handle.token).isSome ↔ session.IsArmed booking := by
  rw [IsArmed, accurate.registration_eq_armed_iff member]
  obtain ⟨fate, standing⟩ := accurate.standing booking member
  cases standing with
  | armed waits => simp [slot?_of_holds waits, waits]
  | fired spent => simp [slot?_of_spent spent, Waits, spent.not_holds rfl]
  | cancelled spent => simp [slot?_of_spent spent, Waits, spent.not_holds rfl]

/-- A registration that is not armed is spent. -/
theorem spent_of_not_armed (member : booking ∈ session.bookings)
    (settled : ¬session.IsArmed booking) : session.timer.Spent booking.handle := by
  obtain ⟨fate, standing⟩ := accurate.standing booking member
  cases standing with
  | armed waits =>
      exact absurd ((accurate.registration_eq_armed_iff member).mpr waits) settled
  | fired spent => exact spent
  | cancelled spent => exact spent

/-- A slot that somebody occupies is not free, and holds their listener. -/
theorem slot_of_occupies (member : booking ∈ session.bookings) {index : Nat}
    {slot : TimerSlot Nat} (found : session.timer.slots[index]? = some slot)
    (occupies : session.Occupies booking index slot)
    : index ∉ session.timer.free ∧ slot.listener = some booking.handle.number := by
  have waits := (accurate.registration_eq_armed_iff member).mp occupies.armed
  have held : slot.listener = some booking.handle.number := by
    unfold Waits Holds at waits
    rw [occupies.token, found] at waits
    rw [Option.some.inj waits]
  refine ⟨fun listed => ?_, held⟩
  obtain ⟨empty, there, vacant⟩ := accurate.sound.vacant index listed
  rw [found] at there
  cases there
  rw [vacant] at held
  cases held

/-- A slot that is not free is occupied. -/
theorem occupies_of_not_free (occupied : session.timer.Occupied) {index : Nat}
    {slot : TimerSlot Nat} (found : session.timer.slots[index]? = some slot)
    (taken : index ∉ session.timer.free)
    : ∃ booking ∈ session.bookings, session.Occupies booking index slot := by
  obtain ⟨listener, waiting⟩ := occupied index slot found taken
  have holds : session.timer.Holds listener ⟨⟨index, slot.generation⟩, slot.number⟩ := by
    rw [Holds, found, ← waiting]
  obtain ⟨booking, member, handle⟩ := accurate.booked _ _ holds
  rw [← handle] at holds
  obtain ⟨rfl, standing⟩ := accurate.armed_of_holds member holds
  exact ⟨booking, member, accurate.registration_eq standing, congrArg (·.token) handle⟩

/-- The free slots and those of the armed registrations are all the slots there are. -/
theorem perm_range (distinct : session.Distinct)
    : (session.timer.free
        ++ (session.bookings.filter fun booking =>
            session.timer.registration booking.handle = .armed).map (·.handle.token.index)).Perm
      (List.range session.timer.slots.length) := by
  have armed {booking : Booking}
      (listed
        : booking ∈ session.bookings.filter fun booking =>
            session.timer.registration booking.handle = .armed)
      : booking ∈ session.bookings ∧ session.IsArmed booking := by
    rw [List.mem_filter, decide_eq_true_eq] at listed
    exact listed
  have waits {booking : Booking} (member : booking ∈ session.bookings)
      (armed : session.IsArmed booking) : session.Waits booking :=
    (accurate.registration_eq_armed_iff member).mp armed
  refine (List.perm_ext_iff_of_nodup ?_ List.nodup_range).mpr fun index => ?_
  · refine List.nodup_append'.mpr ⟨accurate.sound.distinct, ?_, ?_⟩
    · refine List.Nodup.map_on ?_ ((distinct.tokens.of_map _).filter _)
      intro booking first other second same
      by_contra different
      exact accurate.apart (armed first).1 (armed second).1 (Ne.symm different)
        (waits (armed first).1 (armed first).2) (waits (armed second).1 (armed second).2) same.symm
    · intro index listed taken
      obtain ⟨booking, there, rfl⟩ := List.mem_map.mp taken
      obtain ⟨member, isArmed⟩ := armed there
      have found := waits member isArmed
      exact (accurate.slot_of_occupies member found ⟨isArmed, rfl⟩).1 listed
  · rw [List.mem_append, List.mem_map, List.mem_range]
    constructor
    · rintro (listed | ⟨booking, there, rfl⟩)
      · obtain ⟨slot, found, _⟩ := accurate.sound.vacant index listed
        exact (List.getElem?_eq_some_iff.mp found).1
      · exact (List.getElem?_eq_some_iff.mp (waits (armed there).1 (armed there).2)).1
    · intro inside
      by_cases listed : index ∈ session.timer.free
      · exact .inl listed
      · have found := List.getElem?_eq_getElem inside
        obtain ⟨booking, member, occupies⟩ :=
          accurate.occupies_of_not_free distinct.occupied found listed
        have waiting : session.timer.registration booking.handle = .armed := occupies.armed
        refine .inr ⟨booking, List.mem_filter.mpr ⟨member, decide_eq_true waiting⟩, ?_⟩
        rw [occupies.token]

/-- A token whose slot was given back finds it never again. -/
theorem slot?_run_eq_none (member : booking ∈ session.bookings)
    (gone : session.timer.slot? booking.handle.token = none) (steps : List Step)
    : (session.run steps).timer.slot? booking.handle.token = none := by
  have settled : ¬session.IsArmed booking := by
    rw [← accurate.slot?_isSome_iff member, gone]
    exact Bool.false_ne_true
  obtain ⟨slot, found, passed⟩ := (accurate.spent_of_not_armed member settled).passed
  obtain ⟨later, there, grown⟩ := accurate.ages_run steps _ slot found
  simp [slot?, there, Nat.ne_of_gt (Nat.lt_of_lt_of_le passed grown)]

end Accurate

-----------------------------------------------------------------------------------------
-- All of it together
-----------------------------------------------------------------------------------------

/-- How the slots of a timer and its registrations belong together. -/
structure Recycles (session : Session) : Prop where
  /-- A timer that runs takes whoever asks, into the slot that was freed last, or else a new one. -/
  registers
    : session.timer.isShutdown = false
        → ∀ delay,
            ∃ handle,
              (session.step (.register delay)).bookings
                = session.bookings ++ [⟨handle, session.now + delay⟩]
              ∧ handle.token.index = session.timer.free.headD session.timer.slots.length
              ∧ (session.step (.register delay)).timer.free = session.timer.free.tail
  /-- The free slots are listed once each, and exist. -/
  freeOnce : session.timer.free.Nodup
  freeValid : ∀ index ∈ session.timer.free, index < session.timer.slots.length
  /-- A slot is in use while exactly one armed registration has its index and generation, -/
  taken_iff
    : ∀ (index : Nat) slot,
        session.timer.slots[index]? = some slot
        → (index ∉ session.timer.free
          ↔ ∃! number : Nat,
              ∃ booking,
                session.bookings[number]? = some booking ∧ session.Occupies booking index slot)
  /-- and then it holds the listener of that one. -/
  present
    : ∀ (index : Nat) slot,
        session.timer.slots[index]? = some slot → index ∉ session.timer.free
        → ∃ booking ∈ session.bookings,
            session.Occupies booking index slot ∧ slot.listener = some booking.handle.number
  /-- A free slot holds none. -/
  vacant
    : ∀ (index : Nat) slot,
        session.timer.slots[index]? = some slot → index ∈ session.timer.free
        → slot.listener = none
  /-- Generations only grow, and of all tokens handed out so far no two are the same. -/
  ages : ∀ steps, session.timer.Ages (session.run steps).timer
  tokens : (session.bookings.map (·.handle.token)).Nodup
  /-- The slot of an armed registration can be given back, which makes it free, -/
  releases_iff
    : ∀ booking ∈ session.bookings,
        (session.timer.slot? booking.handle.token).isSome ↔ session.IsArmed booking
  released
    : ∀ booking ∈ session.bookings, session.IsArmed booking
        → (session.timer.release booking.handle.token).free
            = booking.handle.token.index :: session.timer.free
          ∧ (session.timer.release booking.handle.token).slot? booking.handle.token = none
  /-- and never again, whatever happens later. -/
  releasedOnce
    : ∀ booking ∈ session.bookings,
        session.timer.slot? booking.handle.token = none
        → ∀ steps,
            (session.run steps).timer.slot? booking.handle.token = none
            ∧ (session.run steps).timer.release booking.handle.token = (session.run steps).timer
  /-- The slots in use are as many as the armed registrations. -/
  pending
    : session.timer.pending
      = session.bookings.countP fun booking =>
          session.timer.registration booking.handle = .armed
  pendingAndFree
    : session.timer.pending + session.timer.free.length = session.timer.slots.length
  /-- The deadline of an armed registration is listed. -/
  listed
    : ∀ booking ∈ session.bookings,
        session.IsArmed booking → booking.deadline ∈ session.timer.deadlines

/-- Whatever is registered, cancelled and started, the slots of a timer are used again without a
token of an earlier use matching a later one.
-/
theorem recycles (name : String) (now : Nat) (steps : List Step)
    : ((create name now).run steps).Recycles := by
  have accurate := (accurate_create name now).run steps
  have distinct := (distinct_create name now).run (accurate_create name now) steps
  generalize (create name now).run steps = session at accurate distinct
  have count := accurate.perm_range distinct |>.length_eq
  rw [List.length_append, List.length_map, ← List.countP_eq_length_filter, List.length_range]
    at count
  constructor
  case registers =>
    intro running delay
    obtain ⟨handle, timer, stepped, took, _⟩ := accurate.registers running delay
    refine ⟨handle, congrArg (·.bookings) stepped, took.index, ?_⟩
    rw [stepped]
    exact took.free
  case freeOnce => exact accurate.sound.distinct
  case freeValid =>
    intro index listed
    obtain ⟨slot, found, _⟩ := accurate.sound.vacant index listed
    exact (List.getElem?_eq_some_iff.mp found).1
  case taken_iff =>
    intro index slot found
    constructor
    · intro taken
      obtain ⟨booking, member, occupies⟩ :=
        accurate.occupies_of_not_free distinct.occupied found taken
      refine ⟨booking.handle.number, ⟨booking, accurate.found member, occupies⟩, ?_⟩
      rintro number ⟨other, there, also⟩
      have known := List.mem_of_getElem? there
      have own := (accurate.slot_of_occupies member found occupies).2
      have others := (accurate.slot_of_occupies known found also).2
      rw [own] at others
      exact (accurate.numbered number other there).symm.trans (Option.some.inj others).symm
    · rintro ⟨number, ⟨booking, there, occupies⟩, _⟩
      exact (accurate.slot_of_occupies (List.mem_of_getElem? there) found occupies).1
  case present =>
    intro index slot found taken
    obtain ⟨booking, member, occupies⟩ :=
      accurate.occupies_of_not_free distinct.occupied found taken
    exact ⟨booking, member, occupies, (accurate.slot_of_occupies member found occupies).2⟩
  case vacant =>
    intro index slot found listed
    obtain ⟨empty, there, vacant⟩ := accurate.sound.vacant index listed
    rw [found] at there
    cases there
    exact vacant
  case ages => exact accurate.ages_run
  case tokens => exact distinct.tokens
  case releases_iff => exact fun booking member => accurate.slot?_isSome_iff member
  case released =>
    intro booking member armed
    refine ⟨?_, slot?_release _ _⟩
    have waits := (accurate.registration_eq_armed_iff member).mp armed
    rw [release, slot?_of_holds waits]
  case releasedOnce =>
    intro booking member gone steps
    have never := accurate.slot?_run_eq_none member gone steps
    exact ⟨never, release_of_slot?_eq_none never⟩
  case pending =>
    rw [Timer.pending, ← count, Nat.add_sub_cancel_left]
  case pendingAndFree =>
    rw [Timer.pending, ← count]
    omega
  case listed =>
    intro booking member armed
    have waits := (accurate.registration_eq_armed_iff member).mp armed
    cases (accurate.armed_of_holds member waits).2 with
    | armed _ listed => exact listed

/-- The slot that was cancelled first and then fired goes to its third registration, while the
deadline of the first one is still listed.
-/
example
    : let session :=
        (create "sample" 0).run [.register 9, .cancel 0, .register 5, .pass 5, .look, .register 1]
      session.bookings.map (·.handle.token) = [⟨0, 0⟩, ⟨0, 1⟩, ⟨0, 2⟩]
      ∧ session.timer.deadlines = [⟨6, ⟨0, 2⟩⟩, ⟨9, ⟨0, 0⟩⟩]
      ∧ session.timer.pending = 1 := by
  decide

end Session

end Breakwater.Timer
