import Mathlib.Data.List.Basic
import Breakwater.Timer

/-! The slots of a timer. A registration that is armed has a slot of its own; once it was fired or
cancelled, its handle matches no slot any more, and nothing that is done with the handle of
another one changes that.
-/

namespace Breakwater.Timer

variable {ι : Type} {timer after : Timer ι} {listener : ι} {handle : TimerHandle}

/-- A listener waits in the slot that a handle names. -/
def Holds (timer : Timer ι) (listener : ι) (handle : TimerHandle) : Prop :=
  timer.slots[handle.token.index]?
    = some ⟨handle.token.generation, handle.number, some listener⟩

/-- The registration of a handle was fired or cancelled, and its slot was given back. -/
structure Spent (timer : Timer ι) (handle : TimerHandle) : Prop where
  passed
    : ∃ slot,
        timer.slots[handle.token.index]? = some slot ∧ handle.token.generation < slot.generation
  settled
    : ∃ registration,
        timer.registrations[handle.number]? = some registration ∧ registration ≠ .armed

/-- The slots that are not in use are empty and listed once; those in use belong to registrations
that are armed, each to its own.
-/
structure Sound (timer : Timer ι) : Prop where
  distinct : timer.free.Nodup
  vacant
    : ∀ index ∈ timer.free,
        ∃ slot, timer.slots[index]? = some slot ∧ slot.listener = none
  armed
    : ∀ listener handle, timer.Holds listener handle
        → timer.registrations[handle.number]? = some .armed
  numbered
    : ∀ listener handle other held, timer.Holds listener handle → timer.Holds other held
        → handle.number = held.number → handle.token.index = held.token.index

theorem sound_create (name : String) : (create name : Timer ι).Sound where
  distinct := List.nodup_nil
  vacant index listed := by cases listed
  armed listener handle holds := by cases holds
  numbered listener handle other held holds := by cases holds

/-- A slot holds one listener, under one handle. -/
theorem Holds.unique {other : ι} {held : TimerHandle} (holds : timer.Holds listener handle)
    (same : timer.Holds other held) (index : handle.token.index = held.token.index)
    : listener = other ∧ handle = held := by
  unfold Holds at holds same
  rw [index, same] at holds
  obtain ⟨⟨_, generation⟩, number⟩ := handle
  obtain ⟨⟨_, _⟩, _⟩ := held
  simp only [Option.some.injEq, TimerSlot.mk.injEq] at holds
  obtain ⟨rfl, rfl, rfl⟩ := holds
  exact ⟨rfl, congrArg (fun index => TimerHandle.mk ⟨index, _⟩ _) index⟩

-----------------------------------------------------------------------------------------
-- Giving a slot back
-----------------------------------------------------------------------------------------

/-- The timer after the registration of a handle has come to its end. -/
def drop (timer : Timer ι) (handle : TimerHandle) (fate : Registration) : Timer ι :=
  { timer with registrations := timer.registrations.set handle.number fate }.release handle.token

theorem drop_eq (holds : timer.Holds listener handle) (fate : Registration)
    : timer.drop handle fate
      = { timer with
          slots := timer.slots.set handle.token.index
            ⟨handle.token.generation + 1, handle.number, none⟩
          free := handle.token.index :: timer.free
          registrations := timer.registrations.set handle.number fate } := by
  unfold Holds at holds
  simp [drop, release, slot?, holds]

theorem cancel_of_holds (sound : timer.Sound) (holds : timer.Holds listener handle)
    : timer.cancel handle = (true, timer.drop handle .cancelled) := by
  simp only [cancel, sound.armed listener handle holds]
  rfl

/-- There is nothing left to cancel for a handle that is spent. -/
theorem cancel_of_spent (spent : timer.Spent handle) : timer.cancel handle = (false, timer) := by
  obtain ⟨registration, found, settled⟩ := spent.settled
  unfold cancel
  rw [found]
  cases registration with
  | armed => exact absurd rfl settled
  | fired => rfl
  | cancelled => rfl

theorem slot?_eq_some_iff {token : TimerToken} {slot : TimerSlot ι}
    : timer.slot? token = some slot
      ↔ timer.slots[token.index]? = some slot ∧ slot.generation = token.generation := by
  unfold slot?
  cases timer.slots[token.index]? with
  | none => simp
  | some found =>
      by_cases same : found.generation = token.generation
      · simp only [same, if_true, Option.some.injEq]
        exact ⟨fun equal => ⟨equal, equal ▸ same⟩, fun both => both.1⟩
      · simp only [same, if_false, Option.some.injEq]
        exact ⟨nofun, fun both => absurd (both.1 ▸ both.2) same⟩

/-- The slot of a token is the one that the token was made for. -/
theorem holds_of_slot? {token : TimerToken} {slot : TimerSlot ι}
    (matched : timer.slot? token = some slot) (waiting : slot.listener = some listener)
    : timer.Holds listener ⟨token, slot.number⟩ := by
  obtain ⟨found, generation⟩ := slot?_eq_some_iff.mp matched
  rw [Holds, found, ← generation, ← waiting]

/-- What fires is a listener that waits in the slot of the token, and its slot is given back. -/
theorem fire?_cases {token : TimerToken} (fired : timer.fire? token = some (listener, after))
    : ∃ number,
        timer.Holds listener ⟨token, number⟩ ∧ after = timer.drop ⟨token, number⟩ .fired := by
  simp only [fire?] at fired
  split at fired
  · cases fired
  · obtain ⟨slot, matched, fired⟩ := Option.bind_eq_some_iff.mp fired
    obtain ⟨waiting, present, fired⟩ := Option.bind_eq_some_iff.mp fired
    simp only [pure, Option.some.injEq, Prod.mk.injEq] at fired
    obtain ⟨rfl, rfl⟩ := fired
    exact ⟨slot.number, holds_of_slot? matched present, rfl⟩

/-- A spent handle fires nothing. -/
theorem fire?_of_spent (spent : timer.Spent handle) : timer.fire? handle.token = none := by
  rw [Option.eq_none_iff_forall_ne_some]
  rintro ⟨listener, after⟩ fired
  obtain ⟨number, holds, _⟩ := fire?_cases fired
  obtain ⟨slot, found, passed⟩ := spent.passed
  unfold Holds at holds
  rw [found] at holds
  cases holds
  exact Nat.lt_irrefl _ passed

/-- The slots after one of them was given back. -/
theorem getElem?_drop (holds : timer.Holds listener handle) (fate : Registration) (index : Nat)
    : (timer.drop handle fate).slots[index]?
      = if index = handle.token.index then
          some ⟨handle.token.generation + 1, handle.number, none⟩
        else timer.slots[index]? := by
  have inside := (List.getElem?_eq_some_iff.mp holds).1
  rw [drop_eq holds, List.getElem?_set]
  by_cases same : index = handle.token.index
  · subst same
    simp [inside]
  · simp [same, Ne.symm same]

theorem registrations_drop (holds : timer.Holds listener handle) (fate : Registration)
    : (timer.drop handle fate).registrations = timer.registrations.set handle.number fate := by
  rw [drop_eq holds]

/-- All but the one whose slot is given back stay where they are, and no other comes to wait. -/
theorem holds_drop_iff (holds : timer.Holds listener handle) (fate : Registration) {other : ι}
    {held : TimerHandle}
    : (timer.drop handle fate).Holds other held
      ↔ timer.Holds other held ∧ held.token.index ≠ handle.token.index := by
  unfold Holds
  rw [getElem?_drop holds]
  split
  · rename_i same
    simp [same]
  · rename_i different
    simp [different]

theorem Sound.drop (sound : timer.Sound) (holds : timer.Holds listener handle)
    (fate : Registration) : (timer.drop handle fate).Sound := by
  have waits (other : ι) (held : TimerHandle)
      (still : (timer.drop handle fate).Holds other held)
      : timer.Holds other held ∧ held.token.index ≠ handle.token.index :=
    (holds_drop_iff holds fate).mp still
  constructor
  · rw [drop_eq holds, List.nodup_cons]
    refine ⟨fun listed => ?_, sound.distinct⟩
    obtain ⟨slot, found, empty⟩ := sound.vacant _ listed
    rw [holds] at found
    cases found
    cases empty
  · intro index listed
    rw [getElem?_drop holds]
    rw [drop_eq holds] at listed
    split
    · exact ⟨_, rfl, rfl⟩
    · rename_i other
      exact sound.vacant index ((List.mem_cons.mp listed).resolve_left other)
  · intro other held still
    obtain ⟨before, apart⟩ := waits other held still
    have armed := sound.armed other held before
    rw [registrations_drop holds, List.getElem?_set_ne]
    · exact armed
    · intro same
      exact apart (sound.numbered _ _ _ _ before holds same.symm)
  · intro one handle other held first second same
    exact sound.numbered _ _ _ _ (waits _ _ first).1 (waits _ _ second).1 same

/-- What is spent stays spent. -/
theorem Spent.drop {held : TimerHandle} (spent : timer.Spent held)
    (holds : timer.Holds listener handle) {fate : Registration} (ended : fate ≠ .armed)
    : (timer.drop handle fate).Spent held := by
  obtain ⟨slot, found, passed⟩ := spent.passed
  obtain ⟨registration, listed, settled⟩ := spent.settled
  constructor
  · rw [getElem?_drop holds]
    split
    · rename_i same
      rw [same, holds] at found
      cases found
      exact ⟨_, rfl, Nat.lt_succ_of_lt passed⟩
    · exact ⟨slot, found, passed⟩
  · rw [registrations_drop holds, List.getElem?_set]
    split
    · split
      · exact ⟨fate, rfl, ended⟩
      · rename_i same outside
        exact absurd (List.getElem?_eq_some_iff.mp listed).1 (same ▸ outside)
    · exact ⟨registration, listed, settled⟩

/-- A handle is spent once its registration has come to its end. -/
theorem spent_drop (sound : timer.Sound) (holds : timer.Holds listener handle)
    {fate : Registration} (ended : fate ≠ .armed) : (timer.drop handle fate).Spent handle := by
  constructor
  · rw [getElem?_drop holds, if_pos rfl]
    exact ⟨_, rfl, Nat.lt_succ_self _⟩
  · have inside := (List.getElem?_eq_some_iff.mp (sound.armed listener handle holds)).1
    rw [registrations_drop holds, List.getElem?_set_self inside]
    exact ⟨fate, rfl, ended⟩

-----------------------------------------------------------------------------------------
-- Taking a slot
-----------------------------------------------------------------------------------------

/-- What registering a listener does: it waits under a new handle, and nothing else changes. -/
structure Registered (before : Timer ι) (listener : ι) (handle : TimerHandle) (after : Timer ι)
    : Prop where
  free : after.free = before.free.tail
  registrations : after.registrations = before.registrations ++ [.armed]
  number : handle.number = before.registrations.length
  /-- The slot is the one that was freed last, or a new one. -/
  slot
    : (∃ index rest slot,
        before.free = index :: rest
        ∧ before.slots[index]? = some slot
        ∧ handle.token = ⟨index, slot.generation⟩
        ∧ after.slots = before.slots.set index ⟨slot.generation, handle.number, some listener⟩)
      ∨ (before.free = []
          ∧ handle.token = ⟨before.slots.length, 0⟩
          ∧ after.slots = before.slots ++ [⟨0, handle.number, some listener⟩])

theorem registered_of_register {due : Nat} (sound : timer.Sound)
    (taken : timer.register listener due = .ok (handle, after))
    : Registered timer listener handle after := by
  simp only [register] at taken
  split at taken
  · cases taken
  · cases taken
    cases unused : timer.free with
    | nil => constructor <;> simp [allocate, unused]
    | cons index rest =>
        obtain ⟨slot, found, _⟩ := sound.vacant index (unused ▸ List.mem_cons_self)
        constructor <;> simp [allocate, unused, found]

variable (registered : Registered timer listener handle after)
include registered

/-- The place where a listener is registered was not in use. -/
theorem Registered.vacant (sound : timer.Sound) {other : ι} {held : TimerHandle}
    (holds : timer.Holds other held) : held.token.index ≠ handle.token.index := by
  intro same
  rcases registered.slot with ⟨index, rest, slot, unused, found, token, _⟩ | ⟨_, token, _⟩
  · obtain ⟨slot, empty, vacant⟩ := sound.vacant index (unused ▸ List.mem_cons_self)
    rw [token] at same
    unfold Holds at holds
    rw [same, empty] at holds
    cases holds
    cases vacant
  · rw [token] at same
    have inside := (List.getElem?_eq_some_iff.mp holds).1
    rw [same] at inside
    exact Nat.lt_irrefl _ inside

/-- The slots after a listener was registered. -/
theorem Registered.getElem? (index : Nat)
    : after.slots[index]?
      = if index = handle.token.index then
          some ⟨handle.token.generation, handle.number, some listener⟩
        else timer.slots[index]? := by
  rcases registered.slot with
    ⟨place, rest, slot, unused, found, token, slots⟩ | ⟨_, token, slots⟩
  · have inside := (List.getElem?_eq_some_iff.mp found).1
    rw [slots, token, List.getElem?_set]
    by_cases same : index = place
    · subst same
      simp [inside]
    · simp [same, Ne.symm same]
  · rw [slots, token]
    rcases Nat.lt_trichotomy index timer.slots.length with old | rfl | beyond
    · rw [if_neg (Nat.ne_of_lt old), List.getElem?_append_left old]
    · simp
    · rw [if_neg (Nat.ne_of_gt beyond), List.getElem?_eq_none (by simp; omega),
        List.getElem?_eq_none (Nat.le_of_lt beyond)]

theorem Registered.holds : after.Holds listener handle := by
  rw [Holds, registered.getElem?, if_pos rfl]

/-- Nobody but the new listener comes to wait, and nobody stops waiting. -/
theorem Registered.holds_iff (sound : timer.Sound) {other : ι} {held : TimerHandle}
    : after.Holds other held
      ↔ timer.Holds other held ∨ (other = listener ∧ held = handle) := by
  constructor
  · intro holds
    by_cases same : held.token.index = handle.token.index
    · exact .inr (holds.unique registered.holds same)
    · left
      unfold Holds at holds ⊢
      rwa [registered.getElem?, if_neg same] at holds
  · rintro (holds | ⟨rfl, rfl⟩)
    · have apart := registered.vacant sound holds
      unfold Holds at holds ⊢
      rwa [registered.getElem?, if_neg apart]
    · exact registered.holds

theorem Registered.sound (sound : timer.Sound) : after.Sound := by
  have unused := registered.free
  have fresh (other : ι) (held : TimerHandle) (holds : timer.Holds other held)
      : held.number < handle.number := by
    rw [registered.number]
    exact (List.getElem?_eq_some_iff.mp (sound.armed other held holds)).1
  constructor
  · rw [unused]
    exact sound.distinct.tail
  · intro index listed
    rw [unused] at listed
    obtain ⟨slot, found, empty⟩ := sound.vacant index (List.mem_of_mem_tail listed)
    refine ⟨slot, ?_, empty⟩
    have apart : index ≠ handle.token.index := by
      rintro rfl
      rcases registered.slot with ⟨place, rest, _, listing, _, token, _⟩ | ⟨none, _⟩
      · have distinct := sound.distinct
        rw [listing] at listed distinct
        rw [token] at listed
        exact (List.nodup_cons.mp distinct).1 listed
      · rw [none] at listed
        cases listed
    rw [registered.getElem?, if_neg apart, found]
  · intro other held holds
    rw [registered.registrations]
    rcases (registered.holds_iff sound).mp holds with before | ⟨rfl, rfl⟩
    · have armed := sound.armed other held before
      rw [List.getElem?_append_left (List.getElem?_eq_some_iff.mp armed).1, armed]
    · rw [registered.number, List.getElem?_append_right (Nat.le_refl _), Nat.sub_self]
      rfl
  · intro one first other second holds held same
    rcases (registered.holds_iff sound).mp holds with before | ⟨rfl, rfl⟩
    · rcases (registered.holds_iff sound).mp held with waiting | ⟨rfl, rfl⟩
      · exact sound.numbered _ _ _ _ before waiting same
      · exact absurd same (Nat.ne_of_lt (fresh _ _ before))
    · rcases (registered.holds_iff sound).mp held with waiting | ⟨rfl, rfl⟩
      · exact absurd same.symm (Nat.ne_of_lt (fresh _ _ waiting))
      · rfl

/-- A slot that is taken again keeps the generation it has. -/
theorem Registered.generation {slot : TimerSlot ι}
    (found : timer.slots[handle.token.index]? = some slot)
    : handle.token.generation = slot.generation := by
  rcases registered.slot with ⟨index, _, old, _, there, token, _⟩ | ⟨_, token, _⟩
  · rw [token, there] at found
    cases found
    rw [token]
  · rw [token] at found
    exact absurd (List.getElem?_eq_some_iff.mp found).1 (Nat.lt_irrefl _)

theorem Registered.spent {held : TimerHandle} (spent : timer.Spent held) : after.Spent held := by
  obtain ⟨slot, found, passed⟩ := spent.passed
  obtain ⟨registration, listed, settled⟩ := spent.settled
  constructor
  · rw [registered.getElem?]
    split
    · rename_i same
      refine ⟨_, rfl, ?_⟩
      rw [same] at found
      rw [registered.generation found]
      exact passed
    · exact ⟨slot, found, passed⟩
  · refine ⟨registration, ?_, settled⟩
    rw [registered.registrations,
      List.getElem?_append_left (List.getElem?_eq_some_iff.mp listed).1, listed]

omit registered

-----------------------------------------------------------------------------------------
-- Listeners that are armed
-----------------------------------------------------------------------------------------

variable [DecidableEq ι]

theorem count_armed (timer : Timer ι) (listener : ι)
    : timer.armed.count listener = timer.slots.countP (·.listener = some listener) := by
  have sorted := List.mergeSort_perm
    (timer.slots.filterMap fun slot => slot.listener.map (slot.number, ·))
    (fun left right => left.1 ≤ right.1)
  have listed : (timer.slots.filterMap fun slot => slot.listener.map (slot.number, ·)).map (·.2)
      = timer.slots.filterMap (·.listener) := by
    rw [List.map_filterMap]
    simp [Option.map_map, Function.comp_def]
  calc timer.armed.count listener
      = (timer.slots.filterMap (·.listener)).count listener := by
        rw [← listed]
        exact (sorted.map (·.2)).count_eq listener
    _ = timer.slots.countP (·.listener = some listener) := by
        rw [List.count, List.countP_filterMap]
        refine List.countP_congr fun slot _ => ?_
        cases slot.listener <;> simp

theorem count_armed_eq_zero (idle : ∀ handle, ¬timer.Holds listener handle)
    : timer.armed.count listener = 0 := by
  rw [count_armed, List.countP_eq_zero]
  intro slot member waits
  obtain ⟨index, found⟩ := List.mem_iff_getElem?.mp member
  refine idle ⟨⟨index, slot.generation⟩, slot.number⟩ ?_
  rw [Holds, found, ← of_decide_eq_true waits]

/-- A listener that waits under one handle only is armed once. -/
theorem count_armed_eq_one (holds : timer.Holds listener handle)
    (only : ∀ other, timer.Holds listener other → other = handle)
    : timer.armed.count listener = 1 := by
  let waits (slot : TimerSlot ι) : Bool := slot.listener = some listener
  have inside := (List.getElem?_eq_some_iff.mp holds).1
  have there := (List.getElem?_eq_some_iff.mp holds).2
  let rest := timer.slots.set handle.token.index ⟨handle.token.generation, handle.number, none⟩
  -- Without that slot nobody waits for the listener.
  have others : rest.countP waits = 0 := by
    rw [List.countP_eq_zero]
    intro slot member waiting
    obtain ⟨index, found⟩ := List.mem_iff_getElem?.mp member
    rw [List.getElem?_set] at found
    split at found
    · simp only [Option.some.injEq] at found
      subst found
      cases of_decide_eq_true waiting
    · rename_i different
      refine different
        (congrArg (·.token.index) (only ⟨⟨index, slot.generation⟩, slot.number⟩ ?_)).symm
      rw [Holds, found, ← of_decide_eq_true waiting]
  have counted : rest.countP waits = timer.slots.countP waits - 1 := by
    rw [List.countP_set inside, there]
    simp [waits]
  have positive : 0 < timer.slots.countP waits :=
    List.countP_pos_iff.mpr ⟨_, List.mem_of_getElem? holds, by simp [waits]⟩
  rw [count_armed]
  show timer.slots.countP waits = 1
  omega

end Breakwater.Timer
