import Mathlib.Data.List.Sort
import Breakwater.Proofs.Timer.Deadlines

/-! The agenda of a timer: who waits for which deadline, in the order in which they are to fire. It
says all that counts about an arena, whatever slots its registrations are in.
-/

namespace Breakwater

-----------------------------------------------------------------------------------------
-- Entries in order
-----------------------------------------------------------------------------------------

section

variable {β γ : Type}

/-- Entries with one more, after those that are due no later. -/
def insertEntry (entry : Nat × β) (entries : List (Nat × β)) : List (Nat × β) :=
  entries.orderedInsert (fun left right => left.1 < right.1) entry

/-- Entries once that of one listener was added or taken away. -/
def retime [DecidableEq β] (was is : Bool) (due : Nat) (listener : β) (entries : List (Nat × β))
    : List (Nat × β) :=
  if is = was then entries
  else if is then insertEntry (due, listener) entries
  else entries.filter (·.2 ≠ listener)

/-- No two entries that are still ahead are due at the same moment. -/
def Untied (entries : List (Nat × β)) : Prop :=
  entries.Pairwise fun left right => left.1 = right.1 → left.1 = 0

instance (entries : List (Nat × β)) : Decidable (Untied entries) :=
  inferInstanceAs (Decidable (entries.Pairwise _))

/-- One entry more, anywhere among those that are due at the same moment. -/
def Inserted (entry : Nat × β) (entries after : List (Nat × β)) : Prop :=
  ∃ earlier later,
    entries = earlier ++ later
      ∧ after = earlier ++ entry :: later
      ∧ (∀ other ∈ earlier, other.1 ≤ entry.1)
      ∧ ∀ other ∈ later, entry.1 ≤ other.1

/-- Entries when that of one listener stays as it is, comes, or goes. -/
inductive Retimed [DecidableEq β] (was is : Bool) (due : Nat) (listener : β)
    (entries after : List (Nat × β)) : Prop
  | kept (same : is = was) (unchanged : after = entries)
  | added (free : was = false) (armed : is = true) (ahead : 0 < due)
    (inserted : Inserted (due, listener) entries after)
  | removed (armed : was = true) (gone : is = false)
    (left : after = entries.filter (·.2 ≠ listener))

/-- Without ties there is one place for an entry that is still ahead. -/
theorem Inserted.eq_insertEntry {entry : Nat × β} {entries after : List (Nat × β)}
    (inserted : Inserted entry entries after) (ahead : 0 < entry.1) (untied : Untied after)
    : after = insertEntry entry entries := by
  obtain ⟨earlier, later, rfl, rfl, before, behind⟩ := inserted
  induction earlier with
  | nil =>
      cases later with
      | nil => rfl
      | cons next rest =>
          have apart := (List.pairwise_cons.mp untied).1 next List.mem_cons_self
          have sooner := behind next List.mem_cons_self
          have strict : entry.1 < next.1 := by omega
          exact (if_pos strict).symm
  | cons first rest ih =>
      have sooner : ¬entry.1 < first.1 := Nat.not_lt.mpr (before first List.mem_cons_self)
      have onward := ih (List.pairwise_cons.mp untied).2
        (fun other member => before other (List.mem_cons_of_mem _ member))
      show first :: (rest ++ entry :: later) = insertEntry entry (first :: (rest ++ later))
      rw [insertEntry, List.orderedInsert_cons, if_neg sooner, onward]
      rfl

/-- Ties do not depend on the order. -/
theorem untied_iff_of_perm {entries other : List (Nat × β)} (same : entries.Perm other)
    : Untied entries ↔ Untied other :=
  same.pairwise_iff fun tied reversed => reversed.trans (tied reversed.symm)

/-- Wherever an entry comes to stand, there are ties or there are none. -/
theorem Inserted.untied_iff {entry : Nat × β} {entries after : List (Nat × β)}
    (inserted : Inserted entry entries after)
    : Untied after ↔ Untied (insertEntry entry entries) := by
  apply untied_iff_of_perm
  obtain ⟨earlier, later, rfl, rfl, _⟩ := inserted
  exact List.perm_middle.trans (List.perm_orderedInsert _ _ _).symm

section

variable [DecidableEq β] {was is : Bool} {due : Nat} {listener : β}
  {entries after : List (Nat × β)} (retimed : Retimed was is due listener entries after)
include retimed

/-- Without ties there is only one way in which entries can be retimed. -/
theorem Retimed.eq_retime (untied : Untied after) : after = retime was is due listener entries := by
  cases retimed with
  | kept same unchanged => rw [retime, if_pos same, unchanged]
  | added free armed ahead inserted =>
      rw [free, armed, inserted.eq_insertEntry ahead untied]
      rfl
  | removed armed gone left =>
      rw [armed, gone, left]
      rfl

/-- Ties are of no account unless somebody comes. -/
theorem Retimed.eq_retime_of_unarmed (unarmed : was = false → is = false)
    : after = retime was is due listener entries := by
  cases retimed with
  | kept same unchanged => rw [retime, if_pos same, unchanged]
  | added free armed ahead inserted => cases armed.symm.trans (unarmed free)
  | removed armed gone left =>
      rw [armed, gone, left]
      rfl

/-- Whether there are ties after entries were retimed does not depend on where the new one stands.
-/
theorem Retimed.untied_iff : Untied after ↔ Untied (retime was is due listener entries) := by
  cases retimed with
  | kept same unchanged => rw [retime, if_pos same, unchanged]
  | added free armed ahead inserted =>
      rw [free, armed]
      exact inserted.untied_iff
  | removed armed gone left =>
      rw [armed, gone, left]
      exact Iff.rfl

end

variable {seat? : β → Option γ} {listener : β} {seat : γ}

/-- The entries of those who have a seat, under that. -/
def seated (seat? : β → Option γ) (entries : List (Nat × β)) : List (Nat × γ) :=
  entries.filterMap fun entry => (seat? entry.2).map (entry.1, ·)

theorem seated_append (first rest : List (Nat × β))
    : seated seat? (first ++ rest) = seated seat? first ++ seated seat? rest :=
  List.filterMap_append

/-- Whoever is seated is due when the entry says. -/
theorem exists_of_mem_seated {entries : List (Nat × β)} {entry : Nat × γ}
    (member : entry ∈ seated seat? entries) : ∃ source ∈ entries, source.1 = entry.1 := by
  obtain ⟨source, listed, chosen⟩ := List.mem_filterMap.mp member
  obtain ⟨_, _, rfl⟩ := Option.map_eq_some_iff.mp chosen
  exact ⟨source, listed, rfl⟩

/-- Somebody new comes under his seat. -/
theorem Inserted.seated {due : Nat} {entries after : List (Nat × β)}
    (inserted : Inserted (due, listener) entries after) (own : seat? listener = some seat)
    : Inserted (due, seat) (seated seat? entries) (seated seat? after) := by
  obtain ⟨earlier, later, rfl, rfl, before, behind⟩ := inserted
  refine ⟨Breakwater.seated seat? earlier, Breakwater.seated seat? later, seated_append _ _, ?_,
    fun other member => ?_, fun other member => ?_⟩
  · rw [seated_append, Breakwater.seated, Breakwater.seated, Breakwater.seated,
      List.filterMap_cons, own]
    rfl
  · obtain ⟨source, listed, same⟩ := exists_of_mem_seated member
    exact same ▸ before source listed
  · obtain ⟨source, listed, same⟩ := exists_of_mem_seated member
    exact same ▸ behind source listed

section

variable [DecidableEq β] {was is : Bool} {due : Nat} {entries after : List (Nat × β)}
  (retimed : Retimed was is due listener entries after)
include retimed

/-- Who has no seat does not show. -/
theorem Retimed.seated_of_none (absent : seat? listener = none)
    : seated seat? after = seated seat? entries := by
  cases retimed with
  | kept same unchanged => rw [unchanged]
  | added free armed ahead inserted =>
      obtain ⟨earlier, later, rfl, rfl, _, _⟩ := inserted
      simp [seated, absent]
  | removed armed gone left =>
      rw [left, seated, seated, List.filterMap_filter]
      refine List.filterMap_congr fun entry _ => ?_
      by_cases own : entry.2 = listener
      · simp [own, absent]
      · simp [own]

/-- Who has a seat of its own comes and goes under that. -/
theorem Retimed.seated [DecidableEq γ] (own : seat? listener = some seat)
    (only : ∀ other, seat? other = some seat → other = listener)
    : Retimed was is due seat (seated seat? entries) (seated seat? after) := by
  cases retimed with
  | kept same unchanged => exact .kept same (congrArg _ unchanged)
  | added free armed ahead inserted => exact .added free armed ahead (inserted.seated own)
  | removed armed gone left =>
      refine .removed armed gone ?_
      rw [left, Breakwater.seated, Breakwater.seated, List.filterMap_filter,
        List.filter_filterMap]
      refine List.filterMap_congr fun entry _ => ?_
      by_cases same : entry.2 = listener
      · simp [same, own, Option.filter_some]
      · cases taken : seat? entry.2 with
        | none => simp [same]
        | some other =>
            have apart : other ≠ seat := fun taker => same (only _ (taker ▸ taken))
            simp [same, apart, Option.filter_some]

end

end

namespace Timer

variable {ι : Type} {timer after : Timer ι} {listener : ι} {handle : TimerHandle}

/-- The listener that still waits for a deadline. -/
def waiter? (timer : Timer ι) (deadline : Deadline) : Option ι :=
  (timer.slot? deadline.token).bind (·.listener)

/-- The listeners that wait for some of the deadlines. -/
def waiters (timer : Timer ι) (deadlines : List Deadline) : List (Nat × ι) :=
  deadlines.filterMap fun deadline => (timer.waiter? deadline).map (deadline.due, ·)

/-- The listeners that wait, with their deadlines, in the order in which they are to fire. -/
def agenda (timer : Timer ι) : List (Nat × ι) := timer.waiters timer.deadlines

/-- Time passes, so that less is left until every deadline. -/
def elapse (timer : Timer ι) (millis : Nat) : Timer ι :=
  { timer with
    deadlines := timer.deadlines.map fun deadline =>
      { deadline with due := deadline.due - millis } }

/-- Every deadline was handed out with a token, which no later registration has; those whose
listeners wait are in order.
-/
structure Listed (timer : Timer ι) : Prop where
  sound : timer.Sound
  inOrder : timer.deadlines.Pairwise (·.due ≤ ·.due)
  /-- The slot of a deadline was given back since, or its listener waits there. -/
  known
    : ∀ deadline ∈ timer.deadlines,
        ∃ slot, timer.slots[deadline.token.index]? = some slot
          ∧ (deadline.token.generation < slot.generation
              ∨ deadline.token.generation = slot.generation ∧ slot.listener.isSome)
  /-- Whoever waits is listed. -/
  listed
    : ∀ listener handle, timer.Holds listener handle
        → ∃ deadline ∈ timer.deadlines, deadline.token = handle.token

/-- Somebody waits for a deadline exactly if the slot of its token still holds their listener. -/
theorem waiter?_eq_some_iff {deadline : Deadline}
    : timer.waiter? deadline = some listener
      ↔ ∃ number, timer.Holds listener ⟨deadline.token, number⟩ := by
  constructor
  · intro waits
    obtain ⟨slot, matched, waiting⟩ := Option.bind_eq_some_iff.mp waits
    exact ⟨slot.number, holds_of_slot? matched waiting⟩
  · rintro ⟨number, holds⟩
    unfold Holds at holds
    simp [waiter?, slot?, holds]

/-- The agenda lists the deadlines that somebody waits for. -/
theorem mem_agenda_iff {due : Nat}
    : (due, listener) ∈ timer.agenda
      ↔ ∃ deadline ∈ timer.deadlines,
          deadline.due = due ∧ ∃ number, timer.Holds listener ⟨deadline.token, number⟩ := by
  simp only [agenda, waiters, List.mem_filterMap, Option.map_eq_some_iff, waiter?_eq_some_iff,
    Prod.mk.injEq]
  constructor
  · rintro ⟨deadline, member, waiting, holds, same, rfl⟩
    exact ⟨deadline, member, same, holds⟩
  · rintro ⟨deadline, member, same, holds⟩
    exact ⟨deadline, member, listener, holds, same, rfl⟩

/-- Whoever waits is on the agenda. -/
theorem Listed.mem_agenda (listed : timer.Listed) (holds : timer.Holds listener handle)
    : ∃ due, (due, listener) ∈ timer.agenda := by
  obtain ⟨deadline, member, token⟩ := listed.listed listener handle holds
  refine ⟨deadline.due, mem_agenda_iff.mpr ⟨deadline, member, rfl, handle.number, ?_⟩⟩
  rw [token]
  exact holds

/-- The agenda is not longer than the list of deadlines. -/
theorem length_agenda_le (timer : Timer ι) : timer.agenda.length ≤ timer.deadlines.length :=
  List.length_filterMap_le _ _

-----------------------------------------------------------------------------------------
-- A new timer, and time that passes
-----------------------------------------------------------------------------------------

/-- A new timer lists nothing. -/
theorem listed_create (name : String) : (create name : Timer ι).Listed where
  sound := sound_create name
  inOrder := List.Pairwise.nil
  known deadline member := by cases member
  listed listener handle holds := by cases holds

/-- A timer that is stopped keeps its lists. -/
theorem Listed.shutdown (listed : timer.Listed) : timer.shutdown.Listed :=
  ⟨{ listed.sound with }, listed.inOrder, listed.known, listed.listed⟩

/-- As time goes by, deadlines come closer and stay in order. -/
theorem Listed.elapse (listed : timer.Listed) (millis : Nat) : (timer.elapse millis).Listed where
  sound := { listed.sound with }
  inOrder := by
    refine List.Pairwise.map _ (fun left right earlier => ?_) listed.inOrder
    exact Nat.sub_le_sub_right earlier millis
  known deadline member := by
    obtain ⟨earlier, listed', rfl⟩ := List.mem_map.mp member
    exact listed.known earlier listed'
  listed listener handle holds := by
    obtain ⟨deadline, member, token⟩ := listed.listed listener handle holds
    exact ⟨_, List.mem_map_of_mem member, token⟩

@[simp]
theorem agenda_shutdown (timer : Timer ι) : timer.shutdown.agenda = timer.agenda := rfl

/-- As time goes by, each entry of the agenda is due sooner. -/
theorem agenda_elapse (timer : Timer ι) (millis : Nat)
    : (timer.elapse millis).agenda
      = timer.agenda.map fun entry => (entry.1 - millis, entry.2) := by
  simp only [agenda, waiters, elapse, List.filterMap_map, List.map_filterMap, Option.map_map]
  rfl

-----------------------------------------------------------------------------------------
-- Listeners that come and go
-----------------------------------------------------------------------------------------

/-- A registration that is dropped keeps its deadline on the list. -/
theorem deadlines_drop (holds : timer.Holds listener handle) (fate : Registration)
    : (timer.drop handle fate).deadlines = timer.deadlines := by
  rw [drop_eq holds]

/-- Dropping a registration keeps what is known of the lists. -/
theorem Listed.drop (listed : timer.Listed) (holds : timer.Holds listener handle)
    (fate : Registration) : (timer.drop handle fate).Listed where
  sound := listed.sound.drop holds fate
  inOrder := by
    rw [deadlines_drop holds]
    exact listed.inOrder
  known deadline member := by
    rw [deadlines_drop holds] at member
    obtain ⟨slot, found, fresh⟩ := listed.known deadline member
    rw [getElem?_drop holds]
    split
    · rename_i same
      rw [same, holds] at found
      cases found
      refine ⟨_, rfl, .inl ?_⟩
      rcases fresh with passed | ⟨same, _⟩
      · exact Nat.lt_succ_of_lt passed
      · exact Nat.lt_succ_of_le (Nat.le_of_eq same)
    · exact ⟨slot, found, fresh⟩
  listed other held still := by
    rw [deadlines_drop holds]
    exact listed.listed other held ((holds_drop_iff holds fate).mp still).1

/-- A listener that waits under one handle only is off the agenda once that has come to its end. -/
theorem agenda_drop [DecidableEq ι] (holds : timer.Holds listener handle)
    (only : ∀ other, timer.Holds listener other → other = handle) (fate : Registration)
    : (timer.drop handle fate).agenda = timer.agenda.filter (·.2 ≠ listener) := by
  simp only [agenda, waiters, List.filter_filterMap, deadlines_drop holds]
  refine List.filterMap_congr fun deadline _ => ?_
  ext ⟨due, waiting⟩
  simp only [Option.map_eq_some_iff, Option.filter_eq_some_iff, waiter?_eq_some_iff,
    holds_drop_iff holds, Prod.mk.injEq, decide_eq_true_eq]
  constructor
  · rintro ⟨_, ⟨number, still, apart⟩, rfl, rfl⟩
    refine ⟨⟨_, ⟨number, still⟩, rfl, rfl⟩, ?_⟩
    rintro rfl
    exact apart (congrArg (·.token.index) (only _ still))
  · rintro ⟨⟨_, ⟨number, still⟩, rfl, rfl⟩, other⟩
    refine ⟨_, ⟨number, still, fun same => ?_⟩, rfl, rfl⟩
    exact other (still.unique holds same).1

section

variable {due : Nat} (listed : timer.Listed)
  (taken : timer.register listener due = .ok (handle, after))
include listed taken

/-- The token of a new registration is listed for nobody else. -/
theorem Listed.fresh {deadline : Deadline} (member : deadline ∈ timer.deadlines)
    : deadline.token ≠ handle.token := by
  intro same
  obtain ⟨slot, found, fresh⟩ := listed.known deadline member
  have registered := registered_of_register listed.sound taken
  rcases registered.slot with ⟨index, rest, old, unused, there, token, _⟩ | ⟨_, token, _⟩
  · obtain ⟨vacant, empty, free⟩ := listed.sound.vacant index (unused ▸ List.mem_cons_self)
    obtain rfl := Option.some.inj (there.symm.trans empty)
    rw [same, token, there] at found
    obtain rfl := Option.some.inj found
    rcases fresh with passed | ⟨_, waits⟩
    · rw [same, token] at passed
      exact Nat.lt_irrefl _ passed
    · rw [free] at waits
      cases waits
  · rw [same, token] at found
    exact Nat.lt_irrefl _ (List.getElem?_eq_some_iff.mp found).1

/-- Registering keeps what is known of the lists. -/
theorem Listed.register : after.Listed := by
  have registered := registered_of_register listed.sound taken
  obtain ⟨deadlines, _⟩ := deadlines_of_register taken
  refine ⟨registered.sound listed.sound, ?_, fun deadline member => ?_, fun other held holds => ?_⟩
  · rw [deadlines]
    exact pairwise_insertDeadline listed.inOrder
  · rw [deadlines] at member
    rw [registered.getElem?]
    rcases mem_insertDeadline.mp member with rfl | member
    · exact ⟨_, if_pos rfl, .inr ⟨rfl, rfl⟩⟩
    · split
      · rename_i same
        refine ⟨_, rfl, ?_⟩
        obtain ⟨slot, found, fresh⟩ := listed.known deadline member
        rcases registered.slot with ⟨index, rest, old, unused, there, token, _⟩ | ⟨_, token, _⟩
        · obtain ⟨vacant, empty, free⟩ := listed.sound.vacant index (unused ▸ List.mem_cons_self)
          obtain rfl := Option.some.inj (there.symm.trans empty)
          rw [same, token, there] at found
          obtain rfl := Option.some.inj found
          rw [token]
          exact .inl (fresh.resolve_right fun waits => by simp [free] at waits)
        · rw [same, token] at found
          exact absurd (List.getElem?_eq_some_iff.mp found).1 (Nat.lt_irrefl _)
      · exact listed.known deadline member
  · rw [deadlines]
    rcases (registered.holds_iff listed.sound).mp holds with before | ⟨rfl, rfl⟩
    · obtain ⟨deadline, member, token⟩ := listed.listed other held before
      exact ⟨deadline, mem_insertDeadline.mpr (.inr member), token⟩
    · exact ⟨⟨due, held.token⟩, mem_insertDeadline.mpr (.inl rfl), rfl⟩

/-- A listener that registers is on the agenda after those who are due earlier. -/
theorem Listed.agenda_register : Inserted (due, listener) timer.agenda after.agenda := by
  have registered := registered_of_register listed.sound taken
  obtain ⟨deadlines, _⟩ := deadlines_of_register taken
  obtain ⟨earlier, later, split, joined, before, behind⟩ :=
    insertDeadline_split ⟨due, handle.token⟩ listed.inOrder
  -- Who waits for the other deadlines is who has waited for them before.
  have others {some : List Deadline} (within : ∀ deadline ∈ some, deadline ∈ timer.deadlines)
      : after.waiters some = timer.waiters some := by
    refine List.filterMap_congr fun deadline member => ?_
    congr 1
    ext waiting
    simp only [waiter?_eq_some_iff, registered.holds_iff listed.sound]
    refine exists_congr fun number => or_iff_left ?_
    rintro ⟨_, rfl⟩
    exact listed.fresh taken (within deadline member) rfl
  have own : after.waiter? ⟨due, handle.token⟩ = some listener :=
    waiter?_eq_some_iff.mpr ⟨handle.number, registered.holds⟩
  refine ⟨timer.waiters earlier, timer.waiters later, ?_, ?_, ?_, ?_⟩
  · rw [agenda, split, waiters, List.filterMap_append]
    rfl
  · rw [← others fun deadline member => split ▸ List.mem_append_left _ member,
      ← others fun deadline member => split ▸ List.mem_append_right _ member, agenda, deadlines,
      joined, waiters, List.filterMap_append, List.filterMap_cons, own]
    rfl
  · intro other member
    obtain ⟨deadline, there, chosen⟩ := List.mem_filterMap.mp member
    obtain ⟨_, _, rfl⟩ := Option.map_eq_some_iff.mp chosen
    exact before deadline there
  · intro other member
    obtain ⟨deadline, there, chosen⟩ := List.mem_filterMap.mp member
    obtain ⟨_, _, rfl⟩ := Option.map_eq_some_iff.mp chosen
    exact behind deadline there

end

-----------------------------------------------------------------------------------------
-- What fires next
-----------------------------------------------------------------------------------------

/-- A deadline of a timer that runs fires nothing exactly if nobody waits for it. -/
theorem fire?_eq_none_iff (running : timer.isShutdown = false) {deadline : Deadline}
    : timer.fire? deadline.token = none ↔ timer.waiter? deadline = none := by
  unfold fire? waiter?
  rw [if_neg (by simp [running])]
  cases timer.slot? deadline.token with
  | none => simp
  | some slot => cases waiting : slot.listener <;> simp [waiting]

/-- What fires next is the head of the agenda. -/
theorem agenda_of_fireNext?_eq_some {horizon : Nat}
    (fired : timer.fireNext? horizon = some (listener, after))
    : ∃ due rest,
        timer.agenda = (due, listener) :: rest ∧ due < horizon ∧ timer.isShutdown = false := by
  obtain ⟨passed, deadline, rest, number, split, silent, early, running, holds, _⟩ :=
    fireFirst?_cases fired
  have nobody : timer.waiters passed = [] := by
    refine List.filterMap_eq_nil_iff.mpr fun earlier member => ?_
    rw [(fire?_eq_none_iff running).mp (silent earlier member)]
    rfl
  have waits : timer.waiter? deadline = some listener := waiter?_eq_some_iff.mpr ⟨number, holds⟩
  refine ⟨deadline.due, timer.waiters rest, ?_, early, running⟩
  have all : timer.agenda = timer.waiters passed ++ timer.waiters (deadline :: rest) := by
    rw [agenda, split, waiters, List.filterMap_append]
    rfl
  rw [all, nobody, waiters, List.filterMap_cons, waits]
  rfl

/-- If nothing fires, nothing on the agenda of a timer that runs is due before the horizon. -/
theorem Listed.agenda_of_fireNext?_eq_none (listed : timer.Listed)
    (running : timer.isShutdown = false) {horizon : Nat}
    (nothing : timer.fireNext? horizon = none) {entry : Nat × ι} (member : entry ∈ timer.agenda)
    : horizon ≤ entry.1 := by
  obtain ⟨deadline, there, waits⟩ := List.mem_filterMap.mp member
  obtain ⟨waiting, present, rfl⟩ := Option.map_eq_some_iff.mp waits
  by_contra early
  have silent := fire?_of_fireFirst?_eq_none listed.inOrder nothing there (Nat.lt_of_not_le early)
  rw [(fire?_eq_none_iff running).mp silent] at present
  cases present

end Timer

end Breakwater
