import Mathlib.Algebra.BigOperators.Group.List.Basic
import Mathlib.Algebra.GroupWithZero.Nat
import Breakwater.Stream.Slices

/-! How a stream puts the events that it takes in into slices: each event that is not late goes into
the slice of its stamp, and closed slices are handed on with increasing numbers.
-/

namespace Breakwater.SliceStream

variable {ε β : Type}

/-- An event, as a stream takes it in. -/
structure Intake (ε : Type) where
  event : ε
  /-- First millisecond of the slice that was open then. -/
  start : Nat

/-- The event lay before the slice that was open. -/
def Intake.isLate (rule : SliceRule ε β) (intake : Intake ε) : Bool :=
  rule.stamp intake.event < intake.start

/-- Events that a stream takes in one after the other. -/
def intakes (rule : SliceRule ε β) (stream : SliceStream β) : List ε → List (Intake ε)
  | [] => []
  | event :: rest => ⟨event, stream.start⟩ :: intakes rule (stream.absorb rule event).1 rest

/-- The events that were not late. -/
def timely (rule : SliceRule ε β) (taken : List (Intake ε)) : List ε :=
  (taken.filter fun intake => !intake.isLate rule).map (·.event)

/-- A numbered slice with the events that were folded into it, the first one first. Number `k` spans
the milliseconds from `k` times the duration on.
-/
structure Portion (ε : Type) where
  number : Nat
  events : List ε

/-- What a slice holds. -/
def Portion.folded (rule : SliceRule ε β) (portion : Portion ε) : β :=
  portion.events.foldl rule.add rule.blank

/-- The events of some slices, slice after slice. -/
def eventsIn (portions : List (Portion ε)) : List ε := portions.flatMap (·.events)

/-- A stream has put the events that it took in into slices. It has handed on all of these but the
last, which is open.
-/
structure Placed (rule : SliceRule ε β) (span : Nat) (taken : List (Intake ε))
    (emitted : List β) (closed : List (Portion ε)) (opened : Portion ε)
    (stream : SliceStream β) : Prop where
  duration : stream.duration = span
  start : stream.start = opened.number * span
  current : stream.current = opened.folded rule
  emitted : emitted = closed.map (·.folded rule)
  increasing : (closed ++ [opened]).Pairwise (·.number < ·.number)
  own
    : ∀ portion ∈ closed ++ [opened], ∀ event ∈ portion.events,
        rule.stamp event / span = portion.number
  timely : timely rule taken = eventsIn (closed ++ [opened])
  late : stream.late = taken.countP (·.isLate rule)

/-- A stream after some time: it has not gone back. -/
structure Onward (before after : SliceStream β) : Prop where
  sliceCount : after.sliceCount = before.sliceCount
  duration : after.duration = before.duration
  start : before.start ≤ after.start
  aligned : before.duration ∣ before.start → before.duration ∣ after.start

variable {rule : SliceRule ε β} {stream : SliceStream β}

-----------------------------------------------------------------------------------------
-- Closing slices
-----------------------------------------------------------------------------------------

/-- Nothing is closed while the open slice lasts. After that the slice of the present moment is
opened, some slices later.
-/
theorem rollForward_cases (rule : SliceRule ε β) (positive : 0 < stream.duration) (now : Nat)
    : (now < stream.start + stream.duration ∧ stream.rollForward rule now = (stream, []))
      ∨ ∃ elapsed, 0 < elapsed
          ∧ stream.start + elapsed * stream.duration ≤ now
          ∧ now < stream.start + elapsed * stream.duration + stream.duration
          ∧ stream.rollForward rule now
            = ({ stream with
                  current := rule.blank
                  start := stream.start + elapsed * stream.duration
                  closed := stream.closed + (min (elapsed - 1) stream.sliceCount + 1) },
              stream.current
                :: List.replicate (min (elapsed - 1) stream.sliceCount) rule.blank) := by
  by_cases within : now < stream.start + stream.duration
  · exact .inl ⟨within, by rw [rollForward, if_pos within]⟩
  · have whole := Nat.div_add_mod (now - stream.start) stream.duration
    have rest := Nat.mod_lt (now - stream.start) positive
    rw [Nat.mul_comm] at whole
    refine .inr ⟨(now - stream.start) / stream.duration, ?_, by omega, by omega, ?_⟩
    · exact Nat.div_pos (by omega) positive
    · simp [rollForward, within, closing]

theorem Onward.refl (stream : SliceStream β) : Onward stream stream :=
  ⟨rfl, rfl, Nat.le_refl _, id⟩

theorem Onward.trans {first second third : SliceStream β} (earlier : Onward first second)
    (later : Onward second third) : Onward first third where
  sliceCount := later.sliceCount.trans earlier.sliceCount
  duration := later.duration.trans earlier.duration
  start := Nat.le_trans earlier.start later.start
  aligned := by
    have onward := later.aligned
    rw [earlier.duration] at onward
    exact fun aligned => onward (earlier.aligned aligned)

/-- Rolling forward goes as far as the present moment, and no further. -/
theorem onward_rollForward (rule : SliceRule ε β) (positive : 0 < stream.duration) (now : Nat)
    : Onward stream (stream.rollForward rule now).1
      ∧ ((stream.rollForward rule now).1.start = stream.start
          ∨ (stream.rollForward rule now).1.start ≤ now)
      ∧ now < (stream.rollForward rule now).1.start + stream.duration := by
  rcases rollForward_cases rule positive now with ⟨within, same⟩ | ⟨elapsed, _, lower, upper, same⟩
  · rw [same]
    exact ⟨.refl stream, .inl rfl, within⟩
  · rw [same]
    refine ⟨⟨rfl, rfl, Nat.le_add_right _ _, fun aligned => ?_⟩, .inr lower, upper⟩
    exact (Nat.dvd_add_iff_right aligned).mp (Nat.dvd_mul_left _ _)

/-- A late event changes nothing but a count, any other goes into the slice of its stamp. -/
theorem absorb_cases (rule : SliceRule ε β) (stream : SliceStream β) (event : ε)
    : (rule.stamp event < stream.start
        ∧ stream.absorb rule event = ({ stream with late := stream.late + 1 }, []))
      ∨ (stream.start ≤ rule.stamp event
        ∧ stream.absorb rule event
          = ({ (stream.rollForward rule (rule.stamp event)).1 with
                current :=
                  rule.add (stream.rollForward rule (rule.stamp event)).1.current event },
              (stream.rollForward rule (rule.stamp event)).2)) := by
  by_cases late : rule.stamp event < stream.start
  · exact .inl ⟨late, by rw [absorb, if_pos late]⟩
  · exact .inr ⟨Nat.le_of_not_lt late, by rw [absorb, if_neg late]⟩

theorem onward_absorb (rule : SliceRule ε β) (positive : 0 < stream.duration) (event : ε)
    : Onward stream (stream.absorb rule event).1
      ∧ ((stream.absorb rule event).1.start = stream.start
          ∨ (stream.start ≤ rule.stamp event
            ∧ (stream.absorb rule event).1.start ≤ rule.stamp event)) := by
  rcases absorb_cases rule stream event with ⟨_, same⟩ | ⟨inTime, same⟩
  · rw [same]
    exact ⟨⟨rfl, rfl, Nat.le_refl _, id⟩, .inl rfl⟩
  · obtain ⟨onward, bound, _⟩ := onward_rollForward rule positive (rule.stamp event)
    rw [same]
    refine ⟨?_, bound.imp_right fun le => ⟨inTime, le⟩⟩
    exact ⟨onward.sliceCount, onward.duration, onward.start, onward.aligned⟩

/-- What a stream makes of events, by induction on these: it goes on from the first to the last,
and no further than one of them that is not late.
-/
theorem onward_absorbAll (rule : SliceRule ε β) (positive : 0 < stream.duration)
    (events : List ε)
    : Onward stream (stream.absorbAll rule events).1
      ∧ (∀ intake ∈ intakes rule stream events, stream.start ≤ intake.start
          ∧ intake.start ≤ (stream.absorbAll rule events).1.start
          ∧ (stream.duration ∣ stream.start → stream.duration ∣ intake.start))
      ∧ (intakes rule stream events).Pairwise (·.start ≤ ·.start)
      ∧ ((stream.absorbAll rule events).1.start = stream.start
        ∨ ∃ intake ∈ intakes rule stream events, intake.isLate rule = false
            ∧ (stream.absorbAll rule events).1.start ≤ rule.stamp intake.event) := by
  induction events generalizing stream with
  | nil => exact ⟨.refl stream, by simp [intakes], .nil, .inl rfl⟩
  | cons event rest ih =>
      obtain ⟨moved, reach⟩ := onward_absorb rule positive event
      obtain ⟨onward, within, sorted, bound⟩ := ih (moved.duration ▸ positive)
      refine ⟨moved.trans onward, ?_, ?_, ?_⟩
      · intro intake member
        rcases List.mem_cons.mp member with rfl | later
        · exact ⟨Nat.le_refl _, (moved.trans onward).start, id⟩
        · obtain ⟨lower, upper, aligned⟩ := within intake later
          rw [moved.duration] at aligned
          exact ⟨Nat.le_trans moved.start lower, upper, fun first => aligned (moved.aligned first)⟩
      · refine List.pairwise_cons.mpr ⟨fun intake later => ?_, sorted⟩
        exact Nat.le_trans moved.start (within intake later).1
      · rcases bound with still | ⟨intake, later, inTime, le⟩
        · refine reach.imp still.trans fun ⟨inTime, le⟩ => ?_
          have reached := Nat.le_trans (Nat.le_of_eq still) le
          refine ⟨⟨event, stream.start⟩, List.mem_cons_self, ?_, reached⟩
          simpa [Intake.isLate] using inTime
        · exact .inr ⟨intake, List.mem_cons_of_mem _ later, inTime, le⟩

/-- A pump opens the slice of the present moment, unless an event lies in a later one. -/
theorem onward_pump (rule : SliceRule ε β) (positive : 0 < stream.duration) (events : List ε)
    (now : Nat)
    : Onward (stream.absorbAll rule events).1 (stream.pump rule events now).1
      ∧ ((stream.pump rule events now).1.start = (stream.absorbAll rule events).1.start
          ∨ (stream.pump rule events now).1.start ≤ now)
      ∧ now < (stream.pump rule events now).1.start + stream.duration := by
  have moved := (onward_absorbAll rule positive events).1
  have rolled := onward_rollForward rule (moved.duration ▸ positive) now
  rw [moved.duration] at rolled
  exact rolled

theorem closed_rollForward (rule : SliceRule ε β) (stream : SliceStream β) (now : Nat)
    : (stream.rollForward rule now).1.closed
      = stream.closed + (stream.rollForward rule now).2.length := by
  unfold rollForward
  split <;> rfl

theorem closed_absorbAll (rule : SliceRule ε β) (stream : SliceStream β) (events : List ε)
    : (stream.absorbAll rule events).1.closed
      = stream.closed + (stream.absorbAll rule events).2.length := by
  induction events generalizing stream with
  | nil => rfl
  | cons event rest ih =>
      have absorbed
          : (stream.absorb rule event).1.closed
            = stream.closed + (stream.absorb rule event).2.length := by
        rcases absorb_cases rule stream event with ⟨_, same⟩ | ⟨_, same⟩
        · rw [same]
          rfl
        · rw [same]
          exact closed_rollForward rule stream (rule.stamp event)
      simp only [absorbAll, List.length_append]
      have onward := ih (stream.absorb rule event).1
      omega

/-- A stream counts what it hands on. -/
theorem closed_pump (rule : SliceRule ε β) (stream : SliceStream β) (events : List ε) (now : Nat)
    : (stream.pump rule events now).1.closed
      = stream.closed + (stream.pump rule events now).2.length := by
  have absorbed := closed_absorbAll rule stream events
  have rolled := closed_rollForward rule (stream.absorbAll rule events).1 now
  simp only [pump, List.length_append]
  omega

-----------------------------------------------------------------------------------------
-- Filling slices
-----------------------------------------------------------------------------------------

theorem event_intakes (rule : SliceRule ε β) (stream : SliceStream β) (events : List ε)
    : (intakes rule stream events).map (·.event) = events := by
  induction events generalizing stream with
  | nil => rfl
  | cons event rest ih => rw [intakes, List.map_cons, ih]

variable {duration : Nat} {taken : List (Intake ε)} {emitted : List β}
  {closed : List (Portion ε)} {opened : Portion ε}

theorem eventsIn_append (first more : List (Portion ε))
    : eventsIn (first ++ more) = eventsIn first ++ eventsIn more :=
  List.flatMap_append

/-- Some slices in which nothing happened. -/
def quietFrom (first count : Nat) : List (Portion ε) :=
  (List.range' first count).map fun number => ⟨number, []⟩

theorem mem_quietFrom {first count : Nat} {portion : Portion ε}
    (member : portion ∈ quietFrom first count)
    : first ≤ portion.number ∧ portion.number < first + count ∧ portion.events = [] := by
  obtain ⟨number, within, rfl⟩ := List.mem_map.mp member
  obtain ⟨lower, upper⟩ := List.mem_range'_1.mp within
  exact ⟨lower, upper, rfl⟩

theorem folded_quietFrom (rule : SliceRule ε β) (first count : Nat)
    : (quietFrom first count).map (·.folded rule) = List.replicate count rule.blank := by
  refine List.eq_replicate_iff.mpr ⟨by simp [quietFrom], fun slice member => ?_⟩
  obtain ⟨portion, there, rfl⟩ := List.mem_map.mp member
  rw [Portion.folded, (mem_quietFrom there).2.2, List.foldl_nil]

theorem pairwise_quietFrom (first count : Nat)
    : (quietFrom first count : List (Portion ε)).Pairwise (·.number < ·.number) :=
  List.pairwise_map.mpr List.pairwise_lt_range'

/-- Slices of larger numbers may follow. -/
theorem pairwise_followed {more : List (Portion ε)}
    (sorted : (closed ++ [opened]).Pairwise (·.number < ·.number))
    (onward : more.Pairwise (·.number < ·.number))
    (later : ∀ portion ∈ more, opened.number < portion.number)
    : (closed ++ opened :: more).Pairwise (·.number < ·.number) := by
  obtain ⟨old, _, before⟩ := List.pairwise_append.mp sorted
  refine List.pairwise_append.mpr ⟨old, List.pairwise_cons.mpr ⟨later, onward⟩, ?_⟩
  intro portion member other there
  have first := before portion member opened (List.mem_singleton_self _)
  rcases List.mem_cons.mp there with rfl | there
  · exact first
  · exact Nat.lt_trans first (later other there)

/-- Rolling forward hands on the open slice and some empty ones after it, and opens the slice of
that moment.
-/
theorem Placed.rollForward (placed : Placed rule duration taken emitted closed opened stream)
    (positive : 0 < duration) (now : Nat)
    : ∃ more next, Placed rule duration taken (emitted ++ (stream.rollForward rule now).2)
          (closed ++ more) next (stream.rollForward rule now).1
        ∧ (stream.start ≤ now → next.number = now / duration) := by
  obtain rfl := placed.duration
  rcases rollForward_cases rule positive now
    with ⟨within, same⟩ | ⟨elapsed, several, lower, upper, same⟩
  · refine ⟨[], opened, by simpa [same] using placed, fun reached => ?_⟩
    have start := placed.start
    refine (Nat.div_eq_of_lt_le ?_ ?_).symm
    · rwa [← start]
    · rwa [Nat.succ_mul, ← start]
  · let quiet : List (Portion ε) :=
      quietFrom (opened.number + 1) (min (elapsed - 1) stream.sliceCount)
    let next : Portion ε := ⟨opened.number + elapsed, []⟩
    have start : stream.start + elapsed * stream.duration = next.number * stream.duration := by
      rw [placed.start, Nat.add_mul]
    have between (portion : Portion ε) (member : portion ∈ quiet)
        : opened.number < portion.number ∧ portion.number < next.number := by
      obtain ⟨first, last, _⟩ := mem_quietFrom member
      show opened.number < portion.number ∧ portion.number < opened.number + elapsed
      omega
    have silent (portion : Portion ε) (member : portion ∈ quiet ++ [next])
        : portion.events = [] := by
      rcases List.mem_append.mp member with inside | last
      · exact (mem_quietFrom inside).2.2
      · rw [List.mem_singleton.mp last]
    have listed
        : closed ++ opened :: quiet ++ [next] = closed ++ [opened] ++ (quiet ++ [next]) := by
      simp
    refine ⟨opened :: quiet, next, ?_, fun _ => ?_⟩
    · rw [same]
      exact {
        duration := rfl
        start := start
        current := rfl
        emitted := by
          rw [placed.emitted, placed.current, List.map_append, List.map_cons, folded_quietFrom]
        increasing := by
          rw [List.append_assoc]
          refine pairwise_followed placed.increasing (List.pairwise_append.mpr ⟨?_, ?_, ?_⟩) ?_
          · exact pairwise_quietFrom _ _
          · exact List.pairwise_singleton _ _
          · intro portion member last new
            rw [List.mem_singleton.mp new]
            exact (between portion member).2
          · intro portion member
            rcases List.mem_append.mp member with inside | last
            · exact (between portion inside).1
            · rw [List.mem_singleton.mp last]
              exact Nat.lt_add_of_pos_right several
        own := by
          rw [listed]
          intro portion member event there
          rcases List.mem_append.mp member with old | new
          · exact placed.own portion old event there
          · rw [silent portion new] at there
            cases there
        timely := by
          have nothing : eventsIn (quiet ++ [next]) = [] := List.flatMap_eq_nil_iff.mpr silent
          rw [listed, eventsIn_append, nothing, List.append_nil, placed.timely]
        late := placed.late
      }
    · refine (Nat.div_eq_of_lt_le ?_ ?_).symm
      · rwa [← start]
      · rwa [Nat.succ_mul, ← start]

theorem timely_snoc (rule : SliceRule ε β) (taken : List (Intake ε)) (last : Intake ε)
    : timely rule (taken ++ [last])
      = timely rule taken ++ if last.isLate rule then [] else [last.event] := by
  cases late : last.isLate rule <;> simp [timely, List.filter_append, late]

/-- One more event goes into the open slice, once that is the slice of its stamp. -/
theorem Placed.absorb (placed : Placed rule duration taken emitted closed opened stream)
    (positive : 0 < duration) (event : ε)
    : ∃ more next, Placed rule duration (taken ++ [⟨event, stream.start⟩])
        (emitted ++ (stream.absorb rule event).2) (closed ++ more) next
        (stream.absorb rule event).1 := by
  rcases absorb_cases rule stream event with ⟨late, same⟩ | ⟨inTime, same⟩
  · have counted : Intake.isLate rule ⟨event, stream.start⟩ = true := decide_eq_true late
    refine ⟨[], opened, ?_⟩
    rw [same, List.append_nil, List.append_nil]
    exact {
      placed with
      timely := by rw [timely_snoc, counted, if_pos rfl, List.append_nil, placed.timely]
      late := by rw [List.countP_append, ← placed.late, List.countP_singleton, if_pos counted]
    }
  · have counted : Intake.isLate rule ⟨event, stream.start⟩ = false :=
      decide_eq_false (Nat.not_lt_of_le inTime)
    obtain ⟨more, next, rolled, number⟩ := placed.rollForward positive (rule.stamp event)
    refine ⟨more, { next with events := next.events ++ [event] }, ?_⟩
    obtain ⟨old, _, before⟩ := List.pairwise_append.mp rolled.increasing
    rw [same]
    exact {
      duration := rolled.duration
      start := rolled.start
      current := by simp [Portion.folded, rolled.current]
      emitted := rolled.emitted
      increasing := by
        refine List.pairwise_append.mpr ⟨old, List.pairwise_singleton _ _, ?_⟩
        intro portion member last new
        rw [List.mem_singleton.mp new]
        exact before portion member next (List.mem_singleton_self _)
      own := by
        intro portion member other listed
        rcases List.mem_append.mp member with earlier | last
        · exact rolled.own portion (List.mem_append_left _ earlier) other listed
        · rw [List.mem_singleton.mp last] at listed ⊢
          rcases List.mem_append.mp listed with earlier | new
          · exact rolled.own next (by simp) other earlier
          · rw [List.mem_singleton.mp new]
            exact (number inTime).symm
      timely := by
        rw [timely_snoc, counted, rolled.timely]
        simp [eventsIn]
      late := by
        rw [List.countP_append, ← rolled.late, List.countP_singleton, counted]
        rfl
    }

/-- Some more events, by induction on these. -/
theorem Placed.absorbAll (placed : Placed rule duration taken emitted closed opened stream)
    (positive : 0 < duration) (events : List ε)
    : ∃ more next, Placed rule duration (taken ++ intakes rule stream events)
        (emitted ++ (stream.absorbAll rule events).2) (closed ++ more) next
        (stream.absorbAll rule events).1 := by
  induction events generalizing stream taken emitted closed opened with
  | nil => exact ⟨[], opened, by simpa [intakes, SliceStream.absorbAll] using placed⟩
  | cons event rest ih =>
      obtain ⟨more, next, absorbed⟩ := placed.absorb positive event
      obtain ⟨others, last, onward⟩ := ih absorbed
      refine ⟨more ++ others, last, ?_⟩
      simpa [intakes, SliceStream.absorbAll, List.append_assoc] using onward

theorem Placed.pump (placed : Placed rule duration taken emitted closed opened stream)
    (positive : 0 < duration) (events : List ε) (now : Nat)
    : ∃ more next, Placed rule duration (taken ++ intakes rule stream events)
        (emitted ++ (stream.pump rule events now).2) (closed ++ more) next
        (stream.pump rule events now).1 := by
  obtain ⟨more, next, absorbed⟩ := placed.absorbAll positive events
  obtain ⟨others, last, rolled, _⟩ := absorbed.rollForward positive now
  exact ⟨more ++ others, last, by simpa [SliceStream.pump, List.append_assoc] using rolled⟩

theorem placed_opening (rule : SliceRule ε β) (sliceCount : Nat) (duration created : Nat)
    : Placed rule duration [] [] [] ⟨created / duration, []⟩
        (opening rule sliceCount duration created) where
  duration := rfl
  start := by
    have whole := Nat.div_add_mod created duration
    rw [Nat.mul_comm] at whole
    show created - created % duration = created / duration * duration
    omega
  current := rfl
  emitted := rfl
  increasing := List.pairwise_singleton _ _
  own := by simp
  timely := rfl
  late := rfl

/-- Every event is either late or in a slice. -/
theorem Placed.conserved (placed : Placed rule duration taken emitted closed opened stream)
    : taken.length
      = (closed.map (·.events.length)).sum + opened.events.length + stream.late := by
  have split := (List.length_eq_countP_add_countP (·.isLate rule) : taken.length = _)
  have counted
      : (SliceStream.timely rule taken).length
        = taken.countP fun intake => !intake.isLate rule := by
    rw [SliceStream.timely, List.length_map, List.countP_eq_length_filter]
  have sums : (eventsIn (closed ++ [opened])).length
      = (closed.map (·.events.length)).sum + opened.events.length := by
    rw [eventsIn_append, List.length_append, eventsIn, List.length_flatMap]
    simp [eventsIn]
  rw [placed.timely, sums] at counted
  simp only [Bool.not_eq_true, Bool.decide_eq_false] at split
  rw [split, ← placed.late, counted]
  omega

end Breakwater.SliceStream
