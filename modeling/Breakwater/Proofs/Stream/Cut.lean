import Breakwater.Proofs.Stream.Window

/-! A stream cuts the events that it takes in into numbered slices. Number `k` spans the
milliseconds from `k` times the duration on, and every event lies in the slice of its stamp.
-/

namespace Breakwater.SliceStream

variable {ε β : Type} (rule : SliceRule ε β)

/-- What a numbered slice holds of some events. -/
def content (duration : Nat) (events : List ε) (number : Nat) : β :=
  (events.filter (fun event => rule.stamp event / duration == number)).foldl rule.add rule.blank

/-- The slices from one number up to another, that one not included. -/
def contents (duration : Nat) (events : List ε) (first next : Nat) : List β :=
  (List.range' first (next - first)).map (content rule duration events)

/-- The stream has cut events into slices from one number on, and its open slice has another
number. What it handed on are the slices before that, but for long gaps.
-/
structure Cut (first present : Nat) (events : List ε) (emitted : List β)
    (stream : SliceStream β) : Prop where
  positive : 0 < stream.duration
  start : stream.start = present * stream.duration
  reached : first ≤ present
  placed
    : ∀ event ∈ events,
        first ≤ rule.stamp event / stream.duration
          ∧ rule.stamp event / stream.duration ≤ present
  current : stream.current = content rule stream.duration events present
  condensed
    : Condensed rule.blank stream.sliceCount emitted
        (contents rule stream.duration events first present)

-----------------------------------------------------------------------------------------
-- Contents
-----------------------------------------------------------------------------------------

variable {rule}

theorem content_eq_blank {duration number : Nat} {events : List ε}
    (empty : ∀ event ∈ events, rule.stamp event / duration ≠ number)
    : content rule duration events number = rule.blank := by
  have none_there : events.filter (fun event => rule.stamp event / duration == number) = [] := by
    rw [List.filter_eq_nil_iff]
    intro event member
    simpa using empty event member
  rw [content, none_there, List.foldl_nil]

/-- Only the events of a slice show in it. -/
theorem content_filter {duration number : Nat} {events : List ε} {kept : ε → Bool}
    (own : ∀ event ∈ events, rule.stamp event / duration = number → kept event = true)
    : content rule duration (events.filter kept) number = content rule duration events number := by
  rw [content, List.filter_filter, content]
  congr 1
  apply List.filter_congr
  intro event member
  by_cases here : rule.stamp event / duration = number
  · simp [here, own event member here]
  · simp [here]

theorem content_append_own {duration : Nat} (events : List ε) (event : ε)
    : content rule duration (events ++ [event]) (rule.stamp event / duration)
      = rule.add (content rule duration events (rule.stamp event / duration)) event := by
  simp [content, List.filter_append]

theorem content_append_other {duration number : Nat} (events : List ε) {event : ε}
    (other : rule.stamp event / duration ≠ number)
    : content rule duration (events ++ [event]) number = content rule duration events number := by
  simp [content, List.filter_append, other]

/-- An event of a later slice does not show in those before. -/
theorem contents_append {duration first next : Nat} (events : List ε) {event : ε}
    (later : next ≤ rule.stamp event / duration)
    : contents rule duration (events ++ [event]) first next
      = contents rule duration events first next := by
  simp only [contents]
  apply List.map_congr_left
  intro number member
  obtain ⟨_, before⟩ := List.mem_range'_1.mp member
  exact content_append_other events (by omega)

/-- The slices up to a later number: those before, the present one, and blank ones if nothing
happened since.
-/
theorem contents_of_lt {duration first present next : Nat} {events : List ε}
    (reached : first ≤ present) (later : present < next)
    (placed : ∀ event ∈ events, rule.stamp event / duration ≤ present)
    : contents rule duration events first next
      = contents rule duration events first present
        ++ [content rule duration events present]
        ++ List.replicate (next - present - 1) rule.blank := by
  have split : next - first = (present - first) + (1 + (next - present - 1)) := by omega
  have blanks : (List.range' (present + 1) (next - present - 1)).map (content rule duration events)
      = List.replicate (next - present - 1) rule.blank := by
    rw [List.eq_replicate_iff]
    refine ⟨by rw [List.length_map, List.length_range'], ?_⟩
    intro slice member
    obtain ⟨number, within, rfl⟩ := List.mem_map.mp member
    obtain ⟨after, _⟩ := List.mem_range'_1.mp within
    apply content_eq_blank
    intro event there
    have := placed event there
    omega
  rw [contents, split, ← List.range'_append_1, ← List.range'_append_1, List.map_append,
    List.map_append, contents, List.append_assoc]
  have here : first + (present - first) = present := by omega
  rw [here, blanks]
  rfl

-----------------------------------------------------------------------------------------
-- Moving on
-----------------------------------------------------------------------------------------

variable {first present : Nat} {events : List ε} {emitted : List β} {stream : SliceStream β}

theorem Cut.start_le_iff (cut : Cut rule first present events emitted stream) (now : Nat)
    : stream.start ≤ now ↔ present ≤ now / stream.duration := by
  rw [cut.start, Nat.le_div_iff_mul_le cut.positive]

theorem rollForward_late (rule : SliceRule ε β) (stream : SliceStream β) (now : Nat)
    : (stream.rollForward rule now).1.late = stream.late
      ∧ (stream.rollForward rule now).1.duration = stream.duration
      ∧ (stream.rollForward rule now).1.sliceCount = stream.sliceCount := by
  simp only [rollForward]
  split
  · exact ⟨rfl, rfl, rfl⟩
  · exact ⟨rfl, rfl, rfl⟩

/-- Rolling forward opens the slice of that moment, unless a later one is open. -/
theorem Cut.rollForward (cut : Cut rule first present events emitted stream) (now : Nat)
    : Cut rule first (max present (now / stream.duration)) events
        (emitted ++ (stream.rollForward rule now).2) (stream.rollForward rule now).1 := by
  have ends : stream.start + stream.duration = (present + 1) * stream.duration := by
    rw [cut.start, Nat.add_mul, Nat.one_mul]
  simp only [SliceStream.rollForward]
  split
  · rename_i within
    have same : max present (now / stream.duration) = present := by
      have := (Nat.div_lt_iff_lt_mul cut.positive).mpr (ends ▸ within)
      omega
    rw [same, List.append_nil]
    exact cut
  · rename_i beyond
    have later : present + 1 ≤ now / stream.duration := by
      rw [Nat.le_div_iff_mul_le cut.positive, ← ends]
      omega
    have elapsed : (now - stream.start) / stream.duration
        = now / stream.duration - present := by
      rw [cut.start, Nat.mul_comm, Nat.sub_mul_div]
    have next : max present (now / stream.duration) = now / stream.duration := by omega
    rw [next]
    refine ⟨cut.positive, ?_, by have := cut.reached; omega, ?_, ?_, ?_⟩
    · show stream.start + (now - stream.start) / stream.duration * stream.duration = _
      rw [elapsed, cut.start, ← Nat.add_mul]
      congr 1
      omega
    · intro event member
      have := cut.placed event member
      dsimp only
      omega
    · symm
      apply content_eq_blank
      intro event member
      have := cut.placed event member
      dsimp only
      omega
    · show Condensed rule.blank stream.sliceCount (emitted ++ closing rule stream now)
        (contents rule stream.duration events first (now / stream.duration))
      have placed (event : ε) (member : event ∈ events) := (cut.placed event member).2
      rw [contents_of_lt cut.reached (by omega) placed, closing, elapsed, ← cut.current,
        ← List.singleton_append, ← List.append_assoc]
      exact (cut.condensed.slice stream.current).append_gap _

/-- An event that is not late is added to the slice of its stamp, which is open from then on. -/
theorem Cut.absorb (cut : Cut rule first present events emitted stream) {event : ε}
    (inTime : stream.start ≤ rule.stamp event)
    : Cut rule first (rule.stamp event / stream.duration) (events ++ [event])
        (emitted ++ (stream.absorb rule event).2) (stream.absorb rule event).1
      ∧ (stream.absorb rule event).1.late = stream.late
      ∧ (stream.absorb rule event).1.duration = stream.duration
      ∧ (stream.absorb rule event).1.sliceCount = stream.sliceCount := by
  have later := (cut.start_le_iff _).mp inTime
  have rolled := cut.rollForward (rule.stamp event)
  have kept := rollForward_late rule stream (rule.stamp event)
  rw [Nat.max_eq_right later] at rolled
  simp only [SliceStream.absorb]
  rw [if_neg (by omega)]
  refine ⟨⟨rolled.positive, rolled.start, rolled.reached, ?_, ?_, ?_⟩, kept⟩
  · intro other member
    rcases List.mem_append.mp member with member | new
    · exact rolled.placed other member
    · obtain rfl : other = event := by simpa using new
      have := cut.reached
      rw [kept.2.1]
      omega
  · dsimp only
    rw [rolled.current, kept.2.1, content_append_own]
  · have condensed := rolled.condensed
    dsimp only
    rw [kept.2.1] at condensed ⊢
    rwa [contents_append events (Nat.le_refl _)]

/-- Events that come in order of their stamps, none of them late, are all taken in, by induction
on the events; the open slice goes no further than the last of them.
-/
theorem Cut.absorbAll (cut : Cut rule first present events emitted stream) {more : List ε}
    (sorted : more.Pairwise (fun left right => rule.stamp left ≤ rule.stamp right))
    (inTime : ∀ event ∈ more, stream.start ≤ rule.stamp event) {now : Nat}
    (reached : present ≤ now / stream.duration) (past : ∀ event ∈ more, rule.stamp event ≤ now)
    : ∃ next, next ≤ now / stream.duration
        ∧ Cut rule first next (events ++ more) (emitted ++ (stream.absorbAll rule more).2)
          (stream.absorbAll rule more).1
        ∧ (stream.absorbAll rule more).1.late = stream.late
        ∧ (stream.absorbAll rule more).1.duration = stream.duration
        ∧ (stream.absorbAll rule more).1.sliceCount = stream.sliceCount := by
  induction more generalizing events emitted stream present with
  | nil =>
      refine ⟨present, reached, ?_, rfl, rfl, rfl⟩
      rw [SliceStream.absorbAll, List.append_nil, List.append_nil]
      exact cut
  | cons event rest ih =>
      obtain ⟨before, sorted⟩ := List.pairwise_cons.mp sorted
      obtain ⟨absorbed, late, duration, sliceCount⟩ :=
        cut.absorb (inTime event List.mem_cons_self)
      have stillInTime (other : ε) (member : other ∈ rest)
          : (stream.absorb rule event).1.start ≤ rule.stamp other := by
        rw [absorbed.start_le_iff, duration]
        exact Nat.div_le_div_right (before other member)
      have stillReached
          : rule.stamp event / stream.duration ≤ now / (stream.absorb rule event).1.duration := by
        rw [duration]
        exact Nat.div_le_div_right (past event List.mem_cons_self)
      obtain ⟨next, bound, taken, late', duration', sliceCount'⟩ :=
        ih absorbed sorted stillInTime stillReached
          (fun other member => past other (List.mem_cons_of_mem _ member))
      refine ⟨next, duration ▸ bound, ?_, late'.trans late, duration'.trans duration,
        sliceCount'.trans sliceCount⟩
      rw [List.append_assoc, List.append_assoc, List.singleton_append] at taken
      exact taken

/-- A pump takes in what is pending and opens the slice of the present moment. -/
theorem Cut.pump (cut : Cut rule first present events emitted stream) {more : List ε}
    (sorted : more.Pairwise (fun left right => rule.stamp left ≤ rule.stamp right))
    (inTime : ∀ event ∈ more, stream.start ≤ rule.stamp event) {now : Nat}
    (reached : stream.start ≤ now) (past : ∀ event ∈ more, rule.stamp event ≤ now)
    : Cut rule first (now / stream.duration) (events ++ more)
        (emitted ++ (stream.pump rule more now).2) (stream.pump rule more now).1
      ∧ (stream.pump rule more now).1.late = stream.late
      ∧ (stream.pump rule more now).1.duration = stream.duration
      ∧ (stream.pump rule more now).1.sliceCount = stream.sliceCount := by
  obtain ⟨next, bound, taken, late, duration, sliceCount⟩ :=
    cut.absorbAll sorted inTime ((cut.start_le_iff now).mp reached) past
  have rolled := taken.rollForward now
  obtain ⟨late', duration', sliceCount'⟩ :=
    rollForward_late rule (stream.absorbAll rule more).1 now
  rw [duration, Nat.max_eq_right bound, List.append_assoc] at rolled
  exact ⟨rolled, late'.trans late, duration'.trans duration, sliceCount'.trans sliceCount⟩

/-- Slices may be numbered from the open one on, as if nothing had been handed on before. -/
theorem Cut.restart (cut : Cut rule first present events emitted stream)
    : Cut rule present present
        (events.filter (fun event => present ≤ rule.stamp event / stream.duration)) [] stream where
  positive := cut.positive
  start := cut.start
  reached := Nat.le_refl _
  placed event member := by
    obtain ⟨listed, late⟩ := List.mem_filter.mp member
    exact ⟨of_decide_eq_true late, (cut.placed event listed).2⟩
  current := by
    rw [cut.current, content_filter]
    intro event _ here
    exact decide_eq_true (Nat.le_of_eq here.symm)
  condensed := by
    rw [contents, Nat.sub_self]
    exact .nil

-----------------------------------------------------------------------------------------
-- Windows
-----------------------------------------------------------------------------------------

/-- A window's worth of slices was handed on exactly when so many have ended. -/
theorem Cut.full_iff (cut : Cut rule first present events emitted stream)
    : stream.sliceCount ≤ emitted.length ↔ first + stream.sliceCount ≤ present := by
  have reached := cut.reached
  rw [cut.condensed.le_length_iff, contents, List.length_map, List.length_range']
  omega

/-- What was handed on last are the slices before the open one. -/
theorem Cut.recent_eq (cut : Cut rule first present events emitted stream)
    (full : first + stream.sliceCount ≤ present)
    : recent stream.sliceCount emitted
      = contents rule stream.duration events (present - stream.sliceCount) present := by
  have length : (contents rule stream.duration events (present - stream.sliceCount) present).length
      = stream.sliceCount := by
    rw [contents, List.length_map, List.length_range']
    omega
  have split : contents rule stream.duration events first present
      = contents rule stream.duration events first (present - stream.sliceCount)
        ++ contents rule stream.duration events (present - stream.sliceCount) present := by
    unfold contents
    rw [← List.map_append]
    congr 1
    have whole : present - first
        = (present - stream.sliceCount - first) + (present - (present - stream.sliceCount)) := by
      omega
    rw [whole, ← List.range'_append_1]
    congr 2
    omega
  rw [cut.condensed.recent_eq, split, recent_append_of_le _ (Nat.le_of_eq length.symm),
    recent_of_length_le (Nat.le_of_eq length)]

/-- A window over what was handed on sums up the slices before the open one, once it is full. -/
theorem Cut.latestOrBlank_eq {γ : Type} (cut : Cut rule first present events emitted stream)
    {rolling : RollingWindow β γ} {summary : SummaryRule β γ}
    (holds : rolling.Holds summary stream.sliceCount emitted)
    : rolling.latestOrBlank summary
      = if first + stream.sliceCount ≤ present then
          summary.summary
            (contents rule stream.duration events (present - stream.sliceCount) present)
        else summary.blank := by
  rw [holds.latestOrBlank]
  by_cases full : first + stream.sliceCount ≤ present
  · rw [if_pos (cut.full_iff.mpr full), if_pos full, cut.recent_eq full]
  · rw [if_neg (mt cut.full_iff.mp full), if_neg full]

/-- A stream that was just opened has cut nothing yet. -/
theorem cut_opening (rule : SliceRule ε β) (sliceCount : Nat) {duration : Nat}
    (positive : 0 < duration) (now : Nat)
    : Cut rule (now / duration) (now / duration) [] []
        (opening rule sliceCount duration now) where
  positive := positive
  start := by
    have whole := Nat.div_add_mod now duration
    rw [Nat.mul_comm] at whole
    show now - now % duration = now / duration * duration
    omega
  reached := Nat.le_refl _
  placed _ member := by cases member
  current := rfl
  condensed := by
    rw [contents, Nat.sub_self]
    exact .nil

end Breakwater.SliceStream
