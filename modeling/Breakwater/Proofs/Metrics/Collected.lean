import Mathlib.Algebra.GroupWithZero.Nat
import Breakwater.Metrics
import Breakwater.Proofs.Stream.Cut

/-! What the counters of one key show of the completions that were taken in: those whose slices
lie in the window, or before the open slice.
-/

namespace Breakwater

/-- A number that is read off tallies and adds up where they are merged. -/
structure Tally.Additive (measure : Tally → Nat) : Prop where
  empty : measure .empty = 0
  merge : ∀ left right, measure (left.merge right) = measure left + measure right

/-- What the records of some completions come to. -/
def amount (measure : Tally → Nat) (events : List CompletionEvent) : Nat :=
  (events.map (fun event => measure event.record.tags)).sum

/-- How often a tag occurs in the records of some completions. -/
def occurrences (tag : Tag) (events : List CompletionEvent) : Nat :=
  (events.map (fun event => event.record.tags.count tag)).sum

/-- The completions from one moment on and before another. -/
def between (from_ until_ : Nat) (events : List CompletionEvent) : List CompletionEvent :=
  events.filter (fun event => from_ ≤ event.completedAt && event.completedAt < until_)

theorem between_append (from_ until_ : Nat) (events more : List CompletionEvent)
    : between from_ until_ (events ++ more)
      = between from_ until_ events ++ between from_ until_ more :=
  List.filter_append _ _

-----------------------------------------------------------------------------------------
-- Sums of slices
-----------------------------------------------------------------------------------------

theorem merge_blank (tally : Tally) : tally.merge .empty = tally := by
  ext tag
  rw [Tally.count_merge, Tally.count_empty, Nat.add_zero]

/-- A slice holds the completions of its milliseconds. -/
theorem filter_slice {duration : Nat} (positive : 0 < duration) (events : List CompletionEvent)
    (number : Nat)
    : events.filter (fun event => event.completedAt / duration == number)
      = between (number * duration) ((number + 1) * duration) events := by
  apply List.filter_congr
  intro event _
  have lower := Nat.le_div_iff_mul_le positive (x := number) (y := event.completedAt)
  have upper := Nat.div_lt_iff_lt_mul positive (x := event.completedAt) (y := number + 1)
  rw [Bool.eq_iff_iff, beq_iff_eq, Bool.and_eq_true, decide_eq_true_eq, decide_eq_true_eq,
    ← lower, ← upper]
  omega

theorem amount_between_split (measure : Tally → Nat) (events : List CompletionEvent)
    {first middle last : Nat} (lower : first ≤ middle) (upper : middle ≤ last)
    : amount measure (between first last events)
      = amount measure (between first middle events)
        + amount measure (between middle last events) := by
  induction events with
  | nil => rfl
  | cons event rest ih =>
      have counted (from_ until_ : Nat)
          : amount measure (between from_ until_ (event :: rest))
            = (if from_ ≤ event.completedAt ∧ event.completedAt < until_
                then measure event.record.tags else 0)
              + amount measure (between from_ until_ rest) := by
        unfold between
        by_cases within : from_ ≤ event.completedAt ∧ event.completedAt < until_
        · rw [List.filter_cons_of_pos (by simpa using within), if_pos within]
          rfl
        · rw [List.filter_cons_of_neg (by simpa using within), if_neg within, Nat.zero_add]
      rw [counted, counted, counted, ih]
      split <;> split <;> split <;> omega

namespace Tally.Additive

theorem count (tag : Tag) : Additive (·.count tag) where
  empty := Tally.count_empty tag
  merge left right := Tally.count_merge left right tag

variable {measure : Tally → Nat}

theorem foldl_merge (additive : Additive measure) (tallies : List Tally) (start : Tally)
    : measure (tallies.foldl Tally.merge start) = measure start + (tallies.map measure).sum := by
  induction tallies generalizing start with
  | nil => rfl
  | cons first rest ih =>
      rw [List.foldl_cons, ih, additive.merge, List.map_cons, List.sum_cons]
      omega

/-- A slice holds what it held before and what the records come to. -/
theorem foldl_add (additive : Additive measure) (events : List CompletionEvent) (start : Tally)
    : measure (events.foldl completionSlices.add start)
      = measure start + amount measure events := by
  induction events generalizing start with
  | nil => rfl
  | cons first rest ih =>
      have added : measure (completionSlices.add start first)
          = measure start + measure first.record.tags :=
        additive.merge _ _
      rw [List.foldl_cons, ih, added, amount, amount, List.map_cons, List.sum_cons]
      omega

theorem content (additive : Additive measure) (duration : Nat) (events : List CompletionEvent)
    (number : Nat)
    : measure (SliceStream.content completionSlices duration events number)
      = amount measure (events.filter (fun event => event.completedAt / duration == number)) := by
  rw [SliceStream.content, additive.foldl_add]
  exact (congrArg (· + _) additive.empty).trans (Nat.zero_add _)

/-- Counting slice by slice counts every completion once, by induction on the number of slices. -/
theorem sum_contents (additive : Additive measure) {duration : Nat} (positive : 0 < duration)
    (events : List CompletionEvent) {first next : Nat} (ordered : first ≤ next)
    : ((SliceStream.contents completionSlices duration events first next).map measure).sum
      = amount measure (between (first * duration) (next * duration) events) := by
  obtain ⟨length, rfl⟩ := Nat.exists_eq_add_of_le ordered
  rw [SliceStream.contents, Nat.add_sub_cancel_left]
  clear ordered
  induction length with
  | zero =>
      have none_there : between (first * duration) ((first + 0) * duration) events = [] := by
        rw [between, List.filter_eq_nil_iff]
        intro event _
        simp
      rw [none_there]
      rfl
  | succ length ih =>
      have lower : first * duration ≤ (first + length) * duration :=
        Nat.mul_le_mul_right _ (Nat.le_add_right _ _)
      have upper : (first + length) * duration ≤ (first + (length + 1)) * duration :=
        Nat.mul_le_mul_right _ (by omega)
      rw [amount_between_split measure events lower upper, ← ih, List.range'_1_concat,
        List.map_append, List.map_append, List.sum_append, List.map_singleton, List.map_singleton,
        List.sum_singleton, additive.content, filter_slice positive]
      rfl

end Tally.Additive

-----------------------------------------------------------------------------------------
-- Counters
-----------------------------------------------------------------------------------------

/-- Where completions are counted once they are taken in. -/
structure Meters where
  slices : SliceStream Tally
  rolling : RollingWindow Tally Tally
  totals : RunningTotal Tally

def Metrics.meters (metrics : Metrics) : Meters where
  slices := metrics.slices
  rolling := metrics.rolling
  totals := metrics.totals

/-- The metrics have taken in some completions, cut into slices from one number on, and have
handed on slices from that of the start up to the open one.
-/
structure Metrics.Collected (first present : Nat) (events : List CompletionEvent)
    (emitted : List Tally) (metrics : Metrics) : Prop where
  cut : SliceStream.Cut completionSlices first present events emitted metrics.slices
  onTime : metrics.slices.late = 0
  rolling : metrics.rolling.Holds tallySummary metrics.slices.sliceCount emitted
  totals : metrics.totals.Holds tallySummary metrics.slices.sliceCount emitted

namespace Metrics

theorem foldl_pushSlice (metrics : Metrics) (slices : List Tally)
    : slices.foldl pushSlice metrics
      = { metrics with
          health := slices.foldl (RollingWindow.push healthSummary) metrics.health
          rolling := slices.foldl (RollingWindow.push tallySummary) metrics.rolling
          totals := slices.foldl (RunningTotal.push tallySummary) metrics.totals } := by
  induction slices generalizing metrics with
  | nil => rfl
  | cons first rest ih => exact ih (metrics.pushSlice first)

theorem Collected.congr {first present : Nat} {events : List CompletionEvent}
    {emitted : List Tally} {metrics other : Metrics}
    (collected : Collected first present events emitted metrics)
    (same : other.meters = metrics.meters) : Collected first present events emitted other := by
  have slices : other.slices = metrics.slices := congrArg Meters.slices same
  obtain ⟨cut, onTime, rolling, totals⟩ := collected
  rw [← slices] at cut onTime
  rw [← slices, ← show other.rolling = metrics.rolling from congrArg Meters.rolling same] at rolling
  rw [← slices, ← show other.totals = metrics.totals from congrArg Meters.totals same] at totals
  exact ⟨cut, onTime, rolling, totals⟩

/-- A pump takes in what is pending, in order of time, and closes what has ended. -/
theorem Collected.pump {first present : Nat} {events : List CompletionEvent}
    {emitted : List Tally} {metrics : Metrics}
    (collected : Collected first present events emitted metrics) {now : Nat}
    (sorted
      : (metrics.bus.pending metrics.source).Pairwise
          (fun left right => left.completedAt ≤ right.completedAt))
    (inTime : ∀ event ∈ metrics.bus.pending metrics.source,
      metrics.slices.start ≤ event.completedAt)
    (reached : metrics.slices.start ≤ now)
    (past : ∀ event ∈ metrics.bus.pending metrics.source, event.completedAt ≤ now)
    : ∃ closed,
        Collected first (now / metrics.slices.duration)
            (events ++ metrics.bus.pending metrics.source) (emitted ++ closed) (metrics.pump now).2
          ∧ (metrics.pump now).2.slices.duration = metrics.slices.duration
          ∧ (metrics.pump now).2.slices.sliceCount = metrics.slices.sliceCount := by
  obtain ⟨cut, late, duration, sliceCount⟩ :=
    collected.cut.pump sorted inTime reached past
  let drained := { metrics with
    bus := (metrics.bus.drain metrics.source).2
    slices := (metrics.slices.pump completionSlices (metrics.bus.pending metrics.source) now).1 }
  let closed := (metrics.slices.pump completionSlices (metrics.bus.pending metrics.source) now).2
  have same := foldl_pushSlice drained closed
  have pumped : (metrics.pump now).2 = closed.foldl pushSlice drained := rfl
  have rolling := collected.rolling.pushAll closed
  have totals := collected.totals.pushAll closed
  rw [← sliceCount] at rolling totals
  refine ⟨closed, ?_, ?_, ?_⟩
  · rw [pumped, same]
    exact ⟨cut, late.trans collected.onTime, rolling, totals⟩
  · rw [pumped, same]
    exact duration
  · rw [pumped, same]
    exact sliceCount

-----------------------------------------------------------------------------------------
-- Readings
-----------------------------------------------------------------------------------------

variable {first present : Nat} {events : List CompletionEvent} {emitted : List Tally}
  {metrics : Metrics}

/-- The rolling count of a tag: its occurrences in the slices of the window, once so many slices
have ended.
-/
theorem Collected.rollingCounts (collected : Collected first present events emitted metrics)
    (tag : Tag)
    : metrics.rollingCounts.count tag
      = if first + metrics.slices.sliceCount ≤ present then
          occurrences tag
            (between ((present - metrics.slices.sliceCount) * metrics.slices.duration)
              (present * metrics.slices.duration) events)
        else 0 := by
  have additive := Tally.Additive.count tag
  rw [Metrics.rollingCounts, collected.cut.latestOrBlank_eq collected.rolling]
  split
  · refine (additive.foldl_merge _ _).trans ?_
    rw [additive.sum_contents collected.cut.positive events (Nat.sub_le _ _)]
    exact (congrArg (· + _) additive.empty).trans (Nat.zero_add _)
  · exact additive.empty

/-- The total count of a tag: its occurrences before the open slice, once a window's worth of
slices have ended.
-/
theorem Collected.totalCounts (collected : Collected first present events emitted metrics)
    (some_slices : 0 < metrics.slices.sliceCount) (tag : Tag)
    : metrics.totalCounts.count tag
      = if first + metrics.slices.sliceCount ≤ present then
          occurrences tag
            (between (first * metrics.slices.duration) (present * metrics.slices.duration) events)
        else 0 := by
  rw [Metrics.totalCounts, collected.totals.latestOrBlank some_slices]
  by_cases full : first + metrics.slices.sliceCount ≤ present
  · have filled := collected.cut.full_iff.mpr full
    have additive := Tally.Additive.count tag
    have folded : tallySummary.summary emitted
        = tallySummary.summary (SliceStream.contents completionSlices metrics.slices.duration events
            first present) :=
      collected.cut.condensed.foldl_eq merge_blank _
    rw [if_pos filled, if_pos full, folded]
    refine (additive.foldl_merge _ _).trans ?_
    rw [additive.sum_contents collected.cut.positive events collected.cut.reached]
    exact (congrArg (· + _) additive.empty).trans (Nat.zero_add _)
  · have filled := mt collected.cut.full_iff.mp full
    rw [if_neg filled, if_neg full]
    exact Tally.count_empty tag

/-- What the counters show at some moment, if all completions were taken in until then: the tags of
the window's slices and of all slices that have ended, once a window's worth of them has.
-/
structure Shows (config : MetricsConfig) (created now : Nat) (events : List CompletionEvent)
    (metrics : Metrics) : Prop where
  rolling
    : ∀ tag,
        metrics.rollingCounts.count tag
          = if created / config.sliceDuration + config.sliceCount ≤ now / config.sliceDuration then
              occurrences tag
                (between ((now / config.sliceDuration - config.sliceCount) * config.sliceDuration)
                  (now / config.sliceDuration * config.sliceDuration) events)
            else 0
  totals
    : ∀ tag,
        metrics.totalCounts.count tag
          = if created / config.sliceDuration + config.sliceCount ≤ now / config.sliceDuration then
              occurrences tag
                (events.filter (·.completedAt < now / config.sliceDuration * config.sliceDuration))
            else 0
  late : metrics.lateCount = 0

/-- Nothing was taken in from before the first slice. -/
theorem Collected.between_eq (collected : Collected first present events emitted metrics)
    (until_ : Nat)
    : between (first * metrics.slices.duration) until_ events
      = events.filter (·.completedAt < until_) := by
  apply List.filter_congr
  intro event member
  have placed : first * metrics.slices.duration ≤ event.completedAt :=
    (Nat.le_div_iff_mul_le collected.cut.positive).mp (collected.cut.placed event member).1
  rw [decide_eq_true placed, Bool.true_and]

theorem Collected.shows {config : MetricsConfig} {created now : Nat}
    (collected
      : Collected (created / config.sliceDuration) (now / config.sliceDuration) events emitted
          metrics)
    (sliceCount : metrics.slices.sliceCount = config.sliceCount)
    (duration : metrics.slices.duration = config.sliceDuration)
    (some_slices : 0 < config.sliceCount) : metrics.Shows config created now events where
  rolling tag := by
    rw [collected.rollingCounts, sliceCount, duration]
  totals tag := by
    rw [collected.totalCounts (sliceCount ▸ some_slices), collected.between_eq, sliceCount,
      duration]
  late := collected.onTime

end Metrics

end Breakwater
