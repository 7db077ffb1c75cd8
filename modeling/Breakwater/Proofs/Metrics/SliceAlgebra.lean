import Breakwater.Proofs.Metrics.Arithmetic

/-! Slices are sums. What a window, a total or the health comes to depends on the records that were
collected, and on nothing else: not on their order, on how they were cut into slices, or on how the
slices were put together. All of it holds in words of 64 bits as long as the result fits one.
-/

namespace Breakwater

-----------------------------------------------------------------------------------------
-- Collecting and merging
-----------------------------------------------------------------------------------------

namespace Tally

/-- The slice with the records of some completions added. -/
def collect (slice : Tally) (events : List CompletionEvent) : Tally :=
  events.foldl completionSlices.add slice

/-- `collect` in checked steps. -/
def collectChecked (slice : Tally) (events : List CompletionEvent)
    : Except ArithmeticFault Tally :=
  events.foldlM (fun collected event => collected.mergeChecked event.record.tags) slice

/-- Slices merged in checked steps. -/
def summaryChecked (slices : List Tally) : Except ArithmeticFault Tally :=
  slices.foldlM mergeChecked empty

/-- How often the tags that satisfy a test occur in some slices, tag by tag. -/
def sumAcross (test : Tag → Bool) (slices : List Tally) : Nat :=
  ((Tag.all.filter test).map fun tag => (slices.map (·.count tag)).sum).sum

/-- Of each tag, a slice holds what it held and what the events carry. -/
@[simp]
theorem count_collect (slice : Tally) (events : List CompletionEvent) (tag : Tag)
    : (slice.collect events).count tag = slice.count tag + occurrences tag events :=
  (Additive.count tag).foldl_add events slice

/-- Of each tag, a new slice holds what the events carry. -/
theorem count_collect_empty (events : List CompletionEvent) (tag : Tag)
    : (empty.collect events).count tag = occurrences tag events := by
  rw [count_collect, count_empty, Nat.zero_add]

/-- Merging does not depend on which tally is merged into which. -/
theorem merge_comm (left right : Tally) : left.merge right = right.merge left := by
  ext tag
  rw [count_merge, count_merge, Nat.add_comm]

/-- Merging three tallies does not depend on which two are merged first. -/
theorem merge_assoc (first second third : Tally)
    : (first.merge second).merge third = first.merge (second.merge third) := by
  ext tag
  simp only [count_merge, Nat.add_assoc]

/-- Merging an empty tally changes nothing. -/
theorem empty_merge (tally : Tally) : empty.merge tally = tally := by
  rw [merge_comm, merge_blank]

theorem total_merge (left right : Tally)
    : (left.merge right).total = left.total + right.total :=
  sumOver_merge left right Tag.all

/-- Adding up tag by tag comes to the same as merging first. -/
theorem sumAcross_eq (test : Tag → Bool) (slices : List Tally)
    : sumAcross test slices = (tallySummary.summary slices).sumWhere test := by
  have counted (tag : Tag)
      : (slices.map (·.count tag)).sum = (tallySummary.summary slices).count tag :=
    ((Additive.count tag).summary_eq_sum slices).symm
  rw [sumAcross, sumWhere, sumOver_eq_sum]
  simp only [counted]

/-- A summary in checked steps is the summary if that fits, and an error otherwise. -/
theorem summaryChecked_eq (slices : List Tally)
    : summaryChecked slices
      = Checked.within (tallySummary.summary slices).Fits (tallySummary.summary slices) :=
  exact_merge.foldlM_eq fits_empty slices

/-- A slice that is filled in checked steps is the slice if that fits, and an error otherwise. -/
theorem collectChecked_eq {slice : Tally} (fits : slice.Fits) (events : List CompletionEvent)
    : slice.collectChecked events
      = Checked.within (slice.collect events).Fits (slice.collect events) := by
  have records
      : slice.collectChecked events
        = (events.map (·.record.tags)).foldlM mergeChecked slice := by
    rw [List.foldlM_map]
    rfl
  rw [records, exact_merge.foldlM_eq fits, List.foldl_map]
  rfl

/-- The laws of merging. -/
structure MergeLaws : Prop where
  comm : ∀ left right : Tally, left.merge right = right.merge left
  assoc
    : ∀ first second third : Tally,
        (first.merge second).merge third = first.merge (second.merge third)
  empty_merge : ∀ tally : Tally, empty.merge tally = tally
  merge_empty : ∀ tally : Tally, tally.merge empty = tally
  total : ∀ left right : Tally, (left.merge right).total = left.total + right.total
  /-- A tally of words is merged exactly if all counts fit, -/
  checked
    : ∀ left right : Tally,
        left.Fits
          → left.mergeChecked right
            = Checked.within (left.merge right).Fits (left.merge right)
  /-- and added up exactly if the total does. -/
  totalChecked
    : ∀ tally : Tally,
        tally.totalChecked = Checked.within (tally.total < Clock.period) tally.total

/-- Merging is a commutative monoid. -/
theorem mergeLaws : MergeLaws where
  comm := merge_comm
  assoc := merge_assoc
  empty_merge := empty_merge
  merge_empty := merge_blank
  total := total_merge
  checked left right fits := exact_merge.step left right fits
  totalChecked := totalChecked_eq

end Tally

-----------------------------------------------------------------------------------------
-- Splitting and ordering
-----------------------------------------------------------------------------------------

/-- How often a tag occurs does not depend on the order of the events. -/
theorem occurrences_perm {events others : List CompletionEvent} (same : others.Perm events)
    (tag : Tag) : occurrences tag others = occurrences tag events :=
  (same.map _).sum_nat

/-- How often a tag occurs adds up over the parts of the events. -/
theorem occurrences_flatten (tag : Tag) (parts : List (List CompletionEvent))
    : occurrences tag parts.flatten = (parts.map (occurrences tag)).sum := by
  rw [occurrences, List.map_flatten, List.sum_flatten, List.map_map]
  rfl

/-- A tag occurs no more often in a part than in the whole. -/
theorem occurrences_le {parts : List (List CompletionEvent)} {part : List CompletionEvent}
    (member : part ∈ parts) (tag : Tag) : occurrences tag part ≤ occurrences tag parts.flatten :=
  ((List.sublist_flatten_of_mem member).map _).sum_le_sum fun _ _ => Nat.zero_le _

/-- The slices of the parts make up the slice of the whole. -/
theorem summary_collect {parts : List (List CompletionEvent)} {events : List CompletionEvent}
    (split : parts.flatten.Perm events)
    : tallySummary.summary (parts.map Tally.empty.collect) = Tally.empty.collect events := by
  ext tag
  have each : (fun part => (Tally.empty.collect part).count tag) = occurrences tag :=
    funext fun part => Tally.count_collect_empty part tag
  calc (tallySummary.summary (parts.map Tally.empty.collect)).count tag
      = ((parts.map Tally.empty.collect).map (·.count tag)).sum :=
        (Tally.Additive.count tag).summary_eq_sum _
    _ = (parts.map (occurrences tag)).sum := by
        rw [List.map_map, ← each]
        rfl
    _ = occurrences tag parts.flatten := (occurrences_flatten tag parts).symm
    _ = occurrences tag events := occurrences_perm split tag
    _ = (Tally.empty.collect events).count tag := (Tally.count_collect_empty events tag).symm

/-- A part fits where the whole does. -/
theorem fits_collect_part {parts : List (List CompletionEvent)} {events : List CompletionEvent}
    (split : parts.flatten.Perm events) (fits : (Tally.empty.collect events).Fits)
    {part : List CompletionEvent} (member : part ∈ parts) : (Tally.empty.collect part).Fits := by
  refine fits.of_le fun tag => ?_
  rw [Tally.count_collect_empty, Tally.count_collect_empty, ← occurrences_perm split]
  exact occurrences_le member tag

/-- In checked steps the slices of the parts can be formed and merged exactly if that of the whole
can be formed.
-/
theorem summaryChecked_collectChecked {parts : List (List CompletionEvent)}
    {events : List CompletionEvent} (split : parts.flatten.Perm events)
    : (parts.mapM Tally.empty.collectChecked >>= Tally.summaryChecked)
      = Tally.empty.collectChecked events := by
  have each : Tally.empty.collectChecked
      = fun part =>
          Checked.within (Tally.empty.collect part).Fits (Tally.empty.collect part) :=
    funext (Tally.collectChecked_eq Tally.fits_empty)
  have merging : Tally.summaryChecked
      = fun slices =>
          Checked.within (tallySummary.summary slices).Fits (tallySummary.summary slices) :=
    funext Tally.summaryChecked_eq
  rw [each, merging, Checked.mapM_within, Checked.within_bind, summary_collect split]
  exact Checked.within_congr
    (and_iff_right_of_imp fun fits _ member => fits_collect_part split fits member)

/-- Records that count in words of 32 bits, and no more of them than such a word can number, come to
counts that fit a word of 64 bits.
-/
theorem fits_collect_of_few {events : List CompletionEvent}
    (capped : ∀ event ∈ events, ∀ tag, event.record.tags.count tag ≤ Tally.ceiling)
    (few : events.length ≤ Tally.ceiling) : (Tally.empty.collect events).Fits := by
  rw [Tally.fits_iff]
  intro tag
  have bounded : occurrences tag events ≤ events.length * Tally.ceiling := by
    have summed := List.sum_le_card_nsmul (events.map fun event => event.record.tags.count tag)
      Tally.ceiling (List.forall_mem_map.mpr fun event member => capped event member tag)
    rwa [List.length_map] at summed
  have short : events.length * Tally.ceiling ≤ Tally.ceiling * Tally.ceiling :=
    Nat.mul_le_mul_right _ few
  rw [Tally.count_collect_empty]
  exact Nat.lt_of_le_of_lt (Nat.le_trans bounded short) (by decide)

/-- What completions come to, however they are ordered and split. In checked steps they come to the
same, or to nothing exactly if some count does not fit, and the way does not matter for that either.
-/
structure AddUp (events : List CompletionEvent) : Prop where
  count
    : ∀ (slice : Tally) (tag : Tag),
        (slice.collect events).count tag = slice.count tag + occurrences tag events
  /-- The order of the records does not matter, -/
  reordered
    : ∀ (slice : Tally) (others : List CompletionEvent),
        others.Perm events → slice.collect others = slice.collect events
  /-- nor how they are divided among slices and in what order these are merged, -/
  merged
    : ∀ parts : List (List CompletionEvent),
        parts.flatten.Perm events
          → tallySummary.summary (parts.map Tally.empty.collect) = Tally.empty.collect events
  /-- which holds of the health as well. -/
  health
    : ∀ parts : List (List CompletionEvent),
        parts.flatten.Perm events
          → healthSummary.summary (parts.map Tally.empty.collect)
            = Health.empty.plus (Tally.empty.collect events)
  checked
    : ∀ slice : Tally,
        slice.Fits
          → slice.collectChecked events
            = Checked.within (slice.collect events).Fits (slice.collect events)
  mergedChecked
    : ∀ parts : List (List CompletionEvent),
        parts.flatten.Perm events
          → (parts.mapM Tally.empty.collectChecked >>= Tally.summaryChecked)
            = Tally.empty.collectChecked events
  roomy
    : (∀ event ∈ events, ∀ tag, event.record.tags.count tag ≤ Tally.ceiling)
        → events.length ≤ Tally.ceiling
        → (Tally.empty.collect events).Fits

/-- A slice of events adds up, in whatever order and parts they are collected. -/
theorem addUp (events : List CompletionEvent) : AddUp events where
  count slice tag := slice.count_collect events tag
  reordered slice others same := by
    ext tag
    rw [Tally.count_collect, Tally.count_collect, occurrences_perm same]
  merged _ split := summary_collect split
  health parts split := by
    rw [Health.summary_eq_plus, summary_collect split]
  checked _ fits := Tally.collectChecked_eq fits events
  mergedChecked _ split := summaryChecked_collectChecked split
  roomy := fits_collect_of_few

-----------------------------------------------------------------------------------------
-- The health of some slices
-----------------------------------------------------------------------------------------

namespace Health

/-- What the health of some slices comes to. -/
structure SumsUp (slices : List Tally) : Prop where
  /-- Adding the slices one by one, each time with a new percentage, comes to the sums of the tags
  that count.
  -/
  totals
    : healthSummary.summary slices
      = ofTotals (Tally.sumAcross Tag.countsTowardHealth slices)
          (Tally.sumAcross Tag.isHealthError slices)
  merged : healthSummary.summary slices = Health.empty.plus (tallySummary.summary slices)
  errors_le
    : Tally.sumAcross Tag.isHealthError slices ≤ Tally.sumAcross Tag.countsTowardHealth slices
  /-- In checked steps the requests decide whether the health can be formed, -/
  checked
    : slices.foldlM plusChecked empty
      = Checked.within (Tally.sumAcross Tag.countsTowardHealth slices < Clock.period)
          (healthSummary.summary slices)
  /-- and it is that of the merged slices if these can be. -/
  mergedChecked
    : (tallySummary.summary slices).Fits
        → (Tally.summaryChecked slices >>= empty.plusChecked) = slices.foldlM plusChecked empty

/-- The health of slices is that of the sums of their requests and errors. -/
theorem summary_eq_ofTotals (slices : List Tally)
    : healthSummary.summary slices
      = ofTotals (Tally.sumAcross Tag.countsTowardHealth slices)
          (Tally.sumAcross Tag.isHealthError slices) := by
  rw [summary_eq_plus, Tally.sumAcross_eq, Tally.sumAcross_eq, plus, empty, Nat.zero_add,
    Nat.zero_add]
  rfl

/-- The health of slices sums up what they hold. -/
theorem sumsUp (slices : List Tally) : SumsUp slices := by
  have fewer
      : Tally.sumAcross Tag.isHealthError slices
        ≤ Tally.sumAcross Tag.countsTowardHealth slices := by
    rw [Tally.sumAcross_eq, Tally.sumAcross_eq]
    exact errorsIn_le _
  have folded
      : slices.foldlM plusChecked empty
        = Checked.within (healthSummary.summary slices).Fits (healthSummary.summary slices) :=
    exact_plus.foldlM_eq (by decide) slices
  refine ⟨summary_eq_ofTotals slices, summary_eq_plus slices, fewer, ?_, fun fits => ?_⟩
  · -- There are no more errors than requests, so that both fit if the requests do.
    rw [folded]
    refine Checked.within_congr ?_
    rw [summary_eq_ofTotals]
    exact and_iff_left_of_imp (Nat.lt_of_le_of_lt fewer)
  · rw [folded, Tally.summaryChecked_eq, Checked.within_of fits, summary_eq_plus]
    exact exact_plus.step empty _ (by decide)

end Health

/-- Records are collected tag by tag whatever their order, the slices of parts make up the slice of
the whole however it was split, merging is commutative and associative and leaves nothing out of the
total, and the health of any slices is that of their sums. In words of 64 bits each of these is
formed exactly if its result fits.
-/
theorem slices_add_up
    : Tally.MergeLaws
      ∧ (∀ events : List CompletionEvent, AddUp events)
      ∧ ∀ slices : List Tally, Health.SumsUp slices :=
  ⟨Tally.mergeLaws, addUp, Health.sumsUp⟩

/-- Two failures and a success, cut into three slices of which one is empty, the latest first. -/
theorem slices_add_up_divided
    : let failed : CompletionEvent := ⟨"sample", 10, .ofTags [.failure, .fallbackSuccess]⟩
      let late : CompletionEvent := ⟨"sample", 25, .ofTags [.timeout, .fallbackMissing]⟩
      let served : CompletionEvent := ⟨"sample", 140, .ofTags [.success]⟩
      let parts := [[served], [], [late, failed]]
      let slices := parts.map Tally.empty.collect
      tallySummary.summary slices = Tally.empty.collect [failed, late, served]
        ∧ (tallySummary.summary slices).total = 5
        ∧ healthSummary.summary slices = .ofTotals 3 2
        ∧ (parts.mapM Tally.empty.collectChecked >>= Tally.summaryChecked)
          = .ok (Tally.empty.collect [failed, late, served]) := by
  intro failed late served parts slices
  have split : parts.flatten.Perm [failed, late, served] := by decide
  obtain ⟨_, add, sums⟩ := slices_add_up
  have together := (add [failed, late, served]).merged parts split
  refine ⟨together, by decide +kernel, ?_, ?_⟩
  · have requests : Tally.sumAcross Tag.countsTowardHealth slices = 3 := by decide +kernel
    have errors : Tally.sumAcross Tag.isHealthError slices = 2 := by decide +kernel
    rw [(sums slices).totals, requests, errors]
  · rw [(add _).mergedChecked parts split, (add _).checked .empty Tally.fits_empty]
    exact Checked.within_of (by decide +kernel)

end Breakwater
