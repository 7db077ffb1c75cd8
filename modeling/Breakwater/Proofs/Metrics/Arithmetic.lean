import Breakwater.Proofs.Metrics.HealthAgreement
import Breakwater.Proofs.Stream.Arithmetic

/-! The arithmetic of tallies and of the health, done in words of 64 bits with every addition
checked. Counts only grow, so that an addition on the way fails exactly if the result does not fit:
what the sums come to, and whether they can be formed at all, does not depend on the way.
-/

namespace Breakwater

-----------------------------------------------------------------------------------------
-- Folds in checked steps
-----------------------------------------------------------------------------------------

namespace Checked

variable {α β : Type}

/-- A result that is given only if it fits. -/
def within (fits : Prop) [Decidable fits] (result : α) : Except ArithmeticFault α :=
  if fits then .ok result else .error .beyondWord

section Within

variable {fits : Prop} [Decidable fits] {result : α}

theorem within_of (holds : fits) : within fits result = .ok result := if_pos holds

theorem within_of_not (fails : ¬fits) : within fits result = .error .beyondWord := if_neg fails

theorem within_congr {other : Prop} [Decidable other] (same : fits ↔ other)
    : within fits result = within other result :=
  if_congr same rfl rfl

/-- What comes after a result is reached if the result fits. -/
theorem within_bind (more : α → Prop) [DecidablePred more] (next : α → β)
    : (within fits result >>= fun given => within (more given) (next given))
      = within (fits ∧ more result) (next result) := by
  by_cases holds : fits
  · rw [within_of holds, within_congr (and_iff_right holds)]
    rfl
  · rw [within_of_not holds, within_of_not fun both => holds both.1]
    rfl

theorem within_pure (wrap : α → β)
    : (within fits result >>= fun given => pure (wrap given)) = within fits (wrap result) := by
  unfold within
  split <;> rfl

end Within

theorem add_eq (left right : Nat)
    : add left right = within (left + right < Clock.period) (left + right) :=
  rfl

/-- Results that are all given only if each of them fits. -/
theorem mapM_within (fits : α → Prop) [DecidablePred fits] (result : α → β) (items : List α)
    : items.mapM (fun item => within (fits item) (result item))
      = within (∀ item ∈ items, fits item) (items.map result) := by
  induction items with
  | nil => exact (within_of nofun).symm
  | cons first rest ih =>
      rw [List.mapM_cons, ih]
      by_cases here : fits first
      · rw [within_of here, within_congr (List.forall_mem_cons.trans (and_iff_right here))]
        by_cases there : ∀ item ∈ rest, fits item
        · rw [within_of there, within_of there]
          rfl
        · rw [within_of_not there, within_of_not there]
          rfl
      · rw [within_of_not here,
          within_of_not fun all : ∀ item ∈ first :: rest, fits item =>
            here (all first List.mem_cons_self)]
        rfl

/-- Checked steps that fail exactly where the plain ones come to something that does not fit. What
does not fit is never made to fit again.
-/
structure Exact (fits : α → Prop) [DecidablePred fits] (plain : α → β → α)
    (checked : α → β → Except ArithmeticFault α) : Prop where
  step
    : ∀ state item,
        fits state → checked state item = within (fits (plain state item)) (plain state item)
  back : ∀ state item, fits (plain state item) → fits state

namespace Exact

variable {fits : α → Prop} [DecidablePred fits] {plain : α → β → α}
  {checked : α → β → Except ArithmeticFault α}

theorem back_foldl (exact : Exact fits plain checked) {start : α} {items : List β}
    (final : fits (items.foldl plain start)) : fits start := by
  induction items generalizing start with
  | nil => exact final
  | cons first rest ih => exact exact.back start first (ih final)

/-- Only the result counts, whatever the order of the steps, by induction on them. -/
theorem foldlM_eq (exact : Exact fits plain checked) {start : α} (begun : fits start)
    (items : List β)
    : items.foldlM checked start
      = within (fits (items.foldl plain start)) (items.foldl plain start) := by
  induction items generalizing start with
  | nil => exact (within_of begun).symm
  | cons first rest ih =>
      rw [List.foldlM_cons, exact.step start first begun, List.foldl_cons]
      by_cases goesOn : fits (plain start first)
      · rw [within_of goesOn]
        exact ih goesOn
      · rw [within_of_not goesOn, within_of_not fun final => goesOn (exact.back_foldl final)]
        rfl

end Exact

/-- Numbers are added up to what they come to. -/
theorem exact_add : Exact (· < Clock.period) (· + ·) add where
  step _ _ _ := rfl
  back _ _ := Nat.lt_of_le_of_lt (Nat.le_add_right _ _)

end Checked

-----------------------------------------------------------------------------------------
-- Tallies
-----------------------------------------------------------------------------------------

namespace Tally

/-- Every count is a word. -/
def Fits (tally : Tally) : Prop := ∀ tag ∈ Tag.all, tally.count tag < Clock.period

instance : DecidablePred Fits := fun tally =>
  inferInstanceAs (Decidable (∀ tag ∈ Tag.all, tally.count tag < Clock.period))

theorem fits_iff {tally : Tally} : tally.Fits ↔ ∀ tag, tally.count tag < Clock.period :=
  ⟨fun fits tag => fits tag (Tag.mem_all tag), fun fits tag _ => fits tag⟩

theorem fits_empty : empty.Fits := by decide

/-- Smaller counts fit where greater ones do. -/
theorem Fits.of_le {smaller greater : Tally} (fits : greater.Fits)
    (below : ∀ tag, smaller.count tag ≤ greater.count tag) : smaller.Fits :=
  fun tag member => Nat.lt_of_le_of_lt (below tag) (fits tag member)

/-- The tally with more occurrences of one tag, without a ceiling. -/
def raise (tally : Tally) (tag : Tag) (times : Nat) : Tally :=
  ofCounts fun other => if other = tag then tally.count tag + times else tally.count other

/-- `raise` in checked steps. -/
def raiseChecked (tally : Tally) (tag : Tag) (times : Nat) : Except ArithmeticFault Tally := do
  let raised ← Checked.add (tally.count tag) times
  return ofCounts fun other => if other = tag then raised else tally.count other

/-- `merge` in checked steps, one tag after the other. -/
def mergeChecked (left right : Tally) : Except ArithmeticFault Tally :=
  Tag.all.foldlM (fun merged tag => merged.raiseChecked tag (right.count tag)) left

/-- `total` in checked steps. -/
def totalChecked (tally : Tally) : Except ArithmeticFault Nat :=
  (Tag.all.map tally.count).foldlM Checked.add 0

@[simp]
theorem count_raise (tally : Tally) (tag other : Tag) (times : Nat)
    : (tally.raise tag times).count other
      = tally.count other + if other = tag then times else 0 := by
  rw [raise, count_ofCounts]
  split
  · rename_i same
    rw [same]
  · rfl

theorem fits_raise_iff {tally : Tally} (fits : tally.Fits) (tag : Tag) (times : Nat)
    : (tally.raise tag times).Fits ↔ tally.count tag + times < Clock.period := by
  rw [fits_iff] at fits ⊢
  constructor
  · intro raised
    have here := raised tag
    rwa [count_raise, if_pos rfl] at here
  · intro room other
    rw [count_raise]
    split
    · rename_i same
      rwa [same]
    · exact fits other

/-- The counts of another tally are taken over tag by tag. -/
theorem exact_raise (right : Tally)
    : Checked.Exact Fits (fun merged tag => merged.raise tag (right.count tag))
        (fun merged tag => merged.raiseChecked tag (right.count tag)) where
  step merged tag fits := by
    rw [Checked.within_congr (fits_raise_iff fits tag _), raiseChecked, Checked.add]
    unfold Checked.within
    split <;> rfl
  back merged tag raised := by
    refine raised.of_le fun other => ?_
    rw [count_raise]
    exact Nat.le_add_right _ _

theorem count_foldl_raise (right : Tally) (listed : List Tag) (left : Tally) (tag : Tag)
    : (listed.foldl (fun merged tag => merged.raise tag (right.count tag)) left).count tag
      = left.count tag + listed.count tag * right.count tag := by
  induction listed generalizing left with
  | nil => rw [List.foldl_nil, List.count_nil, Nat.zero_mul, Nat.add_zero]
  | cons first rest ih =>
      rw [List.foldl_cons, ih, count_raise]
      by_cases same : tag = first
      · rw [if_pos same, same, List.count_cons_self, Nat.succ_mul]
        omega
      · rw [if_neg same, List.count_cons_of_ne (Ne.symm same), Nat.add_zero]

/-- Every tag is listed once, so that one pass takes over all counts. -/
theorem foldl_raise (left right : Tally)
    : Tag.all.foldl (fun merged tag => merged.raise tag (right.count tag)) left
      = left.merge right := by
  ext tag
  have once : Tag.all.count tag = 1 := nodup_all.count.trans (if_pos (Tag.mem_all tag))
  rw [count_foldl_raise, once, Nat.one_mul, count_merge]

/-- Tallies are merged to what they come to. -/
theorem exact_merge : Checked.Exact Fits merge mergeChecked where
  step left right fits := by
    rw [mergeChecked, (exact_raise right).foldlM_eq fits, foldl_raise]
  back left right merged := by
    refine merged.of_le fun tag => ?_
    rw [count_merge]
    exact Nat.le_add_right _ _

theorem sumOver_eq_sum (tally : Tally) (tags : List Tag)
    : tally.sumOver tags = (tags.map tally.count).sum := by
  induction tags with
  | nil => rfl
  | cons first rest ih => rw [sumOver, ih, List.map_cons, List.sum_cons]

theorem totalChecked_eq (tally : Tally)
    : tally.totalChecked = Checked.within (tally.total < Clock.period) tally.total := by
  rw [totalChecked, Checked.exact_add.foldlM_eq (by decide), ← List.sum_eq_foldl,
    ← sumOver_eq_sum, total]

end Tally

-----------------------------------------------------------------------------------------
-- The health
-----------------------------------------------------------------------------------------

namespace Health

/-- Both figures are words. -/
def Fits (health : Health) : Prop :=
  health.total < Clock.period ∧ health.errors < Clock.period

instance : DecidablePred Fits := fun health =>
  inferInstanceAs (Decidable (health.total < Clock.period ∧ health.errors < Clock.period))

/-- Requests and errors after one more tag of a slice. -/
def countTag (slice : Tally) (sums : Nat × Nat) (tag : Tag) : Nat × Nat :=
  (sums.1 + slice.count tag,
    if tag.isHealthError then sums.2 + slice.count tag else sums.2)

/-- `countTag` in checked steps. -/
def countTagChecked (slice : Tally) (sums : Nat × Nat) (tag : Tag)
    : Except ArithmeticFault (Nat × Nat) := do
  let errors ← if tag.isHealthError then Checked.add sums.2 (slice.count tag) else .ok sums.2
  let requests ← Checked.add sums.1 (slice.count tag)
  return (requests, errors)

/-- `plus` in checked steps: one pass over the tags that count as requests, then the sums with what
was counted before.
-/
def plusChecked (health : Health) (slice : Tally) : Except ArithmeticFault Health := do
  let sums ← (Tag.all.filter Tag.countsTowardHealth).foldlM (countTagChecked slice) (0, 0)
  let total ← Checked.add health.total sums.1
  let errors ← Checked.add health.errors sums.2
  return ofTotals total errors

/-- The one pass counts both the requests and the errors. -/
theorem foldl_countTag (slice : Tally)
    : (Tag.all.filter Tag.countsTowardHealth).foldl (countTag slice) (0, 0)
      = (requestsIn slice, errorsIn slice) := by
  have listed : Tag.all.filter Tag.countsTowardHealth
      = [.success, .failure, .timeout, .threadPoolRejected, .semaphoreRejected] := rfl
  rw [listed, requestsIn_eq, errorsIn_eq]
  simp [countTag, Tag.isHealthError]

theorem exact_countTag (slice : Tally)
    : Checked.Exact (fun sums : Nat × Nat => sums.1 < Clock.period ∧ sums.2 < Clock.period)
        (countTag slice) (countTagChecked slice) where
  step sums tag fits := by
    simp only [countTagChecked, countTag, Checked.add_eq]
    by_cases isError : tag.isHealthError
    · simp only [if_pos isError, Checked.within_pure, Checked.within_bind]
      exact Checked.within_congr and_comm
    · simp only [if_neg isError, Checked.within_pure]
      exact Checked.within_congr (and_iff_left fits.2).symm
  back sums tag counted := by
    obtain ⟨requests, errors⟩ := counted
    refine ⟨Nat.lt_of_le_of_lt (Nat.le_add_right _ _) requests, ?_⟩
    refine Nat.lt_of_le_of_lt ?_ errors
    simp only [countTag]
    split
    · exact Nat.le_add_right _ _
    · exact Nat.le_refl _

/-- There are no more errors than requests. -/
theorem errorsIn_le (tally : Tally) : errorsIn tally ≤ requestsIn tally := by
  rw [requestsIn_eq, errorsIn_eq]
  omega

/-- Slices are added to what they come to. -/
theorem exact_plus : Checked.Exact Fits plus plusChecked where
  step health slice fits := by
    have sums
        : (Tag.all.filter Tag.countsTowardHealth).foldlM (countTagChecked slice) (0, 0)
          = Checked.within (requestsIn slice < Clock.period ∧ errorsIn slice < Clock.period)
              (requestsIn slice, errorsIn slice) := by
      rw [(exact_countTag slice).foldlM_eq (by decide), foldl_countTag]
    simp only [plusChecked, sums, Checked.add_eq, Checked.within_pure, Checked.within_bind]
    refine Checked.within_congr ?_
    simp only [Fits, total_plus, errors_plus]
    omega
  back health slice added :=
    ⟨Nat.lt_of_le_of_lt (Nat.le_add_right _ _) added.1,
      Nat.lt_of_le_of_lt (Nat.le_add_right _ _) added.2⟩

end Health

end Breakwater
