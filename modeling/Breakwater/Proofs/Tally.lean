import Breakwater.Health

/-! Counts of the tallies that records carry, and sums over the tags that satisfy a test. -/

namespace Breakwater.Tally

/-- A tally counts each tag of its list, up to the ceiling. -/
theorem count_foldl_add (tags : List Tag) (tally : Tally) (tag : Tag)
    (below : tally.count tag ≤ ceiling)
    : (tags.foldl add tally).count tag = min (tally.count tag + tags.count tag) ceiling := by
  induction tags generalizing tally with
  | nil => exact (Nat.min_eq_left below).symm
  | cons first rest ih =>
      have counted : (tally.add first).count tag
          = if tag = first then min (tally.count first + 1) ceiling else tally.count tag :=
        count_addMany tally first tag 1
      by_cases same : tag = first
      · subst same
        rw [if_pos rfl] at counted
        rw [List.foldl_cons, ih _ (by omega), counted, List.count_cons_self]
        omega
      · rw [if_neg same] at counted
        rw [List.foldl_cons, ih _ (by omega), counted, List.count_cons_of_ne (Ne.symm same)]

theorem count_ofTags (tags : List Tag) (tag : Tag)
    : (ofTags tags).count tag = min (tags.count tag) ceiling := by
  have counted := count_foldl_add tags empty tag (by simp)
  rwa [count_empty, Nat.zero_add] at counted

/-- The tags that occurred are those of the list. -/
theorem mem_present_ofTags {tags : List Tag} {tag : Tag}
    : tag ∈ (ofTags tags).present ↔ tag ∈ tags := by
  have some_room : 0 < ceiling := by decide
  rw [present, List.mem_filter, and_iff_right (Tag.mem_all tag), contains_iff, count_ofTags,
    ← List.count_pos_iff]
  omega

/-- In a list without repetitions each tag counts once. -/
theorem count_ofTags_of_nodup {tags : List Tag} (distinct : tags.Nodup) (tag : Tag)
    : (ofTags tags).count tag = if tag ∈ tags then 1 else 0 := by
  rw [count_ofTags, distinct.count]
  split <;> rfl

/-- One more occurrence of a tag adds one to every sum over it. -/
theorem sumOver_add {tally : Tally} {tag : Tag} (below : tally.count tag < ceiling)
    {listed : List Tag} (distinct : listed.Nodup)
    : (tally.add tag).sumOver listed = tally.sumOver listed + if tag ∈ listed then 1 else 0 := by
  induction listed with
  | nil => rfl
  | cons first rest ih =>
      obtain ⟨fresh, distinct⟩ := List.nodup_cons.mp distinct
      have counted : (tally.add tag).count first
          = if first = tag then min (tally.count tag + 1) ceiling else tally.count first :=
        count_addMany tally tag first 1
      simp only [sumOver, ih distinct, counted, List.mem_cons]
      by_cases same : first = tag
      · subst same
        rw [if_pos rfl, if_neg fresh, if_pos (.inl rfl)]
        omega
      · have other : (tag = first ∨ tag ∈ rest) ↔ tag ∈ rest := or_iff_right (Ne.symm same)
        simp only [if_neg same, other]
        omega

theorem nodup_all : Tag.all.Nodup := by decide

theorem sumWhere_add (test : Tag → Bool) {tally : Tally} {tag : Tag}
    (below : tally.count tag < ceiling)
    : (tally.add tag).sumWhere test = tally.sumWhere test + if test tag then 1 else 0 := by
  unfold sumWhere
  rw [sumOver_add below (nodup_all.filter test)]
  simp [Tag.mem_all]

theorem sumWhere_foldl_add (test : Tag → Bool) (tags : List Tag) (tally : Tally)
    (room : ∀ tag, tally.count tag + tags.length < ceiling)
    : (tags.foldl add tally).sumWhere test = tally.sumWhere test + tags.countP test := by
  induction tags generalizing tally with
  | nil => rfl
  | cons first rest ih =>
      have roomLeft (tag : Tag) : (tally.add first).count tag + rest.length < ceiling := by
        have room := room tag
        rw [List.length_cons] at room
        have counted : (tally.add first).count tag
            = if tag = first then min (tally.count first + 1) ceiling else tally.count tag :=
          count_addMany tally first tag 1
        have capped := Nat.min_le_left (tally.count first + 1) ceiling
        rw [counted]
        split
        · rename_i same
          subst same
          omega
        · omega
      have below := room first
      rw [List.length_cons] at below
      rw [List.foldl_cons, ih _ roomLeft, sumWhere_add test (by omega), List.countP_cons]
      omega

theorem sumOver_empty (tags : List Tag) : empty.sumOver tags = 0 := by
  induction tags with
  | nil => rfl
  | cons first rest ih => rw [sumOver, ih, count_empty]

/-- The sum over the tags that satisfy a test is the number of such tags in the list. -/
theorem sumWhere_ofTags (test : Tag → Bool) {tags : List Tag} (short : tags.length < ceiling)
    : (ofTags tags).sumWhere test = tags.countP test := by
  have room (tag : Tag) : empty.count tag + tags.length < ceiling := by
    rwa [count_empty, Nat.zero_add]
  rw [ofTags, sumWhere_foldl_add test tags empty room, sumWhere, sumOver_empty, Nat.zero_add]

theorem contains_empty (tag : Tag) : empty.contains tag = false := by
  simp [contains]

theorem contains_add (tally : Tally) (tag other : Tag)
    : (tally.add tag).contains other ↔ tally.contains other ∨ other = tag := by
  have some_room : 0 < ceiling := by decide
  rw [contains_iff, contains_iff, add, count_addMany]
  by_cases same : other = tag
  · subst same
    simp only [if_true, or_true, iff_true]
    omega
  · simp [same]

theorem contains_add_of_ne (tally : Tally) {tag other : Tag} (different : other ≠ tag)
    : (tally.add tag).contains other = tally.contains other := by
  rw [Bool.eq_iff_iff, contains_add, or_iff_left different]

theorem sumOver_congr {left right : Tally} {tags : List Tag}
    (same : ∀ tag ∈ tags, left.count tag = right.count tag)
    : left.sumOver tags = right.sumOver tags := by
  induction tags with
  | nil => rfl
  | cons first rest ih =>
      rw [sumOver, sumOver, same first List.mem_cons_self,
        ih fun tag member => same tag (List.mem_cons_of_mem first member)]

/-- A tag that fails a test adds nothing to the sum over those that satisfy it. -/
theorem sumWhere_add_of_not (test : Tag → Bool) (tally : Tally) {tag : Tag}
    (fails : test tag = false) : (tally.add tag).sumWhere test = tally.sumWhere test := by
  refine sumOver_congr fun other member => ?_
  have different : other ≠ tag := by
    rintro rfl
    rw [(List.mem_filter.mp member).2] at fails
    cases fails
  rw [add, count_addMany, if_neg different]

end Breakwater.Tally
