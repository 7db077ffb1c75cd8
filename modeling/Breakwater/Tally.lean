import Breakwater.Tag

/-!
A tally counts tags. Records of one execution add to it up to a ceiling of 32 bits;
time slices merge tallies without one.
-/

namespace Breakwater

/-- How often each tag occurred. -/
structure Tally where
  /-- One count per tag, at the tag's index. -/
  counts : Vector Nat 12
  deriving DecidableEq, Repr

namespace Tally

/-- Count of one tag. -/
def count (tally : Tally) (tag : Tag) : Nat :=
  tally.counts[tag.index]

/-- The tally with the given count for each tag. -/
def ofCounts (count : Tag → Nat) : Tally where
  counts := Vector.ofFn (fun index => count (Tag.all[index.val]?.getD .success))

/-- The tally of nothing. -/
def empty : Tally := ofCounts (fun _ => 0)

instance : Inhabited Tally := ⟨empty⟩

/-- Largest count that a record of one execution can hold. -/
def ceiling : Nat := 0xffffffff

/-- Add occurrences of one tag; the count stays at the ceiling once there. -/
def addMany (tally : Tally) (tag : Tag) (times : Nat) : Tally :=
  ofCounts fun other =>
    if other = tag then min (tally.count tag + times) ceiling else tally.count other

/-- Add one occurrence of a tag. -/
def add (tally : Tally) (tag : Tag) : Tally := tally.addMany tag 1

/-- The tally of a list of tags. -/
def ofTags (tags : List Tag) : Tally := tags.foldl add empty

/-- Counts of two tallies added tag by tag. -/
def merge (left right : Tally) : Tally :=
  ⟨Vector.zipWith (· + ·) left.counts right.counts⟩

/-- Whether a tag occurred at all. -/
def contains (tally : Tally) (tag : Tag) : Bool := tally.count tag != 0

/-- Tags that occurred, in their fixed order. -/
def present (tally : Tally) : List Tag := Tag.all.filter tally.contains

/-- Tags that occurred with their counts, in the fixed order. -/
def entries (tally : Tally) : List (Tag × Nat) :=
  tally.present.map (fun tag => (tag, tally.count tag))

/-- Sum of the counts of the tags listed. -/
def sumOver (tally : Tally) : List Tag → Nat
  | [] => 0
  | tag :: rest => tally.count tag + tally.sumOver rest

/-- Sum of the counts of the tags that satisfy a test. -/
def sumWhere (tally : Tally) (test : Tag → Bool) : Nat :=
  tally.sumOver (Tag.all.filter test)

/-- Sum of all counts. -/
def total (tally : Tally) : Nat := tally.sumOver Tag.all

/-! ### Counts of the operations -/

@[simp]
theorem count_ofCounts (count : Tag → Nat) (tag : Tag)
    : (ofCounts count).count tag = count tag := by
  cases tag <;> rfl

/-- Tallies that agree on every tag are equal. -/
@[ext]
theorem ext_count {left right : Tally} (h : ∀ tag, left.count tag = right.count tag)
    : left = right := by
  obtain ⟨a⟩ := left
  obtain ⟨b⟩ := right
  congr 1
  apply Vector.ext
  intro i hi
  have at_index : ∀ tag : Tag, tag.index.val = i → a[i] = b[i] := by
    intro tag same
    subst same
    exact h tag
  have : i = 0 ∨ i = 1 ∨ i = 2 ∨ i = 3 ∨ i = 4 ∨ i = 5 ∨ i = 6 ∨ i = 7 ∨ i = 8 ∨ i = 9
      ∨ i = 10 ∨ i = 11 := by omega
  rcases this with rfl | rfl | rfl | rfl | rfl | rfl | rfl | rfl | rfl | rfl | rfl | rfl
  · exact at_index .success rfl
  · exact at_index .failure rfl
  · exact at_index .timeout rfl
  · exact at_index .shortCircuited rfl
  · exact at_index .threadPoolRejected rfl
  · exact at_index .semaphoreRejected rfl
  · exact at_index .badRequest rfl
  · exact at_index .fallbackSuccess rfl
  · exact at_index .fallbackFailure rfl
  · exact at_index .fallbackRejection rfl
  · exact at_index .fallbackMissing rfl
  · exact at_index .cancelled rfl

@[simp]
theorem count_empty (tag : Tag) : empty.count tag = 0 := by simp [empty]

theorem count_addMany (tally : Tally) (tag other : Tag) (times : Nat)
    : (tally.addMany tag times).count other
      = if other = tag then min (tally.count tag + times) ceiling else tally.count other := by
  simp [addMany]

@[simp]
theorem count_merge (left right : Tally) (tag : Tag)
    : (left.merge right).count tag = left.count tag + right.count tag := by
  simp [merge, count]

theorem contains_iff {tally : Tally} {tag : Tag} : tally.contains tag ↔ tally.count tag ≠ 0 := by
  simp [contains]

end Tally

end Breakwater
