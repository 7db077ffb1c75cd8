import Breakwater.Stream.Running

/-! Windows over the slices of a stream: what a window holds is the end of what was pushed, and
long runs of blank slices may be cut short without that it shows.
-/

namespace Breakwater

variable {β γ : Type}

-----------------------------------------------------------------------------------------
-- The end of a list
-----------------------------------------------------------------------------------------

/-- The latest slices, as many as fit a window. -/
def recent (size : Nat) (slices : List β) : List β := slices.drop (slices.length - size)

/-- The most recent slices are as many as asked for, or all there are. -/
theorem length_recent (size : Nat) (slices : List β)
    : (recent size slices).length = min size slices.length := by
  rw [recent, List.length_drop]
  omega

/-- Slices that are not more than asked for are all recent. -/
theorem recent_of_length_le {size : Nat} {slices : List β} (short : slices.length ≤ size)
    : recent size slices = slices := by
  rw [recent, Nat.sub_eq_zero_of_le short, List.drop_zero]

/-- What comes before a full window does not show in it. -/
theorem recent_append_of_le {size : Nat} {slices : List β} (earlier : List β)
    (full : size ≤ slices.length) : recent size (earlier ++ slices) = recent size slices := by
  have split : (earlier ++ slices).length - size = earlier.length + (slices.length - size) := by
    rw [List.length_append]
    omega
  rw [recent, split, ← List.drop_drop, List.drop_left, recent]

/-- Slices that left the window may be forgotten before more of them come. -/
theorem recent_append (size : Nat) (slices more : List β)
    : recent size (slices ++ more) = recent size (recent size slices ++ more) := by
  by_cases short : slices.length ≤ size
  · rw [recent_of_length_le short]
  · have split : slices = slices.take (slices.length - size) ++ recent size slices :=
      (List.take_append_drop _ _).symm
    have full : size ≤ (recent size slices ++ more).length := by
      rw [List.length_append, length_recent]
      omega
    rw [← recent_append_of_le (slices.take (slices.length - size)) full, ← List.append_assoc,
      ← split]

/-- What a smaller window holds is in the larger one. -/
theorem recent_recent {size larger : Nat} (fits : size ≤ larger) (slices : List β)
    : recent size (recent larger slices) = recent size slices := by
  have length : (recent larger slices).length = min larger slices.length := length_recent _ _
  rw [recent, length, recent, List.drop_drop, recent]
  congr 1
  omega

-----------------------------------------------------------------------------------------
-- Pushing slices
-----------------------------------------------------------------------------------------

namespace RollingWindow

variable (rule : SummaryRule β γ)

/-- What a window reports is the summary of what it holds while it is full, and nothing before. -/
structure UpToDate (rolling : RollingWindow β γ) : Prop where
  positive : 0 < rolling.size
  last : rolling.last = if rolling.isFull then some (rule.summary rolling.window) else none

theorem push_eq (rolling : RollingWindow β γ) (slice : β)
    : ∃ last observers,
        rolling.push rule slice = { rolling.slide slice with last, observers } := by
  rw [push]
  dsimp only
  split
  · exact ⟨_, _, rfl⟩
  · exact ⟨_, _, rfl⟩

/-- A window that slides grows until it is full. -/
theorem length_slide (rolling : RollingWindow β γ) (slice : β)
    : (rolling.slide slice).window.length
      = if rolling.size < rolling.window.length + 1 then rolling.window.length
        else rolling.window.length + 1 := by
  rw [slide]
  dsimp only
  rw [List.length_append, List.length_singleton]
  split
  · rw [List.length_drop, List.length_append, List.length_singleton, Nat.add_sub_cancel]
  · rw [List.length_append, List.length_singleton]

/-- A window that is not full after a slice was not full before it. -/
theorem isFull_of_slide {rolling : RollingWindow β γ} {slice : β}
    (full : (rolling.slide slice).isFull = false) : rolling.isFull = false := by
  have short : ¬rolling.size ≤ (rolling.slide slice).window.length := of_decide_eq_false full
  rw [length_slide] at short
  refine decide_eq_false fun already => short ?_
  split
  · exact already
  · exact Nat.le_succ_of_le already

/-- A window that nothing was pushed into has not warmed up, and reports nothing. -/
theorem upToDate_empty {size : Nat} (positive : 0 < size)
    : (empty size : RollingWindow β γ).UpToDate rule :=
  ⟨positive, (if_neg (by simpa [isFull, empty] using Nat.ne_of_gt positive)).symm⟩

namespace UpToDate

variable {rule} {rolling : RollingWindow β γ} (upToDate : rolling.UpToDate rule)
include upToDate

theorem push (slice : β) : (rolling.push rule slice).UpToDate rule := by
  rw [RollingWindow.push]
  dsimp only
  split
  · rename_i full
    exact ⟨upToDate.positive, (if_pos full).symm⟩
  · rename_i short
    have before := isFull_of_slide (Bool.not_eq_true _ ▸ short)
    refine ⟨upToDate.positive, ?_⟩
    rw [if_neg short]
    exact upToDate.last.trans (if_neg (by simp [before]))

theorem pushAll (slices : List β)
    : (slices.foldl (RollingWindow.push rule) rolling).UpToDate rule := by
  induction slices generalizing rolling with
  | nil => exact upToDate
  | cons first rest ih => exact ih (upToDate.push first)

theorem reset : rolling.reset.UpToDate rule :=
  ⟨upToDate.positive,
    (if_neg (by simpa [isFull, RollingWindow.reset] using Nat.ne_of_gt upToDate.positive)).symm⟩

/-- The observers are told what is reported after a slice, if anything is. -/
theorem observers_push (slice : β)
    : (rolling.push rule slice).observers
      = (rolling.push rule slice).last.elim rolling.observers rolling.observers.publish := by
  rw [RollingWindow.push]
  dsimp only
  split
  · rfl
  · rename_i short
    have before := isFull_of_slide (Bool.not_eq_true _ ▸ short)
    have silent : (rolling.slide slice).last = none :=
      upToDate.last.trans (if_neg (by simp [before]))
    rw [silent]
    rfl

end UpToDate

/-- A window keeps its size. -/
@[simp]
theorem size_push (rolling : RollingWindow β γ) (slice : β)
    : (rolling.push rule slice).size = rolling.size := by
  obtain ⟨last, observers, same⟩ := push_eq rule rolling slice
  rw [same]
  rfl

/-- A window that is within its size holds the most recent slices after a push, by cases on whether
it is full.
-/
theorem window_push {rolling : RollingWindow β γ} (within : rolling.window.length ≤ rolling.size)
    (slice : β)
    : (rolling.push rule slice).window = recent rolling.size (rolling.window ++ [slice]) := by
  obtain ⟨last, observers, same⟩ := push_eq rule rolling slice
  rw [same]
  show (if rolling.size < (rolling.window ++ [slice]).length
    then (rolling.window ++ [slice]).drop 1 else rolling.window ++ [slice]) = _
  rw [List.length_append, List.length_singleton]
  split
  · have one : (rolling.window ++ [slice]).length - rolling.size = 1 := by
      rw [List.length_append, List.length_singleton]
      omega
    rw [recent, one]
  · rw [recent_of_length_le]
    rw [List.length_append, List.length_singleton]
    omega

/-- A window that is pushed slices holds the latest of them. -/
theorem window_pushAll {rolling : RollingWindow β γ}
    (within : rolling.window.length ≤ rolling.size) (slices : List β)
    : (slices.foldl (push rule) rolling).size = rolling.size
      ∧ (slices.foldl (push rule) rolling).window
        = recent rolling.size (rolling.window ++ slices) := by
  induction slices generalizing rolling with
  | nil => exact ⟨rfl, by rw [List.append_nil, recent_of_length_le within, List.foldl_nil]⟩
  | cons first rest ih =>
      have pushed := window_push rule within first
      have still : (rolling.push rule first).window.length ≤ (rolling.push rule first).size := by
        rw [pushed, length_recent, size_push]
        exact Nat.min_le_left _ _
      obtain ⟨size, window⟩ := ih still
      rw [size_push] at size window
      refine ⟨size, ?_⟩
      rw [List.foldl_cons, window, pushed, ← recent_append, List.append_assoc,
        List.singleton_append]

/-- A window that has room for so many slices and holds the latest of some. -/
structure Holds (size : Nat) (slices : List β) (rolling : RollingWindow β γ) : Prop where
  window : rolling.window = recent size slices
  size : rolling.size = size
  upToDate : rolling.UpToDate rule

/-- A new window holds no slices. -/
theorem holds_empty {size : Nat} (positive : 0 < size)
    : (empty size : RollingWindow β γ).Holds rule size [] :=
  ⟨(recent_of_length_le (Nat.zero_le _)).symm, rfl, upToDate_empty rule positive⟩

namespace Holds

variable {rule} {size : Nat} {slices : List β} {rolling : RollingWindow β γ}
  (holds : rolling.Holds rule size slices)
include holds

theorem pushAll (more : List β)
    : (more.foldl (push rule) rolling).Holds rule size (slices ++ more) := by
  obtain ⟨window, rfl, upToDate⟩ := holds
  have within : rolling.window.length ≤ rolling.size := by
    rw [window, length_recent]
    exact Nat.min_le_left _ _
  obtain ⟨size, pushed⟩ := window_pushAll rule within more
  exact ⟨by rw [pushed, window, ← recent_append], size, upToDate.pushAll more⟩

theorem reset : rolling.reset.Holds rule size [] :=
  ⟨(recent_of_length_le (Nat.zero_le _)).symm, holds.size, holds.upToDate.reset⟩

/-- Who listens to the reports makes no difference to them. -/
theorem withObservers (observers : Bus γ)
    : Holds rule size slices { rolling with observers } :=
  ⟨holds.window, holds.size, holds.upToDate.positive, holds.upToDate.last⟩

/-- A window holds as many slices as it has room for, or all there were. -/
theorem length : rolling.window.length = min size slices.length := by
  rw [holds.window, length_recent]

/-- The report that is stored is the summary of the window once as many slices were pushed as it has
room for.
-/
theorem last
    : rolling.last
      = if size ≤ slices.length then some (rule.summary (recent size slices)) else none := by
  have full : rolling.isFull = decide (size ≤ slices.length) := by
    rw [isFull, holds.length, holds.size]
    exact decide_eq_decide.mpr (by omega)
  rw [holds.upToDate.last, full, holds.window]
  simp only [decide_eq_true_eq]

/-- Whoever asks before a window has warmed up is told of a blank. -/
theorem latestOrBlank
    : rolling.latestOrBlank rule
      = if size ≤ slices.length then rule.summary (recent size slices) else rule.blank := by
  rw [RollingWindow.latestOrBlank, RollingWindow.latest, holds.last]
  split
  · rfl
  · rfl

end Holds

end RollingWindow

namespace RunningTotal

variable (rule : SummaryRule β γ)

/-- What is reported is the total, once enough slices were seen, and nothing before. -/
def UpToDate (running : RunningTotal γ) : Prop :=
  running.latest
  = if running.folded = 0 ∨ running.folded < running.size then none else some running.total

theorem push_eq (running : RunningTotal γ) (slice : β)
    : ∃ latest observers,
        running.push rule slice
        = {
          running with
          total := rule.add running.total slice
          folded := running.folded + 1
          latest
          observers
        } := by
  rw [push]
  dsimp only
  split
  · exact ⟨_, _, rfl⟩
  · exact ⟨_, _, rfl⟩

/-- A total to which nothing was added has not warmed up, and reports nothing. -/
theorem upToDate_empty (size : Nat) : (empty rule size).UpToDate := (if_pos (.inl rfl)).symm

namespace UpToDate

variable {running : RunningTotal γ} (upToDate : running.UpToDate)
include upToDate

/-- Nothing was reported if not even one more slice is enough. -/
theorem latest_of_lt (few : running.folded + 1 < running.size) : running.latest = none :=
  Eq.trans upToDate (if_pos (.inr (Nat.lt_of_succ_lt few)))

theorem push (slice : β) : (running.push rule slice).UpToDate := by
  rw [RunningTotal.push]
  dsimp only
  split
  · rename_i few
    exact (upToDate.latest_of_lt few).trans (if_pos (.inr few)).symm
  · rename_i enough
    exact (if_neg (not_or.mpr ⟨Nat.succ_ne_zero _, enough⟩)).symm

theorem pushAll (slices : List β)
    : (slices.foldl (RunningTotal.push rule) running).UpToDate := by
  induction slices generalizing running with
  | nil => exact upToDate
  | cons first rest ih => exact ih (upToDate.push rule first)

/-- The observers are told what is reported after a slice, if anything is. -/
theorem observers_push (slice : β)
    : (running.push rule slice).observers
      = (running.push rule slice).latest.elim running.observers running.observers.publish := by
  rw [RunningTotal.push]
  dsimp only
  split
  · rename_i few
    rw [upToDate.latest_of_lt few]
    rfl
  · rfl

end UpToDate

/-- A total that is pushed slices folds them all and counts them. -/
theorem pushAll_eq (running : RunningTotal γ) (slices : List β)
    : (slices.foldl (push rule) running).size = running.size
      ∧ (slices.foldl (push rule) running).total = slices.foldl rule.add running.total
      ∧ (slices.foldl (push rule) running).folded = running.folded + slices.length := by
  induction slices generalizing running with
  | nil => exact ⟨rfl, rfl, rfl⟩
  | cons first rest ih =>
      obtain ⟨latest, observers, pushed⟩ := push_eq rule running first
      obtain ⟨size, total, folded⟩ := ih (running.push rule first)
      simp only [pushed] at size total folded
      rw [List.foldl_cons, pushed]
      refine ⟨size, total, ?_⟩
      rw [folded, List.length_cons]
      omega

/-- A total that waits for so many slices and has folded some. -/
structure Holds (size : Nat) (slices : List β) (running : RunningTotal γ) : Prop where
  total : running.total = rule.summary slices
  folded : running.folded = slices.length
  size : running.size = size
  upToDate : running.UpToDate

/-- A new total covers no slices. -/
theorem holds_empty (size : Nat) : (empty rule size).Holds rule size [] :=
  ⟨rfl, rfl, rfl, upToDate_empty rule size⟩

namespace Holds

variable {rule} {size : Nat} {slices : List β} {running : RunningTotal γ}
  (holds : running.Holds rule size slices)
include holds

theorem pushAll (more : List β)
    : (more.foldl (push rule) running).Holds rule size (slices ++ more) := by
  obtain ⟨kept, total, folded⟩ := pushAll_eq rule running more
  refine ⟨?_, ?_, kept.trans holds.size, holds.upToDate.pushAll rule more⟩
  · rw [total, holds.total, SummaryRule.summary, SummaryRule.summary, List.foldl_append]
  · rw [folded, holds.folded, List.length_append]

/-- Who listens to the reports of a total makes no difference to them. -/
theorem withObservers (observers : Bus γ) : Holds rule size slices { running with observers } :=
  ⟨holds.total, holds.folded, holds.size, holds.upToDate⟩

theorem latest (positive : 0 < size)
    : running.latest = if size ≤ slices.length then some (rule.summary slices) else none := by
  rw [show running.latest = _ from holds.upToDate, holds.folded, holds.size, holds.total]
  by_cases several : size ≤ slices.length
  · rw [if_pos several, if_neg (by omega)]
  · rw [if_neg several, if_pos (by omega)]

/-- Whoever asks before a total has warmed up is told of a blank. -/
theorem latestOrBlank (positive : 0 < size)
    : running.latestOrBlank rule
      = if size ≤ slices.length then rule.summary slices else rule.blank := by
  rw [RunningTotal.latestOrBlank, holds.latest positive]
  split
  · rfl
  · rfl

end Holds

end RunningTotal

-----------------------------------------------------------------------------------------
-- Shortened gaps
-----------------------------------------------------------------------------------------

/-- A list of slices that is another one in which runs of blank slices were cut short, though not
below the size of a window.
-/
inductive Condensed (blank : β) (size : Nat) : List β → List β → Prop
  | nil : Condensed blank size [] []
  | slice {actual ideal} (condensed : Condensed blank size actual ideal) (slice : β)
    : Condensed blank size (actual ++ [slice]) (ideal ++ [slice])
  | gap {actual ideal} (condensed : Condensed blank size actual ideal) (length : Nat)
    (long : size ≤ length)
    : Condensed blank size (actual ++ List.replicate size blank)
        (ideal ++ List.replicate length blank)

namespace Condensed

variable {blank : β} {size : Nat} {actual ideal : List β}

/-- What is condensed stays so when the same slices are added to both. -/
theorem append (condensed : Condensed blank size actual ideal) (slices : List β)
    : Condensed blank size (actual ++ slices) (ideal ++ slices) := by
  induction slices generalizing actual ideal with
  | nil => simpa using condensed
  | cons first rest ih =>
      have grown := ih (condensed.slice first)
      rwa [List.append_assoc, List.append_assoc, List.singleton_append] at grown

/-- A gap that is cut short where it would not show. -/
theorem append_gap (condensed : Condensed blank size actual ideal) (length : Nat)
    : Condensed blank size (actual ++ List.replicate (min length size) blank)
        (ideal ++ List.replicate length blank) := by
  by_cases long : size ≤ length
  · rw [Nat.min_eq_right long]
    exact condensed.gap length long
  · rw [Nat.min_eq_left (by omega)]
    exact condensed.append _

/-- The windows at the end are the same. -/
theorem recent_eq (condensed : Condensed blank size actual ideal)
    : recent size actual = recent size ideal := by
  induction condensed with
  | nil => rfl
  | slice condensed slice ih => rw [recent_append, ih, ← recent_append]
  | gap condensed length long ih =>
      rw [recent_append_of_le _ (Nat.le_of_eq List.length_replicate.symm),
        recent_append_of_le _ (by rwa [List.length_replicate]), recent, recent,
        List.drop_replicate, List.drop_replicate, List.length_replicate, List.length_replicate]
      congr 1
      omega

/-- A fold that blank slices do not change comes to the same. -/
theorem foldl_eq (condensed : Condensed blank size actual ideal) {add : γ → β → γ}
    (neutral : ∀ total, add total blank = total) (total : γ)
    : actual.foldl add total = ideal.foldl add total := by
  have blanks (length : Nat) (total : γ)
      : (List.replicate length blank).foldl add total = total := by
    induction length with
    | zero => rfl
    | succ length ih => rw [List.replicate_succ, List.foldl_cons, neutral, ih]
  induction condensed with
  | nil => rfl
  | slice condensed slice ih => rw [List.foldl_append, ih, ← List.foldl_append]
  | gap condensed length long ih =>
      rw [List.foldl_append, List.foldl_append, blanks, blanks, ih]

/-- Any slices are condensed by themselves. -/
theorem refl (blank : β) (size : Nat) (slices : List β) : Condensed blank size slices slices :=
  (Condensed.nil.append slices : Condensed blank size ([] ++ slices) ([] ++ slices))

/-- What follows may be cut short as well. -/
theorem join {more rest : List β} (condensed : Condensed blank size actual ideal)
    (after : Condensed blank size more rest)
    : Condensed blank size (actual ++ more) (ideal ++ rest) := by
  induction after with
  | nil => simpa using condensed
  | slice _ slice ih => simpa only [List.append_assoc] using ih.slice slice
  | gap _ length long ih => simpa only [List.append_assoc] using ih.gap length long

/-- Both fill a window, or neither. -/
theorem le_length_iff (condensed : Condensed blank size actual ideal)
    : size ≤ actual.length ↔ size ≤ ideal.length := by
  have lengths := congrArg List.length condensed.recent_eq
  rw [length_recent, length_recent] at lengths
  omega

/-- What condenses slices is not longer than they are. -/
theorem length_le (condensed : Condensed blank size actual ideal)
    : actual.length ≤ ideal.length := by
  induction condensed with
  | nil => exact Nat.le_refl 0
  | slice _ slice ih => simpa using ih
  | gap _ length long ih =>
      simp only [List.length_append, List.length_replicate]
      exact Nat.add_le_add ih long

/-- Nothing was cut short that does not fill a window. -/
theorem eq_of_length_lt (condensed : Condensed blank size actual ideal)
    (short : actual.length < size) : actual = ideal := by
  have filled := condensed.le_length_iff
  have same := condensed.recent_eq
  rwa [recent_of_length_le (by omega), recent_of_length_le (by omega)] at same

end Condensed

end Breakwater
