import Breakwater.Clock
import Breakwater.Proofs.Stream.Placing

/-! The arithmetic of the slices, done in words of 64 bits with every step checked. While slices
have a length, nothing is divided by zero or taken below it: the only thing that can go wrong is
that a slice ends beyond the last word, and it does not go wrong before the clock gets there.
-/

namespace Breakwater

/-- What a step of arithmetic can fail at. -/
inductive ArithmeticFault where
  | divisionByZero
  | belowZero
  | beyondWord
  /-- A number is to be kept within bounds of which the lower one is larger. -/
  | emptyRange
  deriving DecidableEq, Repr

-----------------------------------------------------------------------------------------
-- Checked steps
-----------------------------------------------------------------------------------------

namespace Checked

def add (left right : Nat) : Except ArithmeticFault Nat :=
  if left + right < Clock.period then .ok (left + right) else .error .beyondWord

def mul (left right : Nat) : Except ArithmeticFault Nat :=
  if left * right < Clock.period then .ok (left * right) else .error .beyondWord

def sub (left right : Nat) : Except ArithmeticFault Nat :=
  if right ≤ left then .ok (left - right) else .error .belowZero

def div (left right : Nat) : Except ArithmeticFault Nat :=
  if right = 0 then .error .divisionByZero else .ok (left / right)

def rem (left right : Nat) : Except ArithmeticFault Nat :=
  if right = 0 then .error .divisionByZero else .ok (left % right)

/-- A number kept within two bounds. -/
def clamp (number low high : Nat) : Except ArithmeticFault Nat :=
  if high < low then .error .emptyRange else .ok (min (max number low) high)

variable {left right : Nat}

/-- A sum that fits a word is the sum. -/
theorem add_of_lt (fits : left + right < Clock.period) : add left right = .ok (left + right) :=
  if_pos fits

/-- A sum that does not fit a word is an error. -/
theorem add_of_le (beyond : Clock.period ≤ left + right) : add left right = .error .beyondWord :=
  if_neg (Nat.not_lt_of_le beyond)

/-- A product that fits a word is the product. -/
theorem mul_of_lt (fits : left * right < Clock.period) : mul left right = .ok (left * right) :=
  if_pos fits

/-- A product that does not fit a word is an error. -/
theorem mul_of_le (beyond : Clock.period ≤ left * right) : mul left right = .error .beyondWord :=
  if_neg (Nat.not_lt_of_le beyond)

theorem sub_of_le (enough : right ≤ left) : sub left right = .ok (left - right) := if_pos enough

theorem div_of_pos (positive : 0 < right) : div left right = .ok (left / right) :=
  if_neg (Nat.ne_of_gt positive)

theorem rem_of_pos (positive : 0 < right) : rem left right = .ok (left % right) :=
  if_neg (Nat.ne_of_gt positive)

/-- Clamping between bounds that are in order fails for no number. -/
theorem clamp_of_le {number low high : Nat} (ordered : low ≤ high)
    : clamp number low high = .ok (min (max number low) high) :=
  if_neg (Nat.not_lt_of_le ordered)

end Checked

namespace SliceStream

variable {ε β : Type} (rule : SliceRule ε β)

-----------------------------------------------------------------------------------------
-- Streams in checked steps
-----------------------------------------------------------------------------------------

/-- `opening` in checked steps. -/
def openingChecked (sliceCount duration now : Nat)
    : Except ArithmeticFault (SliceStream β) := do
  let offset ← Checked.rem now duration
  let start ← Checked.sub now offset
  return ⟨sliceCount, duration, rule.blank, start, 0, 0⟩

/-- `rollForward` in checked steps. -/
def rollForwardChecked (stream : SliceStream β) (now : Nat)
    : Except ArithmeticFault (SliceStream β × List β) := do
  let finish ← Checked.add stream.start stream.duration
  if now < finish then
    return (stream, [])
  else
    let since ← Checked.sub now stream.start
    let elapsed ← Checked.div since stream.duration
    let gap ← Checked.sub elapsed 1
    let passed ← Checked.mul elapsed stream.duration
    let start ← Checked.add stream.start passed
    let emitted := stream.current :: List.replicate (min gap stream.sliceCount) rule.blank
    return ({ stream with
        current := rule.blank, start, closed := stream.closed + emitted.length }, emitted)

/-- `absorb` in checked steps. -/
def absorbChecked (stream : SliceStream β) (event : ε)
    : Except ArithmeticFault (SliceStream β × List β) :=
  if rule.stamp event < stream.start then .ok ({ stream with late := stream.late + 1 }, [])
  else do
    let (rolled, emitted) ← rollForwardChecked rule stream (rule.stamp event)
    return ({ rolled with current := rule.add rolled.current event }, emitted)

/-- `absorbAll` in checked steps. -/
def absorbAllChecked (stream : SliceStream β)
    : List ε → Except ArithmeticFault (SliceStream β × List β)
  | [] => .ok (stream, [])
  | event :: rest => do
      let (absorbed, first) ← absorbChecked rule stream event
      let (final, more) ← absorbAllChecked absorbed rest
      return (final, first ++ more)

/-- `pump` in checked steps. -/
def pumpChecked (stream : SliceStream β) (events : List ε) (now : Nat)
    : Except ArithmeticFault (SliceStream β × List β) := do
  let (absorbed, first) ← absorbAllChecked rule stream events
  let (rolled, more) ← rollForwardChecked rule absorbed now
  return (rolled, first ++ more)

/-- How long a loop that pumps sleeps before it looks again: until the open slice ends, but at least
a millisecond and at most one slice. The time that is left is cut off at zero.
-/
def pauseChecked (stream : SliceStream β) (now : Nat) : Except ArithmeticFault Nat := do
  let finish ← Checked.add stream.start stream.duration
  Checked.clamp (finish - now) 1 stream.duration

-----------------------------------------------------------------------------------------
-- What can fail
-----------------------------------------------------------------------------------------

variable {rule} {stream : SliceStream β}

/-- Opening a stream cannot fail if slices have a length. -/
theorem openingChecked_eq {duration : Nat} (positive : 0 < duration) (sliceCount now : Nat)
    : openingChecked rule sliceCount duration now = .ok (opening rule sliceCount duration now) := by
  rw [openingChecked, Checked.rem_of_pos positive]
  simp only [bind, Except.bind, Checked.sub_of_le (Nat.mod_le now duration)]
  rfl

/-- Rolling forward only fails where the open slice, or the moment to reach, lies beyond the last
word. In particular a slice has passed whenever one is taken off those that have.
-/
theorem rollForwardChecked_cases (rule : SliceRule ε β) (positive : 0 < stream.duration) (now : Nat)
    : rollForwardChecked rule stream now = .ok (stream.rollForward rule now)
      ∨ rollForwardChecked rule stream now = .error .beyondWord
        ∧ (Clock.period ≤ stream.start + stream.duration ∨ Clock.period ≤ now) := by
  by_cases fits : stream.start + stream.duration < Clock.period
  case neg =>
    rw [rollForwardChecked, Checked.add_of_le (Nat.le_of_not_lt fits)]
    exact .inr ⟨rfl, .inl (Nat.le_of_not_lt fits)⟩
  rw [rollForwardChecked, Checked.add_of_lt fits]
  rcases rollForward_cases rule positive now with
    ⟨within, same⟩ | ⟨elapsed, some_passed, lower, upper, same⟩
  · rw [same]
    exact .inl (if_pos within)
  · have slice := Nat.le_mul_of_pos_left stream.duration some_passed
    have past : ¬now < stream.start + stream.duration := by omega
    have passed : (now - stream.start) / stream.duration = elapsed := by
      refine Nat.div_eq_of_lt_le (by omega) ?_
      rw [Nat.succ_mul]
      omega
    simp only [bind, Except.bind, if_neg past, Checked.div_of_pos positive, passed,
      Checked.sub_of_le (show stream.start ≤ now by omega), Checked.sub_of_le some_passed]
    by_cases reached : stream.start + elapsed * stream.duration < Clock.period
    · left
      simp only [Checked.mul_of_lt (show elapsed * stream.duration < Clock.period by omega),
        Checked.add_of_lt reached]
      rw [same]
      simp [pure, Except.pure]
    · have beyond := Nat.le_of_not_lt reached
      refine .inr ⟨?_, .inr (Nat.le_trans beyond lower)⟩
      by_cases many : elapsed * stream.duration < Clock.period
      · simp only [Checked.mul_of_lt many, Checked.add_of_le beyond]
      · simp only [Checked.mul_of_le (Nat.le_of_not_lt many)]

/-- Absorbing an event gives what it does without checks, or the end of a slice does not fit a word.
-/
theorem absorbChecked_cases (positive : 0 < stream.duration) (event : ε)
    : absorbChecked rule stream event = .ok (stream.absorb rule event)
      ∨ absorbChecked rule stream event = .error .beyondWord
        ∧ (Clock.period ≤ stream.start + stream.duration ∨ Clock.period ≤ rule.stamp event) := by
  rw [absorbChecked, absorb]
  split
  · exact .inl rfl
  · rcases rollForwardChecked_cases rule positive (rule.stamp event) with rolled | ⟨failed, beyond⟩
    · rw [rolled]
      exact .inl rfl
    · rw [failed]
      exact .inr ⟨rfl, beyond⟩

/-- Whatever events come, a number beyond the last word is all that can go wrong, by induction on
them.
-/
theorem absorbAllChecked_cases (positive : 0 < stream.duration) (events : List ε)
    : absorbAllChecked rule stream events = .ok (stream.absorbAll rule events)
      ∨ absorbAllChecked rule stream events = .error .beyondWord := by
  induction events generalizing stream with
  | nil => exact .inl rfl
  | cons event rest ih =>
      rw [absorbAllChecked, absorbAll]
      rcases absorbChecked_cases positive event with absorbed | ⟨failed, _⟩
      · have kept := (onward_absorb rule positive event).1.duration
        rw [absorbed]
        rcases ih (kept ▸ positive) with done | failed
        · left
          simp only [bind, Except.bind, done]
          rfl
        · right
          simp only [bind, Except.bind, failed]
      · rw [failed]
        exact .inr rfl

/-- A pump gives what it does without checks, or the end of a slice does not fit a word. -/
theorem pumpChecked_cases (positive : 0 < stream.duration) (events : List ε) (now : Nat)
    : pumpChecked rule stream events now = .ok (stream.pump rule events now)
      ∨ pumpChecked rule stream events now = .error .beyondWord := by
  rw [pumpChecked, pump]
  rcases absorbAllChecked_cases positive events with absorbed | failed
  · have kept := (onward_absorbAll rule positive events).1.duration
    rw [absorbed]
    rcases rollForwardChecked_cases rule (kept ▸ positive) now with rolled | ⟨failed, _⟩
    · left
      simp only [bind, Except.bind, rolled]
      rfl
    · right
      simp only [bind, Except.bind, failed]
  · rw [failed]
    exact .inr rfl

/-- The bounds of the pause are well formed. -/
theorem pauseChecked_cases (positive : 0 < stream.duration) (now : Nat)
    : pauseChecked stream now
        = .ok (min (max (stream.untilRollover now) 1) stream.duration)
      ∨ pauseChecked stream now = .error .beyondWord
        ∧ Clock.period ≤ stream.start + stream.duration := by
  rw [pauseChecked]
  by_cases fits : stream.start + stream.duration < Clock.period
  · rw [Checked.add_of_lt fits]
    exact .inl (Checked.clamp_of_le positive)
  · rw [Checked.add_of_le (Nat.le_of_not_lt fits)]
    exact .inr ⟨rfl, Nat.le_of_not_lt fits⟩

/-- The last slice of all is cut off, so that its end is no word. -/
example
    : pauseChecked (⟨10, 100, (), Clock.period - 16, 0, 0⟩ : SliceStream Unit) (Clock.period - 1)
      = .error .beyondWord := by
  decide

-----------------------------------------------------------------------------------------
-- Where nothing fails
-----------------------------------------------------------------------------------------

/-- The slice that a moment lies in ends within the words. -/
def Fits (duration moment : Nat) : Prop := (moment / duration + 1) * duration < Clock.period

instance (duration moment : Nat) : Decidable (Fits duration moment) :=
  inferInstanceAs (Decidable ((moment / duration + 1) * duration < Clock.period))

/-- A moment that fits with its slice fits a word. -/
theorem Fits.lt {duration moment : Nat} (fits : Fits duration moment) (positive : 0 < duration)
    : moment < Clock.period :=
  Nat.lt_trans (Nat.lt_mul_of_div_lt (Nat.lt_succ_self _) positive) fits

/-- The open slice lies where the slices are cut, and ends within the words. -/
structure Within (stream : SliceStream β) : Prop where
  aligned : stream.duration ∣ stream.start
  ends : stream.start + stream.duration < Clock.period

/-- A stream that is opened at a moment that fits is within a word. -/
theorem within_opening (sliceCount : Nat) {duration now : Nat} (fits : Fits duration now)
    : (opening rule sliceCount duration now).Within := by
  have start : (opening rule sliceCount duration now).start = now / duration * duration :=
    (Nat.div_mul_self_eq_mod_sub_self).symm
  constructor
  · rw [start]
    exact Nat.dvd_mul_left _ _
  · rw [start]
    show now / duration * duration + duration < Clock.period
    rw [← Nat.succ_mul]
    exact fits

/-- Rolling forward to a moment that fits does not fail, and keeps the stream within a word. -/
theorem Within.rollForward (rule : SliceRule ε β) (within : stream.Within)
    (positive : 0 < stream.duration) {now : Nat} (fits : Fits stream.duration now)
    : rollForwardChecked rule stream now = .ok (stream.rollForward rule now)
      ∧ (stream.rollForward rule now).1.Within := by
  constructor
  · refine (rollForwardChecked_cases rule positive now).resolve_right ?_
    rintro ⟨_, beyond | beyond⟩
    · exact absurd within.ends (Nat.not_lt_of_le beyond)
    · exact absurd (fits.lt positive) (Nat.not_lt_of_le beyond)
  · rcases rollForward_cases rule positive now with
      ⟨_, same⟩ | ⟨elapsed, _, lower, upper, same⟩
    · rw [same]
      exact within
    · obtain ⟨number, start⟩ := within.aligned
      have moved : stream.start + elapsed * stream.duration
          = (number + elapsed) * stream.duration := by
        rw [start, Nat.add_mul, Nat.mul_comm stream.duration]
      rw [moved] at lower upper same
      have slice : now / stream.duration = number + elapsed :=
        Nat.div_eq_of_lt_le lower (by rwa [Nat.succ_mul])
      rw [same]
      refine ⟨Nat.dvd_mul_left _ _, ?_⟩
      rw [Fits, slice, Nat.succ_mul] at fits
      exact fits

/-- Absorbing an event whose moment fits does not fail, and keeps the stream within a word. -/
theorem Within.absorb (within : stream.Within) (positive : 0 < stream.duration) {event : ε}
    (fits : Fits stream.duration (rule.stamp event))
    : absorbChecked rule stream event = .ok (stream.absorb rule event)
      ∧ (stream.absorb rule event).1.Within := by
  obtain ⟨checked, onward⟩ := within.rollForward rule positive fits
  rw [absorbChecked, SliceStream.absorb]
  split
  · exact ⟨rfl, ⟨within.aligned, within.ends⟩⟩
  · rw [checked]
    exact ⟨rfl, ⟨onward.aligned, onward.ends⟩⟩

/-- Absorbing events whose moments fit does not fail, by induction on the events. -/
theorem Within.absorbAll (within : stream.Within) (positive : 0 < stream.duration)
    {events : List ε} (fits : ∀ event ∈ events, Fits stream.duration (rule.stamp event))
    : absorbAllChecked rule stream events = .ok (stream.absorbAll rule events)
      ∧ (stream.absorbAll rule events).1.Within := by
  induction events generalizing stream with
  | nil => exact ⟨rfl, within⟩
  | cons event rest ih =>
      obtain ⟨checked, onward⟩ := within.absorb positive (fits event List.mem_cons_self)
      have kept := (onward_absorb rule positive event).1.duration
      obtain ⟨done, final⟩ := ih onward (kept ▸ positive)
        (fun other member => kept ▸ fits other (List.mem_cons_of_mem _ member))
      rw [absorbAllChecked, SliceStream.absorbAll, checked]
      simp only [bind, Except.bind, done]
      exact ⟨rfl, final⟩

/-- Nothing fails while the slices of all moments that are looked at end within the words. -/
theorem Within.pump (within : stream.Within) (positive : 0 < stream.duration)
    {events : List ε} (fits : ∀ event ∈ events, Fits stream.duration (rule.stamp event))
    {now : Nat} (present : Fits stream.duration now)
    : pumpChecked rule stream events now = .ok (stream.pump rule events now)
      ∧ (stream.pump rule events now).1.Within := by
  obtain ⟨absorbed, onward⟩ := within.absorbAll positive fits
  have kept := (onward_absorbAll rule positive events).1.duration
  obtain ⟨rolled, final⟩ := onward.rollForward rule (kept ▸ positive) (kept ▸ present)
  rw [pumpChecked, SliceStream.pump, absorbed]
  simp only [bind, Except.bind, rolled]
  exact ⟨rfl, final⟩

/-- The pause until the next slice can be computed, and is at least a millisecond and at most a
slice.
-/
theorem Within.pause (within : stream.Within) (positive : 0 < stream.duration) (now : Nat)
    : ∃ pause,
        pauseChecked stream now = .ok pause ∧ 1 ≤ pause ∧ pause ≤ stream.duration := by
  refine ⟨_, (pauseChecked_cases positive now).resolve_right ?_, ?_, Nat.min_le_right _ _⟩
  · exact fun failed => absurd within.ends (Nat.not_lt_of_le failed.2)
  · exact Nat.le_min.mpr ⟨Nat.le_max_right _ _, positive⟩

end SliceStream

end Breakwater
