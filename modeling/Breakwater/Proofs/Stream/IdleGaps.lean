import Mathlib.Data.List.Forall2
import Breakwater.Proofs.Stream.Session
import Breakwater.Proofs.Stream.Sinks

/-! After a long gap a stream hands on no more blank slices than fill a window. Beside it stands a
stream that closes one slice after the other and hands on each of them: windows and totals over both
show the same.
-/

namespace Breakwater

variable {ε β α : Type}

-----------------------------------------------------------------------------------------
-- A stream that hands on every slice
-----------------------------------------------------------------------------------------

namespace SliceStream

/-- The stream with the next slice open. -/
def next (rule : SliceRule ε β) (stream : SliceStream β) : SliceStream β :=
  { stream with
    current := rule.blank
    start := stream.start + stream.duration
    closed := stream.closed + 1 }

/-- Close the open slice and open the next one, until `now` lies in it. -/
def closeEach (rule : SliceRule ε β) (stream : SliceStream β) (now : Nat)
    : SliceStream β × List β :=
  if stream.duration = 0 ∨ now < stream.start + stream.duration then (stream, [])
  else
    let (final, more) := closeEach rule (stream.next rule) now
    (final, stream.current :: more)
termination_by now - stream.start
decreasing_by
  show now - (stream.start + stream.duration) < now - stream.start
  omega

/-- Take in one event, after all slices before it were closed. -/
def absorbEach (rule : SliceRule ε β) (stream : SliceStream β) (event : ε)
    : SliceStream β × List β :=
  if rule.stamp event < stream.start then ({ stream with late := stream.late + 1 }, [])
  else
    let (rolled, emitted) := stream.closeEach rule (rule.stamp event)
    ({ rolled with current := rule.add rolled.current event }, emitted)

/-- Take in events in order. -/
def absorbAllEach (rule : SliceRule ε β) (stream : SliceStream β)
    : List ε → SliceStream β × List β
  | [] => (stream, [])
  | event :: rest =>
      let (absorbed, first) := stream.absorbEach rule event
      let (final, more) := absorbAllEach rule absorbed rest
      (final, first ++ more)

/-- Take in the events that are due, then close every slice that has ended by `now`. -/
def pumpEach (rule : SliceRule ε β) (stream : SliceStream β) (events : List ε) (now : Nat)
    : SliceStream β × List β :=
  let (absorbed, first) := stream.absorbAllEach rule events
  let (rolled, more) := absorbed.closeEach rule now
  (rolled, first ++ more)

/-- Slices were handed on from one stream to a later one, one for each that has ended. -/
structure HandsOnEach (before : SliceStream β) (emitted : List β) (after : SliceStream β)
    : Prop where
  duration : after.duration = before.duration
  start : after.start = before.start + emitted.length * before.duration

/-- Two streams that only differ in how many slices they have handed on. -/
structure Alike (left right : SliceStream β) : Prop where
  sliceCount : left.sliceCount = right.sliceCount
  duration : left.duration = right.duration
  current : left.current = right.current
  start : left.start = right.start
  late : left.late = right.late

variable {rule : SliceRule ε β} {stream capped full : SliceStream β}

namespace HandsOnEach

variable {before middle after : SliceStream β} {emitted more : List β}

theorem refl (stream : SliceStream β) : HandsOnEach stream [] stream := ⟨rfl, by simp⟩

/-- Slices that two stretches hand on, each at its end, are those of both. -/
theorem trans (first : HandsOnEach before emitted middle)
    (second : HandsOnEach middle more after) : HandsOnEach before (emitted ++ more) after where
  duration := second.duration.trans first.duration
  start := by
    rw [second.start, first.start, first.duration, List.length_append, Nat.add_mul, Nat.add_assoc]

end HandsOnEach

/-- While the open slice lasts, none is closed. -/
theorem closeEach_of_lt (rule : SliceRule ε β) {now : Nat}
    (within : now < stream.start + stream.duration) : stream.closeEach rule now = (stream, []) := by
  rw [closeEach, if_pos (.inr within)]

/-- A slice that has ended is closed, and the one after it is looked at. -/
theorem closeEach_of_le (rule : SliceRule ε β) (positive : 0 < stream.duration) {now : Nat}
    (ended : stream.start + stream.duration ≤ now)
    : stream.closeEach rule now
      = (((stream.next rule).closeEach rule now).1,
        stream.current :: ((stream.next rule).closeEach rule now).2) := by
  rw [closeEach, if_neg (by omega)]

/-- Closing slices one by one hands each on at its end, by induction along the ends. -/
theorem closeEach_handsOnEach (rule : SliceRule ε β) (stream : SliceStream β) (now : Nat)
    : HandsOnEach stream (stream.closeEach rule now).2 (stream.closeEach rule now).1 := by
  fun_induction closeEach rule stream now with
  | case1 stream rest => exact .refl stream
  | case2 stream lasting final more closed ih =>
      rw [closed] at ih
      have one : HandsOnEach stream [stream.current] (stream.next rule) := ⟨rfl, by simp [next]⟩
      exact one.trans ih

/-- Absorbing an event hands on each slice that ended before it. -/
theorem absorbEach_handsOnEach (rule : SliceRule ε β) (stream : SliceStream β) (event : ε)
    : HandsOnEach stream (stream.absorbEach rule event).2 (stream.absorbEach rule event).1 := by
  unfold absorbEach
  split
  · exact ⟨rfl, by simp⟩
  · have rolled := closeEach_handsOnEach rule stream (rule.stamp event)
    exact ⟨rolled.duration, rolled.start⟩

/-- Absorbing events hands on each slice that ended, by induction on the events. -/
theorem absorbAllEach_handsOnEach (rule : SliceRule ε β) (stream : SliceStream β)
    (events : List ε)
    : HandsOnEach stream (stream.absorbAllEach rule events).2
        (stream.absorbAllEach rule events).1 := by
  induction events generalizing stream with
  | nil => exact .refl stream
  | cons event rest ih => exact (absorbEach_handsOnEach rule stream event).trans (ih _)

/-- A pump hands on each slice that ended. -/
theorem pumpEach_handsOnEach (rule : SliceRule ε β) (stream : SliceStream β) (events : List ε)
    (now : Nat)
    : HandsOnEach stream (stream.pumpEach rule events now).2
        (stream.pumpEach rule events now).1 :=
  (absorbAllEach_handsOnEach rule stream events).trans (closeEach_handsOnEach rule _ now)

/-- Slice by slice the same slice is opened that one jump leads to, by induction on how many have
ended.
-/
theorem closeEach_ended (rule : SliceRule ε β) (positive : 0 < stream.duration) {now ended : Nat}
    (lower : stream.start + (ended + 1) * stream.duration ≤ now)
    (upper : now < stream.start + (ended + 1) * stream.duration + stream.duration)
    : stream.closeEach rule now
      = ({ stream with
            current := rule.blank
            start := stream.start + (ended + 1) * stream.duration
            closed := stream.closed + (ended + 1) },
        stream.current :: List.replicate ended rule.blank) := by
  induction ended generalizing stream with
  | zero =>
      have rests : (stream.next rule).closeEach rule now = (stream.next rule, []) :=
        closeEach_of_lt rule (by dsimp only [next]; omega)
      rw [closeEach_of_le rule positive (by omega), rests]
      simp [next]
  | succ ended ih =>
      have grown : (ended + 1 + 1) * stream.duration
          = stream.duration + (ended + 1) * stream.duration := by
        rw [Nat.add_mul _ 1, Nat.one_mul, Nat.add_comm]
      have onward := @ih (stream.next rule) positive (by dsimp only [next]; omega)
        (by dsimp only [next]; omega)
      rw [closeEach_of_le rule positive (by omega), onward]
      simp [next, List.replicate_succ, grown, Nat.add_assoc, Nat.add_comm 1]

-----------------------------------------------------------------------------------------
-- Both streams side by side
-----------------------------------------------------------------------------------------

/-- Closing slices leads both streams to the same slice, and what they hand on differs in the length
of long gaps only.
-/
theorem Alike.rollForward (alike : Alike capped full) (positive : 0 < capped.duration)
    (rule : SliceRule ε β) (now : Nat)
    : Alike (capped.rollForward rule now).1 (full.closeEach rule now).1
      ∧ Condensed rule.blank capped.sliceCount (capped.rollForward rule now).2
          (full.closeEach rule now).2 := by
  obtain ⟨sliceCount, duration, current, start, late⟩ := alike
  rcases rollForward_cases rule positive now
    with ⟨within, same⟩ | ⟨elapsed, several, lower, upper, same⟩
  · rw [same, closeEach, if_pos (.inr (by omega))]
    exact ⟨⟨sliceCount, duration, current, start, late⟩, .nil⟩
  · obtain ⟨ended, rfl⟩ := Nat.exists_eq_succ_of_ne_zero (Nat.ne_of_gt several)
    rw [duration] at positive lower upper
    rw [start] at lower upper
    rw [same, closeEach_ended rule positive lower upper]
    refine ⟨⟨sliceCount, duration, rfl, ?_, late⟩, ?_⟩
    · simp only [start, duration, Nat.succ_eq_add_one]
    · rw [← current]
      exact (Condensed.nil.slice capped.current).append_gap ended

/-- Two streams that are alike stay so when they absorb an event, and what the capped one hands on
condenses what the other does.
-/
theorem Alike.absorb (alike : Alike capped full) (positive : 0 < capped.duration)
    (rule : SliceRule ε β) (event : ε)
    : Alike (capped.absorb rule event).1 (full.absorbEach rule event).1
      ∧ Condensed rule.blank capped.sliceCount (capped.absorb rule event).2
          (full.absorbEach rule event).2 := by
  rcases absorb_cases rule capped event with ⟨late, same⟩ | ⟨inTime, same⟩
  · rw [same, absorbEach, if_pos (alike.start ▸ late)]
    exact ⟨{ alike with late := congrArg (· + 1) alike.late }, .nil⟩
  · obtain ⟨rolled, condensed⟩ := alike.rollForward positive rule (rule.stamp event)
    rw [same, absorbEach, if_neg (Nat.not_lt_of_le (alike.start ▸ inTime))]
    exact ⟨{ rolled with current := congrArg (rule.add · event) rolled.current }, condensed⟩

/-- Some events, by induction on these. -/
theorem Alike.absorbAll (alike : Alike capped full) (positive : 0 < capped.duration)
    (rule : SliceRule ε β) (events : List ε)
    : Alike (capped.absorbAll rule events).1 (full.absorbAllEach rule events).1
      ∧ Condensed rule.blank capped.sliceCount (capped.absorbAll rule events).2
          (full.absorbAllEach rule events).2 := by
  induction events generalizing capped full with
  | nil => exact ⟨alike, .nil⟩
  | cons event rest ih =>
      obtain ⟨absorbed, first⟩ := alike.absorb positive rule event
      have moved := (onward_absorb rule positive event).1
      obtain ⟨final, more⟩ := ih absorbed (moved.duration ▸ positive)
      rw [moved.sliceCount] at more
      exact ⟨final, first.join more⟩

/-- Two streams that are alike stay so in a pump, and what the capped one hands on condenses what
the other does.
-/
theorem Alike.pump (alike : Alike capped full) (positive : 0 < capped.duration)
    (rule : SliceRule ε β) (events : List ε) (now : Nat)
    : Alike (capped.pump rule events now).1 (full.pumpEach rule events now).1
      ∧ Condensed rule.blank capped.sliceCount (capped.pump rule events now).2
          (full.pumpEach rule events now).2 := by
  obtain ⟨absorbed, first⟩ := alike.absorbAll positive rule events
  have moved := (onward_absorbAll rule positive events).1
  obtain ⟨rolled, more⟩ := absorbed.rollForward (moved.duration ▸ positive) rule now
  rw [moved.sliceCount] at more
  exact ⟨rolled, first.join more⟩

-----------------------------------------------------------------------------------------
-- Windows and totals
-----------------------------------------------------------------------------------------

namespace Sink

def handling : Handling β (Sink β α) := ⟨receive, reset⟩

/-- A window is no longer than the gaps that are handed on, and holds no more slices than it can.
What it has taken in, or a total has, is what it reports.
-/
structure Fits (sliceCount : Nat) (sink : Sink β α) : Prop where
  upToDate : sink.UpToDate
  window
    : ∀ rule rolling, sink = .window rule rolling
        → rolling.size ≤ sliceCount ∧ rolling.window.length ≤ rolling.size

/-- Nothing tells two sinks apart: not the slices and the summary of a window, nor a total and when
it is reported, if blank slices add nothing to it. A total that waits for more slices than are
handed on for a gap may be reported later on the left, but not otherwise.
-/
inductive SameSight (blank : β) (sliceCount : Nat) : Sink β α → Sink β α → Prop
  | window {rule : SummaryRule β α} {left right : RollingWindow β α}
    (slices : left.window = right.window) (latest : left.latest rule = right.latest rule)
    : SameSight blank sliceCount (.window rule left) (.window rule right)
  | total {rule : SummaryRule β α} {left right : RunningTotal α}
    (same : (∀ total, rule.add total blank = total) → left.total = right.total)
    (latest
      : (∀ total, rule.add total blank = total)
        → left.size ≤ sliceCount ∨ left.latest ≠ none
        → left.latest = right.latest)
    : SameSight blank sliceCount (.total rule left) (.total rule right)

/-- What keeps two sinks the same while they are handed the same slices but for long gaps. -/
inductive Alike (blank : β) (sliceCount : Nat) : Sink β α → Sink β α → Prop
  | window {rule : SummaryRule β α} {left right : RollingWindow β α}
    (size : left.size = right.size) (slices : left.window = right.window)
    (fits : left.size ≤ sliceCount) (within : left.window.length ≤ left.size)
    : Alike blank sliceCount (.window rule left) (.window rule right)
  | total {rule : SummaryRule β α} {left right : RunningTotal α} (size : left.size = right.size)
    (folded
      : left.folded = right.folded ∨ (sliceCount ≤ left.folded ∧ left.folded ≤ right.folded))
    (same : (∀ total, rule.add total blank = total) → left.total = right.total)
    : Alike blank sliceCount (.total rule left) (.total rule right)

/-- Two sinks that are the same but for long gaps, and report what they have taken in. -/
structure Paired (blank : β) (sliceCount : Nat) (left right : Sink β α) : Prop where
  alike : Sink.Alike blank sliceCount left right
  left : left.UpToDate
  right : right.UpToDate

variable {blank : β} {sliceCount : Nat} {left right : Sink β α}

/-- A sink that fits the stream is paired with itself. -/
theorem paired_of_fits {sink : Sink β α} (fits : sink.Fits sliceCount)
    : Paired blank sliceCount sink sink := by
  refine ⟨?_, fits.upToDate, fits.upToDate⟩
  cases sink with
  | window rule rolling =>
      obtain ⟨short, within⟩ := fits.window rule rolling rfl
      exact .window rfl rfl short within
  | total rule running => exact .total rfl (.inl rfl) fun _ => rfl

/-- Two sinks that are paired show the same. -/
theorem Paired.sameSight (positive : 0 < sliceCount) (paired : Paired blank sliceCount left right)
    : SameSight blank sliceCount left right := by
  obtain ⟨alike, current, other⟩ := paired
  cases alike with
  | @window rule left right size slices fits within =>
      have full : left.isFull = right.isFull := by simp only [RollingWindow.isFull, size, slices]
      have latest := RollingWindow.UpToDate.last current
      rw [full, slices, ← RollingWindow.UpToDate.last other] at latest
      exact .window slices latest
  | @total rule left right size folded same =>
      have current : left.latest = _ := current
      have other : right.latest = _ := other
      refine .total same fun neutral shown => ?_
      have silent : (left.folded = 0 ∨ left.folded < left.size)
          ↔ (right.folded = 0 ∨ right.folded < right.size) := by
        rcases shown with fits | reported
        · omega
        · have enough : ¬(left.folded = 0 ∨ left.folded < left.size) :=
            fun few => reported (current.trans (if_pos few))
          omega
      rw [current, other]
      simp only [silent, same neutral]

/-- Two sinks that are paired stay so when both are reset. -/
theorem Paired.reset (paired : Paired blank sliceCount left right)
    : Paired blank sliceCount left.reset right.reset := by
  obtain ⟨alike, current, other⟩ := paired
  refine ⟨?_, current.reset, other.reset⟩
  cases alike with
  | window size slices fits within => exact .window size rfl fits (Nat.zero_le _)
  | total size folded same => exact .total size folded same

/-- Gaps that fill a window leave nothing else in it, and blank slices add nothing to a total. -/
theorem Paired.receive (paired : Paired blank sliceCount left right) {actual ideal : List β}
    (condensed : Condensed blank sliceCount actual ideal)
    : Paired blank sliceCount (actual.foldl Sink.receive left)
        (ideal.foldl Sink.receive right) := by
  obtain ⟨alike, current, other⟩ := paired
  refine ⟨?_, current.receiveAll actual, other.receiveAll ideal⟩
  cases alike with
  | @window rule left right size slices fits within =>
      -- A window shows the end of what it was handed, and cutting gaps short leaves that as it is.
      have whole := ((Condensed.refl blank sliceCount left.window).join condensed).recent_eq
      have same := congrArg (recent left.size) whole
      rw [recent_recent fits, recent_recent fits] at same
      obtain ⟨sizeLeft, slicesLeft⟩ := RollingWindow.window_pushAll rule within actual
      rw [size, slices] at within
      obtain ⟨sizeRight, slicesRight⟩ := RollingWindow.window_pushAll rule within ideal
      rw [foldl_receive_window, foldl_receive_window]
      refine .window ?_ ?_ (sizeLeft ▸ fits) ?_
      · rw [sizeLeft, sizeRight, size]
      · rw [slicesLeft, slicesRight, same, size, slices]
      · rw [slicesLeft, sizeLeft, length_recent]
        exact Nat.min_le_left _ _
  | @total rule left right size folded same =>
      obtain ⟨sizeLeft, totalLeft, foldedLeft⟩ := RunningTotal.pushAll_eq rule left actual
      obtain ⟨sizeRight, totalRight, foldedRight⟩ := RunningTotal.pushAll_eq rule right ideal
      rw [foldl_receive_total, foldl_receive_total]
      refine .total ?_ ?_ fun neutral => ?_
      · rw [sizeLeft, sizeRight, size]
      · rw [foldedLeft, foldedRight]
        -- Fewer slices than a gap's worth were not cut short, so the counts have moved together.
        have longer := condensed.length_le
        by_cases short : actual.length < sliceCount
        · rw [condensed.eq_of_length_lt short]
          omega
        · omega
      · rw [totalLeft, totalRight, same neutral]
        exact condensed.foldl_eq neutral _

end Sink

-----------------------------------------------------------------------------------------
-- Runs
-----------------------------------------------------------------------------------------

/-- A session in which every slice is handed on. -/
def Setup.closingEach {σ : Type} (rule : SliceRule ε β) (handling : Handling β σ) : Setup ε β σ :=
  { handling with pump := pumpEach rule }

/-- What holds of two lists place by place holds after the same place was changed in both. -/
theorem forall₂_modify {σ : Type} {related : σ → σ → Prop} {change : σ → σ}
    (keeps : ∀ {left right}, related left right → related (change left) (change right))
    {lefts rights : List σ} (all : List.Forall₂ related lefts rights) (place : Nat)
    : List.Forall₂ related (lefts.modify place change) (rights.modify place change) := by
  induction all generalizing place with
  | nil => simp
  | cons first rest ih =>
      cases place with
      | zero => exact .cons (keeps first) rest
      | succ place => exact .cons first (ih place)

namespace Session

/-- Two sessions that differ in long gaps only. -/
structure SideBySide (rule : SliceRule ε β) (left right : Session ε β (Sink β α)) : Prop where
  clock : left.clock = right.clock
  bus : left.bus = right.bus
  source : left.source = right.source
  stream : Alike left.stream right.stream
  sinks : List.Forall₂ (Sink.Paired rule.blank left.stream.sliceCount) left.sinks right.sinks

variable {rule : SliceRule ε β} {left right : Session ε β (Sink β α)}

/-- A session without sinks goes side by side with itself. -/
theorem sideBySide_of_nobody {session : Session ε β (Sink β α)} (nobody : session.sinks = [])
    : SideBySide rule session session :=
  ⟨rfl, rfl, rfl, ⟨rfl, rfl, rfl, rfl, rfl⟩, by rw [nobody]; exact .nil⟩

/-- Two sessions that go side by side do so after every step, by cases on what it is. -/
theorem SideBySide.step (beside : SideBySide rule left right)
    (positive : 0 < left.stream.duration) {step : Step ε (Sink β α)}
    (fit : ∀ sink, step = .addSink sink → sink.Fits left.stream.sliceCount)
    : SideBySide rule (left.step (.cutting rule Sink.handling) step)
        (right.step (.closingEach rule Sink.handling) step) := by
  obtain ⟨clock, bus, source, stream, sinks⟩ := beside
  cases step with
  | publish event => exact ⟨clock, congrArg (·.publish event) bus, source, stream, sinks⟩
  | advance millis => exact ⟨congrArg (·.advance millis) clock, bus, source, stream, sinks⟩
  | setClock millis => exact ⟨congrArg (·.set millis) clock, bus, source, stream, sinks⟩
  | pump =>
      have waiting : left.waiting = right.waiting := by rw [Session.waiting, bus, source]; rfl
      have drained : (left.bus.drain left.source).2 = (right.bus.drain right.source).2 := by
        rw [bus, source]
      have found : right.stream.pumpEach rule right.waiting right.clock.now
          = right.stream.pumpEach rule left.waiting left.clock.now := by rw [waiting, clock]
      obtain ⟨alike, condensed⟩ := stream.pump positive rule left.waiting left.clock.now
      rw [← found] at alike condensed
      have sliceCount := (onward_step rule Sink.handling left positive .pump).sliceCount
      rw [← sliceCount] at condensed sinks
      refine ⟨clock, drained, source, alike, ?_⟩
      refine List.forall₂_map_left_iff.mpr (List.forall₂_map_right_iff.mpr ?_)
      exact sinks.imp fun _ _ paired => paired.receive condensed
  | addSink sink =>
      refine ⟨clock, bus, source, stream, ?_⟩
      exact List.rel_append sinks (.cons (Sink.paired_of_fits (fit sink rfl)) .nil)
  | reset place => exact ⟨clock, bus, source, stream, forall₂_modify Sink.Paired.reset sinks place⟩

/-- By induction on the run; a window that is added fits what the stream hands on after a gap. -/
theorem SideBySide.run (beside : SideBySide rule left right)
    (positive : 0 < left.stream.duration) {steps : List (Step ε (Sink β α))}
    (fit : ∀ sink, .addSink sink ∈ steps → sink.Fits left.stream.sliceCount)
    : SideBySide rule (left.run (.cutting rule Sink.handling) steps)
        (right.run (.closingEach rule Sink.handling) steps) := by
  induction steps generalizing left right with
  | nil => exact beside
  | cons first rest ih =>
      have moved := onward_step rule Sink.handling left positive first
      refine ih (beside.step positive fun sink added => ?_) (moved.duration ▸ positive) ?_
      · exact fit sink (added ▸ List.mem_cons_self)
      · intro sink added
        rw [moved.sliceCount]
        exact fit sink (List.mem_cons_of_mem _ added)

/-- A run hands each slice on at its end, by induction on the steps. -/
theorem handsOnEach_run {σ : Type} (rule : SliceRule ε β) (handling : Handling β σ)
    (session : Session ε β σ) (steps : List (Step ε σ))
    : HandsOnEach session.stream (session.emitted (.closingEach rule handling) steps)
        (session.run (.closingEach rule handling) steps).stream := by
  induction steps generalizing session with
  | nil => exact .refl _
  | cons first rest ih =>
      refine HandsOnEach.trans ?_ (ih _)
      cases first with
      | pump => exact pumpEach_handsOnEach rule session.stream session.waiting session.clock.now
      | _ => exact .refl _

/-- Sinks cannot tell, after some steps, whether they were handed every slice or the gaps were cut
short.
-/
structure HidesGaps (rule : SliceRule ε β) (start : Session ε β (Sink β α))
    (steps : List (Step ε (Sink β α))) : Prop where
  sinks
    : List.Forall₂ (Sink.SameSight rule.blank start.stream.sliceCount)
        (start.run (.cutting rule Sink.handling) steps).sinks
        (start.run (.closingEach rule Sink.handling) steps).sinks
  stream
    : Alike (start.run (.cutting rule Sink.handling) steps).stream
        (start.run (.closingEach rule Sink.handling) steps).stream
  each
    : HandsOnEach start.stream (start.emitted (.closingEach rule Sink.handling) steps)
        (start.run (.closingEach rule Sink.handling) steps).stream

end Session

/-- Whenever events are published, the clock moves, the stream is pumped and windows start afresh:
the windows that are no longer than the gaps that are handed on, and the totals to which a blank
slice adds nothing, are those of a stream that hands on one slice for each that has ended.
-/
theorem idle_gaps_hidden (rule : SliceRule ε β) (capacity : Nat) {sliceCount duration : Nat}
    (several : 0 < sliceCount) (positive : 0 < duration) (created : Nat)
    (steps : List (Step ε (Sink β α)))
    (fit : ∀ sink, .addSink sink ∈ steps → sink.Fits sliceCount)
    : Session.HidesGaps rule (.opening rule capacity sliceCount duration created) steps := by
  let start : Session ε β (Sink β α) := .opening rule capacity sliceCount duration created
  have begun : Session.SideBySide rule start start := Session.sideBySide_of_nobody rfl
  have beside := begun.run positive fit
  have sliceCount := (Session.onward_run rule Sink.handling start positive steps).sliceCount
  constructor
  case sinks =>
    have alike := beside.sinks
    rw [sliceCount] at alike
    exact alike.imp fun _ _ paired => paired.sameSight several
  case stream => exact beside.stream
  case each => exact Session.handsOnEach_run rule Sink.handling start steps

/-- A window of two slices keeps them in order, a total adds up. Of the seven slices of ten
milliseconds that have ended at 90 after that of 25, three are handed on.
-/
theorem idle_gaps_hidden_by_window_and_total
    : let rule : SliceRule Nat Nat := ⟨id, 0, fun slice _ => slice + 1⟩
      let ordered : SummaryRule Nat (List Nat) := ⟨[], fun slices slice => slices ++ [slice]⟩
      let added : SummaryRule Nat (List Nat) := ⟨[0], fun total slice => total.map (· + slice)⟩
      let start : Session Nat Nat (Sink Nat (List Nat)) := .opening rule 8 2 10 3
      let steps : List (Step Nat (Sink Nat (List Nat))) :=
        [.addSink (.window ordered (.empty 2)), .addSink (.total added (.empty added 2)),
          .publish 5, .publish 25, .pump, .reset 0, .advance 87, .pump]
      0 < 2 ∧ 0 < 10
        ∧ (∀ sink, .addSink sink ∈ steps → sink.Fits 2)
        ∧ start.emitted (.cutting rule Sink.handling) steps = [1, 0, 1, 0, 0]
        ∧ start.emitted (.closingEach rule Sink.handling) steps = [1, 0, 1, 0, 0, 0, 0, 0, 0]
        ∧ Session.HidesGaps rule start steps := by
  intro rule ordered added start steps
  have fit : ∀ sink, .addSink sink ∈ steps → sink.Fits 2 := by
    intro sink added
    simp only [steps, List.mem_cons, Step.addSink.injEq, reduceCtorEq, List.not_mem_nil,
      or_false] at added
    rcases added with rfl | rfl
    · refine ⟨Sink.upToDate_window ordered (by decide), fun _ _ same => ?_⟩
      cases same
      exact ⟨Nat.le_refl 2, Nat.zero_le 2⟩
    · exact ⟨Sink.upToDate_total _ 2, nofun⟩
  exact ⟨by decide, by decide, fit, by decide, by decide +kernel,
    idle_gaps_hidden rule 8 (by decide) (by decide) 3 steps fit⟩

/-- A total of six slices has seen only three when nine have ended, so that it reports nothing where
it would report the event in the first of them.
-/
theorem long_total_not_reported
    : let rule : SliceRule Nat Nat := ⟨id, 0, fun slice _ => slice + 1⟩
      let added : SummaryRule Nat Nat := ⟨0, fun total slice => total + slice⟩
      let start : Session Nat Nat (Sink Nat Nat) := .opening rule 8 2 10 0
      let steps : List (Step Nat (Sink Nat Nat)) :=
        [.addSink (.total added (.empty added 6)), .publish 5, .advance 90, .pump]
      (∀ total, added.add total rule.blank = total)
        ∧ (start.run (.cutting rule Sink.handling) steps).sinks.map Sink.latest = [none]
        ∧ (start.run (.closingEach rule Sink.handling) steps).sinks.map Sink.latest
          = [some 1] := by
  exact ⟨fun _ => rfl, by decide, by decide +kernel⟩

end SliceStream

end Breakwater
