import Mathlib.Data.List.Induction
import Breakwater.Proofs.Stream.Placing
import Breakwater.Proofs.Stream.Session

/-! Where the events of a stream go. Each one that is drained is folded into the slice of its stamp,
in the order of draining, unless that slice was closed before; then it is counted as late and goes
nowhere. Slices are handed on in order, each of them once, to every sink since it came.
-/

namespace Breakwater.SliceStream

variable {ε β σ : Type}

namespace Session

/-- The events that a step makes a stream take in. -/
def takesIn (rule : SliceRule ε β) (session : Session ε β σ) : Step ε σ → List (Intake ε)
  | .pump => intakes rule session.stream session.waiting
  | _ => []

/-- The events that a stream takes in in a run, the first one first. -/
def takenIn (rule : SliceRule ε β) (setup : Setup ε β σ) (session : Session ε β σ)
    (steps : List (Step ε σ)) : List (Intake ε) :=
  session.gathered setup (takesIn rule) steps

/-- No advance of a run takes the clock past its end. -/
def Unwrapped (setup : Setup ε β σ) (session : Session ε β σ) (steps : List (Step ε σ)) : Prop :=
  ∀ earlier millis later, steps = earlier ++ .advance millis :: later
    → (session.run setup earlier).clock.now + millis < Clock.period

/-- How a stream that was opened with slices of some length has dealt with its events after some
steps.
-/
structure Attributes (rule : SliceRule ε β) (duration : Nat) (setup : Setup ε β σ)
    (start : Session ε β σ) (steps : List (Step ε σ)) : Prop where
  /-- The open slice starts at a multiple of the duration and never goes back, neither from one
  moment of the run to a later one nor from one event to the next. -/
  aligned : duration ∣ (start.run setup steps).stream.start
  onward
    : ∀ earlier later, steps = earlier ++ later
        → (start.run setup earlier).stream.start ≤ (start.run setup steps).stream.start
  meanwhile
    : (start.takenIn rule setup steps).Pairwise (·.start ≤ ·.start)
      ∧ ∀ intake ∈ start.takenIn rule setup steps,
          duration ∣ intake.start ∧ intake.start ≤ (start.run setup steps).stream.start
  /-- What is taken in are the events that found room in the queue, in order, as far as a pump has
  taken them out of it. -/
  drained
    : (start.takenIn rule setup steps).map (·.event) = start.drained setup steps
      ∧ start.drained setup steps ++ (start.run setup steps).waiting
        = start.queued setup steps
  /-- An event that was not late is in the slice of its stamp, in the order of draining. All slices
  but the open one have been handed on, each of them once and with increasing numbers. -/
  placed
    : ∃ closed opened,
        Placed rule duration (start.takenIn rule setup steps) (start.emitted setup steps)
            closed opened (start.run setup steps).stream
          ∧ (start.drained setup steps).length
            = (closed.map (·.events.length)).sum + opened.events.length
              + (start.run setup steps).stream.late
  /-- A sink has been handed all slices since it came. -/
  handed
    : ∀ earlier sink later, steps = earlier ++ .addSink sink :: later
        → .reset (start.run setup earlier).sinks.length ∉ later
        → (start.run setup steps).sinks[(start.run setup earlier).sinks.length]?
          = some
              (((start.run setup (earlier ++ [.addSink sink])).emitted setup later).foldl
                setup.receive sink)
  /-- After a pump the present moment lies in the open slice, unless an event that was drained lies
  beyond it. -/
  caughtUp
    : ∀ earlier, steps = earlier ++ [.pump] → start.Unwrapped setup steps
        → (start.run setup steps).clock.now
            < (start.run setup steps).stream.start + duration
          ∧ ((start.run setup steps).stream.start ≤ (start.run setup steps).clock.now
            ∨ ∃ intake ∈ start.takenIn rule setup steps,
                (start.run setup steps).clock.now < rule.stamp intake.event)
  answered : (start.answers setup steps).sum = (start.run setup steps).stream.closed
  counted : (start.run setup steps).stream.closed = (start.emitted setup steps).length

-----------------------------------------------------------------------------------------
-- What every step keeps
-----------------------------------------------------------------------------------------

/-- Only a pump touches the slices. -/
theorem still_of_ne_pump (rule : SliceRule ε β) (setup : Setup ε β σ) (session : Session ε β σ)
    {step : Step ε σ} (other : step ≠ .pump)
    : (session.step setup step).stream = session.stream ∧ session.takesIn rule step = []
      ∧ session.handsOn setup step = [] ∧ session.answer setup step = [] := by
  cases step with
  | pump => exact absurd rfl other
  | _ => exact ⟨rfl, rfl, rfl, rfl⟩

variable (rule : SliceRule ε β) (handling : Handling β σ)

theorem event_takenIn (session : Session ε β σ) (steps : List (Step ε σ))
    : (session.takenIn rule (.cutting rule handling) steps).map (·.event)
      = session.drained (.cutting rule handling) steps := by
  induction steps generalizing session with
  | nil => rfl
  | cons first rest ih =>
      have own : (session.takesIn rule first).map (·.event) = session.drains first := by
        cases first with
        | pump => exact event_intakes rule session.stream session.waiting
        | _ => rfl
      simp only [takenIn, drained, gathered, List.map_append, own] at ih ⊢
      rw [ih]

theorem counted_run (session : Session ε β σ) (steps : List (Step ε σ))
    : (session.answers (.cutting rule handling) steps).sum
          = (session.emitted (.cutting rule handling) steps).length
        ∧ (session.run (.cutting rule handling) steps).stream.closed
          = session.stream.closed
            + (session.emitted (.cutting rule handling) steps).length := by
  induction steps using List.reverseRecOn with
  | nil => exact ⟨rfl, rfl⟩
  | append_singleton steps last ih =>
      obtain ⟨sum, closed⟩ := ih
      rw [run_snoc, answers, emitted, gathered_snoc, gathered_snoc, ← answers, ← emitted,
        List.sum_append, sum, List.length_append]
      by_cases pumps : last = .pump
      · subst pumps
        refine ⟨by simp [answer, handsOn], ?_⟩
        refine (closed_pump rule _ _ _).trans ?_
        rw [closed, Nat.add_assoc]
        rfl
      · obtain ⟨stream, _, nothing, silent⟩ := still_of_ne_pump rule _ _ pumps
        rw [stream, nothing, silent, closed]
        exact ⟨rfl, rfl⟩

/-- All events that were taken in are placed, by induction on the run. -/
theorem placed_run {duration : Nat} (positive : 0 < duration) {session : Session ε β σ}
    {opened : Portion ε} (begun : Placed rule duration [] [] [] opened session.stream)
    (steps : List (Step ε σ))
    : ∃ closed opened,
        Placed rule duration (session.takenIn rule (.cutting rule handling) steps)
          (session.emitted (.cutting rule handling) steps) closed opened
          (session.run (.cutting rule handling) steps).stream := by
  induction steps using List.reverseRecOn with
  | nil => exact ⟨[], opened, begun⟩
  | append_singleton steps last ih =>
      obtain ⟨closed, opened, placed⟩ := ih
      rw [run_snoc, takenIn, emitted, gathered_snoc, gathered_snoc, ← takenIn, ← emitted]
      by_cases pumps : last = .pump
      · subst pumps
        obtain ⟨more, next, pumped⟩ := placed.pump positive _ _
        exact ⟨closed ++ more, next, pumped⟩
      · obtain ⟨stream, untaken, nothing, _⟩ := still_of_ne_pump rule _ _ pumps
        rw [stream, untaken, nothing, List.append_nil, List.append_nil]
        exact ⟨closed, opened, placed⟩

/-- The starts of the open slices that events have met, by induction on the run. -/
theorem meanwhile_run (session : Session ε β σ) (positive : 0 < session.stream.duration)
    (aligned : session.stream.duration ∣ session.stream.start) (steps : List (Step ε σ))
    : (session.takenIn rule (.cutting rule handling) steps).Pairwise (·.start ≤ ·.start)
      ∧ ∀ intake ∈ session.takenIn rule (.cutting rule handling) steps,
          session.stream.duration ∣ intake.start
            ∧ session.stream.start ≤ intake.start
            ∧ intake.start ≤ (session.run (.cutting rule handling) steps).stream.start := by
  induction steps generalizing session with
  | nil => exact ⟨.nil, by simp [takenIn, gathered]⟩
  | cons first rest ih =>
      have moved := onward_step rule handling session positive first
      have onward := onward_run rule handling _ (moved.duration ▸ positive) rest
      have still := moved.aligned aligned
      rw [← moved.duration] at still
      obtain ⟨sorted, within⟩ := ih _ (moved.duration ▸ positive) still
      have own (intake : Intake ε) (member : intake ∈ session.takesIn rule first)
          : session.stream.duration ∣ intake.start
            ∧ session.stream.start ≤ intake.start
            ∧ intake.start ≤ (session.step (.cutting rule handling) first).stream.start := by
        by_cases pumps : first = .pump
        · subst pumps
          obtain ⟨lower, upper, multiple⟩ := (onward_absorbAll rule positive _).2.1 intake member
          exact ⟨multiple aligned, lower,
            Nat.le_trans upper (onward_pump rule positive _ _).1.start⟩
        · rw [(still_of_ne_pump rule (.cutting rule handling) session pumps).2.1] at member
          cases member
      have ownSorted : (session.takesIn rule first).Pairwise (·.start ≤ ·.start) := by
        cases first with
        | pump => exact (onward_absorbAll rule positive _).2.2.1
        | _ => exact .nil
      refine ⟨List.pairwise_append.mpr ⟨ownSorted, sorted, ?_⟩, ?_⟩
      · intro earlier member later there
        exact Nat.le_trans (own earlier member).2.2 (within later there).2.1
      · intro intake member
        rcases List.mem_append.mp member with first | later
        · obtain ⟨multiple, lower, upper⟩ := own intake first
          exact ⟨multiple, lower, Nat.le_trans upper onward.start⟩
        · obtain ⟨multiple, lower, upper⟩ := within intake later
          rw [moved.duration] at multiple
          exact ⟨multiple, Nat.le_trans moved.start lower, upper⟩

theorem Unwrapped.of_append {setup : Setup ε β σ} {session : Session ε β σ}
    {steps more : List (Step ε σ)} (fits : session.Unwrapped setup (steps ++ more))
    : session.Unwrapped setup steps := by
  intro earlier millis later split
  exact fits earlier millis (later ++ more) (by rw [split]; simp)

/-- Time does not go back. -/
theorem clock_step {setup : Setup ε β σ} {session : Session ε β σ} {steps : List (Step ε σ)}
    {last : Step ε σ} (fits : session.Unwrapped setup (steps ++ [last]))
    : (session.run setup steps).clock.now
      ≤ ((session.run setup steps).step setup last).clock.now := by
  cases last with
  | advance millis =>
      have exact_sum := Clock.now_advance (fits steps millis [] rfl)
      exact Nat.le_trans (Nat.le_add_right _ millis) (Nat.le_of_eq exact_sum.symm)
  | setClock millis => exact Clock.now_le_set _ _
  | _ => exact Nat.le_refl _

/-- The open slice starts no later than now, or than an event that was drained, by induction on the
run.
-/
theorem reach_run {session : Session ε β σ} (positive : 0 < session.stream.duration)
    (begun : session.stream.start ≤ session.clock.now) {steps : List (Step ε σ)}
    (fits : session.Unwrapped (.cutting rule handling) steps)
    : (session.run (.cutting rule handling) steps).stream.start
          ≤ (session.run (.cutting rule handling) steps).clock.now
        ∨ ∃ intake ∈ session.takenIn rule (.cutting rule handling) steps,
            (session.run (.cutting rule handling) steps).stream.start
              ≤ rule.stamp intake.event := by
  induction steps using List.reverseRecOn with
  | nil => exact .inl begun
  | append_singleton steps last ih =>
      have known := ih fits.of_append
      have later := clock_step fits
      rw [run_snoc, takenIn, gathered_snoc, ← takenIn]
      by_cases pumps : last = .pump
      · subst pumps
        have still := (onward_run rule handling session positive steps).duration
        rw [← still] at positive
        obtain ⟨_, _, _, farthest⟩ := onward_absorbAll rule positive
          (session.run (.cutting rule handling) steps).waiting
        obtain ⟨_, opens, _⟩ := onward_pump rule positive
          (session.run (.cutting rule handling) steps).waiting
          (session.run (.cutting rule handling) steps).clock.now
        rcases opens with same | now
        · rcases farthest with unmoved | ⟨intake, member, _, bound⟩
          · have start := Nat.le_of_eq (same.trans unmoved)
            refine known.imp (Nat.le_trans start) fun ⟨intake, member, bound⟩ => ?_
            exact ⟨intake, List.mem_append_left _ member, Nat.le_trans start bound⟩
          · exact .inr ⟨intake, List.mem_append_right _ member,
              Nat.le_trans (Nat.le_of_eq same) bound⟩
        · exact .inl now
      · rw [(still_of_ne_pump rule (.cutting rule handling) _ pumps).1]
        refine known.imp (Nat.le_trans · later) fun ⟨intake, member, bound⟩ => ?_
        exact ⟨intake, List.mem_append_left _ member, bound⟩

end Session

-----------------------------------------------------------------------------------------
-- Attribution
-----------------------------------------------------------------------------------------

/-- Whatever is published for whatever moments, and whenever the clock moves and the stream is
pumped: every event that is drained goes into the slice of its stamp, or is counted as late.
-/
theorem events_attributed (rule : SliceRule ε β) (handling : Handling β σ)
    (capacity sliceCount : Nat) {duration : Nat} (positive : 0 < duration) (created : Nat)
    (steps : List (Step ε σ))
    : Session.Attributes rule duration (.cutting rule handling)
        (.opening rule capacity sliceCount duration created) steps := by
  let setup : Setup ε β σ := .cutting rule handling
  let start : Session ε β σ := .opening rule capacity sliceCount duration created
  have begun : Placed rule duration [] [] [] ⟨created / duration, []⟩ start.stream :=
    placed_opening rule sliceCount duration created
  have aligned : duration ∣ start.stream.start := Dvd.intro_left _ begun.start.symm
  have onward (steps : List (Step ε σ)) : Onward start.stream (start.run setup steps).stream :=
    Session.onward_run rule handling start positive steps
  obtain ⟨sorted, within⟩ := Session.meanwhile_run rule handling start positive aligned steps
  have drained : (start.takenIn rule setup steps).map (·.event) = start.drained setup steps :=
    Session.event_takenIn rule handling start steps
  obtain ⟨sum, counted⟩ := Session.counted_run rule handling start steps
  have closed : (start.run setup steps).stream.closed = (start.emitted setup steps).length :=
    counted.trans (Nat.zero_add _)
  constructor
  case aligned => exact (onward steps).aligned aligned
  case onward =>
    rintro earlier later rfl
    have lasting : 0 < (start.run setup earlier).stream.duration :=
      Nat.lt_of_lt_of_eq positive (onward earlier).duration.symm
    rw [Session.run_more]
    exact (Session.onward_run rule handling _ lasting later).start
  case meanwhile =>
    exact ⟨sorted, fun intake member => ⟨(within intake member).1, (within intake member).2.2⟩⟩
  case drained =>
    have listening : start.Listening :=
      Session.listening_opening rule capacity sliceCount duration created
    exact ⟨drained, (listening.run setup steps).2⟩
  case placed =>
    obtain ⟨closed, opened, placed⟩ := Session.placed_run rule handling positive begun steps
    refine ⟨closed, opened, placed, ?_⟩
    have conserved := placed.conserved
    rwa [← List.length_map (·.event), drained] at conserved
  case handed =>
    rintro earlier sink later rfl keeps
    let place := (start.run setup earlier).sinks.length
    have joined : (start.run setup (earlier ++ [.addSink sink])).sinks[place]? = some sink := by
      simp [place, Session.step]
    have handed := Session.sink_run setup joined keeps
    rwa [← Session.run_more, List.append_assoc] at handed
  case caughtUp =>
    rintro earlier rfl fits
    have still := (onward earlier).duration
    obtain ⟨_, _, upper⟩ := onward_pump rule (Nat.lt_of_lt_of_eq positive still.symm)
      (start.run setup earlier).waiting (start.run setup earlier).clock.now
    rw [still] at upper
    have lower : start.stream.start ≤ start.clock.now := Nat.sub_le _ _
    have reach := Session.reach_run rule handling positive lower fits
    rw [Session.run_more] at reach ⊢
    refine ⟨upper, or_iff_not_imp_left.mpr fun beyond => ?_⟩
    obtain ⟨intake, member, bound⟩ := reach.resolve_left beyond
    exact ⟨intake, member, Nat.lt_of_lt_of_le (Nat.lt_of_not_le beyond) bound⟩
  case answered => exact sum.trans closed.symm
  case counted => exact closed

/-- With slices of ten milliseconds and events that are their own moments: 12 comes when its slice
was closed by 25, and of the six empty slices that have ended at 90 two are handed on.
-/
theorem events_attributed_out_of_order
    : let rule : SliceRule Nat (List Nat) := ⟨id, [], fun slice event => slice ++ [event]⟩
      let setup : Setup Nat (List Nat) (List (List Nat)) :=
        .cutting rule ⟨fun seen slice => seen ++ [slice], id⟩
      let start : Session Nat (List Nat) (List (List Nat)) := .opening rule 8 2 10 3
      let steps : List (Step Nat (List (List Nat))) :=
        [.addSink [], .publish 5, .publish 25, .publish 12, .pump, .publish 21, .advance 87, .pump]
      0 < 10
        ∧ (start.run setup steps).sinks = [[[5], [], [25, 21], [], []]]
        ∧ (start.run setup steps).stream.start = 90 ∧ (start.run setup steps).stream.late = 1
        ∧ start.answers setup steps = [2, 3]
        ∧ start.Attributes rule 10 setup steps := by
  intro rule setup start steps
  exact ⟨by decide, by decide, by decide, by decide, by decide,
    events_attributed rule _ 8 2 (by decide) 3 steps⟩

end Breakwater.SliceStream
