import Mathlib.Data.List.Induction
import Breakwater.Proofs.Bus.Delivery
import Breakwater.Proofs.Stream.Sinks

/-! What windows and totals report, whenever slices are pushed, a window is reset and observers
come, take what they were told and go. A report depends on the slices that were pushed alone, and
observers are told each report once.
-/

namespace Breakwater.SliceStream.Sink

variable {β α : Type}

/-- A window or a total in use. -/
structure Session (β α : Type) where
  sink : Sink β α
  /-- Subscriptions that have not been given up, the oldest first. -/
  held : List Nat
  /-- What was taken by which observer, the first report first. -/
  taken : List (Nat × α)

/-- One thing that can happen to a window or a total. -/
inductive Step (β : Type) where
  | push (slice : β)
  | reset
  | observe
  | unobserve (id : Nat)
  /-- An observer takes the oldest report it was told, if there is one. -/
  | next (id : Nat)
  | drain (id : Nat)

namespace Session

/-- A window or a total that nobody observes. -/
def start (sink : Sink β α) : Session β α := ⟨sink, [], []⟩

variable (session : Session β α)

/-- The part of a session that its observers see. -/
def watch : Bus.Session α := ⟨session.sink.observers, session.held, session.taken⟩

/-- A session after its observers took something or gave up. -/
def watched (watch : Bus.Session α) : Session β α :=
  ⟨session.sink.withObservers watch.bus, watch.held, watch.taken⟩

/-- Take one step. -/
def step : Step β → Session β α
  | .push slice => { session with sink := session.sink.receive slice }
  | .reset => { session with sink := session.sink.reset }
  | .observe =>
      let (id, sink) := session.sink.observe
      { session with sink, held := session.held ++ [id] }
  | .unobserve id => session.watched (session.watch.step (.unsubscribe id))
  | .next id => session.watched (session.watch.step (.next id))
  | .drain id => session.watched (session.watch.step (.drain id))

/-- Take steps in order. -/
def run (steps : List (Step β)) : Session β α := steps.foldl step session

theorem run_snoc (steps : List (Step β)) (last : Step β)
    : session.run (steps ++ [last]) = (session.run steps).step last := by
  simp [run]

end Session

-----------------------------------------------------------------------------------------
-- What is due
-----------------------------------------------------------------------------------------

/-- The slice that a step pushes. -/
def Step.slice? : Step β → Option β
  | .push slice => some slice
  | _ => none

/-- The slices pushed in some steps. -/
def pushed (steps : List (Step β)) : List β := steps.filterMap Step.slice?

/-- The slices pushed since the last reset, of which `slices` were pushed before a step. -/
def remember (slices : List β) : Step β → List β
  | .push slice => slices ++ [slice]
  | .reset => []
  | _ => slices

/-- The slices pushed since the last reset of some steps. -/
def sinceReset (steps : List (Step β)) : List β := steps.foldl remember []

/-- What a window of so many slices is to report after some steps: the summary of the latest slices,
once so many were pushed since the last reset.
-/
def windowDue (rule : SummaryRule β α) (size : Nat) (steps : List (Step β)) : Option α :=
  if size ≤ (sinceReset steps).length then some (rule.summary (recent size (pushed steps)))
  else none

/-- What a total is to report after some steps: that of all slices, once so many were pushed. -/
def totalDue (rule : SummaryRule β α) (size : Nat) (steps : List (Step β)) : Option α :=
  if size ≤ (pushed steps).length then some (rule.summary (pushed steps)) else none

/-- The report of a step after which `due` is to be reported. -/
def Step.announces (due : Option α) : Step β → List α
  | .push _ => due.toList
  | _ => []

/-- What a step is to the observers if `due` is to be reported after it. -/
def Step.tells (due : Option α) : Step β → List (Bus.Step α)
  | .push _ => due.toList.map .publish
  | .reset => []
  | .observe => [.subscribe]
  | .unobserve id => [.unsubscribe id]
  | .next id => [.next id]
  | .drain id => [.drain id]

section

variable (due : List (Step β) → Option α)

/-- The reports of some steps that come after earlier ones. -/
def announced (earlier : List (Step β)) : List (Step β) → List α
  | [] => []
  | first :: rest =>
      first.announces (due (earlier ++ [first])) ++ announced (earlier ++ [first]) rest

/-- What some steps are to the observers. -/
def told (earlier : List (Step β)) : List (Step β) → List (Bus.Step α)
  | [] => []
  | first :: rest => first.tells (due (earlier ++ [first])) ++ told (earlier ++ [first]) rest

theorem told_append (earlier first rest : List (Step β))
    : told due earlier (first ++ rest)
      = told due earlier first ++ told due (earlier ++ first) rest := by
  induction first generalizing earlier with
  | nil => simp [told]
  | cons step others ih => simp [told, ih]

theorem told_snoc (steps : List (Step β)) (last : Step β)
    : told due [] (steps ++ [last]) = told due [] steps ++ last.tells (due (steps ++ [last])) := by
  simp [told_append, told]

/-- Nothing but the reports is published to the observers. -/
theorem eventsOf_told (earlier steps : List (Step β))
    : Bus.eventsOf (told due earlier steps) = announced due earlier steps := by
  induction steps generalizing earlier with
  | nil => rfl
  | cons first rest ih =>
      have own (report : Option α)
          : Bus.eventsOf (first.tells report) = first.announces report := by
        cases first <;> cases report <;> rfl
      rw [announced, ← ih, ← own, told, Bus.eventsOf, List.filterMap_append]
      rfl

theorem not_mem_told {id : Nat} {steps : List (Step β)} (keeps : .unobserve id ∉ steps)
    (earlier : List (Step β)) : .unsubscribe id ∉ told due earlier steps := by
  induction steps generalizing earlier with
  | nil => exact List.not_mem_nil
  | cons first rest ih =>
      have later : .unobserve id ∉ rest := fun member => keeps (List.mem_cons_of_mem _ member)
      have own : .unsubscribe id ∉ first.tells (due (earlier ++ [first])) := by
        cases first with
        | unobserve given =>
            have other : id ≠ given := fun same => keeps (same ▸ List.mem_cons_self)
            simpa [Step.tells] using other
        | _ => simp [Step.tells]
      intro member
      exact (List.mem_append.mp member).elim own (ih later _)

end

-----------------------------------------------------------------------------------------
-- Sinks
-----------------------------------------------------------------------------------------

/-- What a step does to a window or a total itself. -/
def Step.acts (sink : Sink β α) : Step β → Sink β α
  | .push slice => sink.receive slice
  | .reset => sink.reset
  | _ => sink

theorem sink_step (session : Session β α) (step : Step β)
    : ∃ observers, (session.step step).sink = (step.acts session.sink).withObservers observers := by
  have own (sink : Sink β α) : sink = sink.withObservers sink.observers := by cases sink <;> rfl
  cases step with
  | push slice => exact ⟨_, own _⟩
  | reset => exact ⟨_, own _⟩
  | observe => exact ⟨_, by rw [Session.step, observe_eq]; rfl⟩
  | _ => exact ⟨_, rfl⟩

theorem upToDate_run {session : Session β α} (upToDate : session.sink.UpToDate)
    (steps : List (Step β)) : (session.run steps).sink.UpToDate := by
  induction steps generalizing session with
  | nil => exact upToDate
  | cons first rest ih =>
      obtain ⟨observers, moved⟩ := sink_step session first
      refine ih (moved ▸ UpToDate.withObservers ?_ observers)
      cases first with
      | push slice => exact upToDate.receive slice
      | reset => exact upToDate.reset
      | _ => exact upToDate

-----------------------------------------------------------------------------------------
-- Observers
-----------------------------------------------------------------------------------------

namespace Session

variable {session : Session β α}

@[simp]
theorem watch_watched (session : Session β α) (watch : Bus.Session α)
    : (session.watched watch).watch = watch := by
  simp [Session.watch, watched]

/-- A step is to the observers what it tells them. -/
theorem watch_step (upToDate : session.sink.UpToDate) (step : Step β)
    : (session.step step).watch
      = session.watch.run (step.tells (session.step step).sink.latest) := by
  cases step with
  | push slice =>
      have told := upToDate.observers_receive slice
      simp only [Session.step, Session.watch, Step.tells]
      cases report : (session.sink.receive slice).latest with
      | none => simp [told, report]
      | some summary => simp [told, report, Bus.Session.step]
  | reset => simp [Session.step, Session.watch, Step.tells]
  | observe =>
      simp [Session.step, Session.watch, Step.tells, observe_eq, Bus.Session.step, Bus.subscribe]
  | unobserve id => simp [Session.step, Step.tells]
  | next id => simp [Session.step, Step.tells]
  | drain id => simp [Session.step, Step.tells]

theorem watch_run {sink : Sink β α} (upToDate : sink.UpToDate) {due : List (Step β) → Option α}
    (faithful : ∀ steps, ((start sink).run steps).sink.latest = due steps) (steps : List (Step β))
    : ((start sink).run steps).watch = (start sink).watch.run (told due [] steps) := by
  induction steps using List.reverseRecOn with
  | nil => rfl
  | append_singleton steps last ih =>
      have report := faithful (steps ++ [last])
      rw [run_snoc] at report ⊢
      rw [watch_step (upToDate_run upToDate steps), report, ih, told_snoc, Bus.Session.run_more]

end Session

-----------------------------------------------------------------------------------------
-- Windows and totals
-----------------------------------------------------------------------------------------

@[simp]
theorem pushed_snoc (steps : List (Step β)) (last : Step β)
    : pushed (steps ++ [last]) = pushed steps ++ last.slice?.toList := by
  rw [pushed, List.filterMap_append]
  cases last <;> rfl

@[simp]
theorem sinceReset_snoc (steps : List (Step β)) (last : Step β)
    : sinceReset (steps ++ [last]) = remember (sinceReset steps) last := by
  simp [sinceReset]

/-- The slices pushed since the last reset are the latest that were pushed. -/
theorem sinceReset_suffix (steps : List (Step β)) : sinceReset steps <:+ pushed steps := by
  induction steps using List.reverseRecOn with
  | nil => exact List.suffix_rfl
  | append_singleton steps last ih =>
      rw [sinceReset_snoc, pushed_snoc]
      cases last with
      | push slice =>
          obtain ⟨earlier, same⟩ := ih
          exact ⟨earlier, by rw [← same, List.append_assoc]; rfl⟩
      | reset => exact List.nil_suffix
      | _ => simpa [remember, Step.slice?] using ih

/-- A window holds the latest slices since its last reset, by induction on the run. -/
theorem window_run (rule : SummaryRule β α) {size : Nat} (positive : 0 < size)
    (steps : List (Step β))
    : ∃ rolling,
        ((Session.start (.window rule (.empty size))).run steps).sink = .window rule rolling
        ∧ rolling.Holds rule size (sinceReset steps) := by
  induction steps using List.reverseRecOn with
  | nil => exact ⟨.empty size, rfl, RollingWindow.holds_empty rule positive⟩
  | append_singleton steps last ih =>
      obtain ⟨rolling, same, holds⟩ := ih
      obtain ⟨observers, moved⟩ := sink_step (Session.run (.start _) steps) last
      rw [same] at moved
      rw [Session.run_snoc, sinceReset_snoc]
      cases last with
      | push slice =>
          exact ⟨{ rolling.push rule slice with observers }, moved,
            (holds.pushAll [slice]).withObservers observers⟩
      | reset =>
          exact ⟨{ rolling.reset with observers }, moved, holds.reset.withObservers observers⟩
      | _ => exact ⟨{ rolling with observers }, moved, holds.withObservers observers⟩

/-- A total has folded all slices, by induction on the run. -/
theorem total_run (rule : SummaryRule β α) (size : Nat) (steps : List (Step β))
    : ∃ running,
        ((Session.start (.total rule (.empty rule size))).run steps).sink = .total rule running
        ∧ running.Holds rule size (pushed steps) := by
  induction steps using List.reverseRecOn with
  | nil => exact ⟨.empty rule size, rfl, RunningTotal.holds_empty rule size⟩
  | append_singleton steps last ih =>
      obtain ⟨running, same, holds⟩ := ih
      obtain ⟨observers, moved⟩ := sink_step (Session.run (.start _) steps) last
      rw [same] at moved
      rw [Session.run_snoc, pushed_snoc]
      cases last with
      | push slice =>
          exact ⟨{ running.push rule slice with observers }, moved,
            (holds.pushAll [slice]).withObservers observers⟩
      | _ =>
          have still := holds.withObservers observers
          exact ⟨{ running with observers }, moved, by simpa [Step.slice?] using still⟩

theorem latest_window (rule : SummaryRule β α) {size : Nat} (positive : 0 < size)
    (steps : List (Step β))
    : ((Session.start (.window rule (.empty size))).run steps).sink.latest
      = windowDue rule size steps := by
  obtain ⟨rolling, same, holds⟩ := window_run rule positive steps
  obtain ⟨earlier, split⟩ := sinceReset_suffix steps
  rw [same, latest, RollingWindow.latest, holds.last, windowDue]
  by_cases full : size ≤ (sinceReset steps).length
  · rw [if_pos full, if_pos full, ← split, recent_append_of_le earlier full]
  · rw [if_neg full, if_neg full]

theorem latest_total (rule : SummaryRule β α) {size : Nat} (positive : 0 < size)
    (steps : List (Step β))
    : ((Session.start (.total rule (.empty rule size))).run steps).sink.latest
      = totalDue rule size steps := by
  obtain ⟨running, same, holds⟩ := total_run rule size steps
  rw [same, latest, holds.latest positive, totalDue]

-----------------------------------------------------------------------------------------
-- Reports
-----------------------------------------------------------------------------------------

/-- The number that the next observer will have. -/
def Session.newcomer (session : Session β α) : Nat := session.sink.observe.1

/-- What observers are offered in some steps, each report with whether the observer's queue was full
of reports it has not taken.
-/
def offers (due : List (Step β) → Option α) (id : Nat) (steps : List (Step β))
    : List (Bus.Offer α) :=
  (Bus.Session.start (.empty Bus.defaultCapacity)).offers id (told due [] steps)

/-- A window or a total that was fresh once reports what is due after some steps, and its observers
have been told it.
-/
structure Reports (fresh : Sink β α) (due : List (Step β) → Option α) (steps : List (Step β))
    : Prop where
  latest : ((Session.start fresh).run steps).sink.latest = due steps
  /-- The observers are on a bus on which each push publishes the report that is due after it, if
  there is one, and no other step publishes anything. -/
  watched
    : ((Session.start fresh).run steps).watch
      = (Bus.Session.start (.empty Bus.defaultCapacity)).run (told due [] steps)
  published
    : ((Session.start fresh).run steps).sink.observers.published
      = (announced due [] steps).length
  /-- An observer is offered every report since it came, and it has taken, or can still take, those
  that found room in its queue, in order. -/
  heard
    : ∀ earlier later, steps = earlier ++ .observe :: later
        → .unobserve ((Session.start fresh).run earlier).newcomer ∉ later
        → let id := ((Session.start fresh).run earlier).newcomer
          let session := (Session.start fresh).run steps
          id ∈ session.held
            ∧ (offers due id steps).map (·.event) = announced due (earlier ++ [.observe]) later
            ∧ session.watch.received id ++ session.sink.observers.pending id
              = Bus.kept (offers due id steps)
  /-- One that has gone was offered every report until then, and has taken the first ones of those
  that found room. -/
  left
    : ∀ earlier between later,
        steps
          = earlier ++ .observe :: between
            ++ .unobserve ((Session.start fresh).run earlier).newcomer :: later
        → .unobserve ((Session.start fresh).run earlier).newcomer ∉ between
        → let id := ((Session.start fresh).run earlier).newcomer
          let session := (Session.start fresh).run steps
          id ∉ session.held
            ∧ (offers due id steps).map (·.event)
              = announced due (earlier ++ [.observe]) between
            ∧ session.watch.received id <+: Bus.kept (offers due id steps)
  bounded
    : ∀ id,
        (((Session.start fresh).run steps).sink.observers.pending id).length
          ≤ Bus.defaultCapacity

theorem reports_of_faithful {fresh : Sink β α} (upToDate : fresh.UpToDate)
    (unobserved : fresh.observers = .empty Bus.defaultCapacity)
    {due : List (Step β) → Option α}
    (faithful : ∀ steps, ((Session.start fresh).run steps).sink.latest = due steps)
    (steps : List (Step β)) : Reports fresh due steps := by
  let bus : Bus α := .empty Bus.defaultCapacity
  have created : Bus.create Bus.defaultCapacity = .ok bus := rfl
  have view (steps : List (Step β))
      : ((Session.start fresh).run steps).watch
        = (Bus.Session.start bus).run (told due [] steps) := by
    rw [Session.watch_run upToDate faithful, Session.watch, Session.start, unobserved]
    rfl
  have number (earlier : List (Step β))
      : ((Session.start fresh).run earlier).newcomer = bus.newcomer (told due [] earlier) := by
    rw [Session.newcomer, observe_eq, Bus.newcomer, ← view]
    rfl
  have split (earlier later : List (Step β))
      : told due [] (earlier ++ .observe :: later)
        = told due [] earlier ++ .subscribe :: told due (earlier ++ [.observe]) later := by
    rw [told_append]
    rfl
  -- The observers' part of each step is a step of the bus, so what is known of buses carries over.
  constructor
  case latest => exact faithful steps
  case watched => exact view steps
  case published =>
    have ledger := (Bus.Session.ledger_start created).run (Bus.Session.sound_start created)
      (told due [] steps)
    have published := ledger.published
    rwa [← view, List.nil_append, eventsOf_told] at published
  case heard =>
    rintro earlier later rfl keeps
    replace keeps := not_mem_told due keeps (earlier ++ [.observe])
    rw [number] at keeps
    have received := Bus.received_since created keeps
    rw [← split, eventsOf_told, ← view, ← number] at received
    exact received
  case left =>
    rintro earlier between later rfl keeps
    let id := ((Session.start fresh).run earlier).newcomer
    have listed
        : told due [] (earlier ++ .observe :: between ++ .unobserve id :: later)
          = told due [] earlier ++ .subscribe :: told due (earlier ++ [.observe]) between
            ++ .unsubscribe id
              :: told due (earlier ++ .observe :: between ++ [.unobserve id]) later := by
      rw [told_append, split]
      rfl
    replace keeps := not_mem_told due keeps (earlier ++ [.observe])
    rw [number] at keeps
    have received := Bus.received_until created keeps
      (told due (earlier ++ .observe :: between ++ [.unobserve id]) later)
    rw [← number, ← listed, eventsOf_told] at received
    dsimp only at received
    rw [← view] at received
    exact received
  case bounded =>
    intro id
    have within := ((Bus.Session.sound_start created).run (told due [] steps)).length_pending_le id
    rw [Bus.Session.capacity_run, ← view] at within
    exact within

/-- Whatever is pushed, reset, observed and taken: a window of so many slices reports the summary of
the latest ones, once so many were pushed since its last reset, and a total reports that of all
slices, once so many were pushed.
-/
theorem latest_slices_reported (rule : SummaryRule β α) {size : Nat} (positive : 0 < size)
    (steps : List (Step β))
    : (∃ rolling,
        ((Session.start (.window rule (.empty size))).run steps).sink = .window rule rolling
        ∧ rolling.window.length = min size (sinceReset steps).length)
      ∧ Reports (.window rule (.empty size)) (windowDue rule size) steps
      ∧ Reports (.total rule (.empty rule size)) (totalDue rule size) steps := by
  refine ⟨?_, ?_, ?_⟩
  · obtain ⟨rolling, same, holds⟩ := window_run rule positive steps
    exact ⟨rolling, same, holds.length⟩
  · exact reports_of_faithful (upToDate_window rule positive) rfl (latest_window rule positive)
      steps
  · exact reports_of_faithful (upToDate_total rule size) rfl (latest_total rule positive) steps

/-- Slices are kept in order. The window of two slices says nothing after its reset until it has two
again, and 6 comes when the observer has gone.
-/
theorem latest_slices_reported_after_reset
    : let rule : SummaryRule Nat (List Nat) := ⟨[], fun slices slice => slices ++ [slice]⟩
      let steps : List (Step Nat) :=
        [.push 1, .observe, .push 2, .push 3, .next 0, .reset, .push 4, .push 5, .drain 0,
          .unobserve 0, .push 6]
      let window := (Session.start (.window rule (.empty 2))).run steps
      let total := (Session.start (.total rule (.empty rule 2))).run steps
      0 < 2
        ∧ window.taken = [(0, [1, 2]), (0, [2, 3]), (0, [4, 5])]
        ∧ total.taken = [(0, [1, 2]), (0, [1, 2, 3]), (0, [1, 2, 3, 4]), (0, [1, 2, 3, 4, 5])]
        ∧ window.sink.latest = some [5, 6] ∧ window.sink.observers.published = 4
        ∧ (∃ rolling,
          window.sink = .window rule rolling
          ∧ rolling.window.length = min 2 (sinceReset steps).length)
        ∧ Reports (.window rule (.empty 2)) (windowDue rule 2) steps
        ∧ Reports (.total rule (.empty rule 2)) (totalDue rule 2) steps := by
  intro rule steps window total
  exact ⟨by decide, by decide, by decide, by decide, by decide,
    latest_slices_reported rule (by decide) steps⟩

end Breakwater.SliceStream.Sink
