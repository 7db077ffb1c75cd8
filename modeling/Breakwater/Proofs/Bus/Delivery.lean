import Mathlib.Algebra.BigOperators.Group.Finset.Piecewise
import Breakwater.Proofs.Bus.Session

/-! What a bus delivers. A subscriber gets every event that is published while it is subscribed, in
order, except those that find its own queue full; those are counted. Other subscribers, their queues
and when they give up make no difference to it.
-/

namespace Breakwater.Bus

variable {α : Type}

/-- The events that are published in some steps. -/
def eventsOf (steps : List (Step α)) : List α := steps.filterMap Step.event?

/-- One event, as it comes to a subscriber. -/
structure Offer (α : Type) where
  event : α
  /-- Whether the queue of the subscriber was full. -/
  lost : Bool

/-- The events of those offers that found room in the queue. -/
def kept (offers : List (Offer α)) : List α :=
  (offers.filter fun offer => !offer.lost).map (·.event)

/-- How many offers found the queue full. -/
def losses (offers : List (Offer α)) : Nat := offers.countP (·.lost)

/-- What a subscriber sees of a bus. -/
@[ext]
structure Inbox (α : Type) where
  /-- Whether the subscription has not been given up. -/
  held : Bool
  pending : List α
  received : List α

/-- One thing that can happen to a subscriber. -/
inductive Visit (α : Type) where
  | event (event : α)
  | take
  | takeAll
  | leave

/-- What a step is to a subscriber, if it is anything. -/
def Step.visit? (id : Nat) : Step α → Option (Visit α)
  | .publish event => some (.event event)
  | .subscribe => none
  | .unsubscribe other => if other = id then some .leave else none
  | .next other => if other = id then some .take else none
  | .drain other => if other = id then some .takeAll else none

/-- What becomes of a subscriber that has room for `capacity` events. -/
def Inbox.visit (capacity : Nat) (inbox : Inbox α) : Visit α → Inbox α
  | .event event =>
      if inbox.held ∧ inbox.pending.length < capacity then
        { inbox with pending := inbox.pending ++ [event] }
      else inbox
  | .take =>
      match inbox.pending with
      | [] => inbox
      | event :: rest =>
          { inbox with pending := rest, received := inbox.received ++ [event] }
  | .takeAll => { inbox with pending := [], received := inbox.received ++ inbox.pending }
  | .leave => { inbox with held := false, pending := [] }

namespace Session

variable (session : Session α)

/-- What a subscriber has taken, the first event first. -/
def received (id : Nat) : List α :=
  session.taken.filterMap fun (owner, event) => if owner = id then some event else none

/-- Whether the queue of a subscriber holds as many events as it can. -/
def isFull (id : Nat) : Bool := session.bus.capacity ≤ (session.bus.pending id).length

/-- What a step brings to a subscriber. -/
def offer? (id : Nat) : Step α → Option (Offer α)
  | .publish event => if id ∈ session.held then some ⟨event, session.isFull id⟩ else none
  | _ => none

/-- What some steps bring to a subscriber, in order. -/
def offers (session : Session α) (id : Nat) : List (Step α) → List (Offer α)
  | [] => []
  | first :: rest => (session.offer? id first).toList ++ (session.step first).offers id rest

/-- What a subscriber sees of a session. -/
def inbox (id : Nat) : Inbox α :=
  ⟨id ∈ session.held, session.bus.pending id, session.received id⟩

end Session

namespace Session

variable {session : Session α} {id : Nat}

-----------------------------------------------------------------------------------------
-- What a subscriber sees
-----------------------------------------------------------------------------------------

theorem received_taken (taken : List (Nat × α)) (id : Nat)
    : received { session with taken := session.taken ++ taken } id
      = session.received id
        ++ taken.filterMap fun (owner, event) => if owner = id then some event else none := by
  simp [received, List.filterMap_append]

/-- A step is to a subscriber what it does to it, and nothing else. -/
theorem Sound.inbox_step (sound : session.Sound) (known : id < session.bus.nextId)
    (step : Step α)
    : (session.step step).inbox id
      = (step.visit? id).toList.foldl (Inbox.visit session.bus.capacity) (session.inbox id) := by
  cases step with
  | publish event =>
      have queue := pending_publish sound event id
      show Inbox.mk (decide (id ∈ session.held)) ((session.bus.publish event).pending id)
        (session.received id) = Inbox.visit session.bus.capacity (session.inbox id) (.event event)
      by_cases room
          : id ∈ session.held ∧ (session.bus.pending id).length < session.bus.capacity
      · rw [queue, if_pos room]
        simp [inbox, Inbox.visit, room]
      · rw [queue, if_neg room]
        simp [inbox, Inbox.visit, room]
  | subscribe =>
      have other : id ≠ session.bus.nextId := Nat.ne_of_lt known
      ext1
      · simp [inbox, Session.step, Step.visit?, Bus.subscribe, other]
      · exact pending_subscribe _ _
      · rfl
  | unsubscribe given =>
      by_cases same : given = id
      · subst same
        simp [inbox, Session.step, Step.visit?, Inbox.visit, received]
      · have other : id ≠ given := Ne.symm same
        simp [inbox, Session.step, Step.visit?, received, same, other]
  | next taker =>
      rcases session.bus.next?_cases taker with ⟨waiting, nothing⟩ | ⟨event, rest, waiting, found⟩
      · by_cases same : taker = id
        · subst same
          simp [Session.step, nothing, Step.visit?, Inbox.visit, inbox, waiting]
        · simp [Session.step, nothing, Step.visit?, same]
      · have queue (other : Nat)
            : (session.bus.setPending taker rest).pending other
              = if other = taker then rest else session.bus.pending other :=
          pending_setPending _ _ _ _ (by simp [waiting])
        by_cases same : taker = id
        · subst same
          simp [Session.step, found, Step.visit?, Inbox.visit, inbox, waiting, queue, received]
        · have other : id ≠ taker := Ne.symm same
          simp [Session.step, found, Step.visit?, inbox, queue, received, same, other]
  | drain taker =>
      have queue (other : Nat)
          : (session.bus.setPending taker []).pending other
            = if other = taker then [] else session.bus.pending other :=
        pending_setPending _ _ _ _ fun _ => rfl
      by_cases same : taker = id
      · subst same
        refine Inbox.ext ?_ ?_ ?_
        · simp only [Step.visit?, if_true, Option.toList, List.foldl, Inbox.visit, inbox]
          rfl
        · simp [Session.step, Bus.drain, Step.visit?, Inbox.visit, inbox, queue]
        · simp [Session.step, Bus.drain, Step.visit?, Inbox.visit, inbox, received]
      · have other : id ≠ taker := Ne.symm same
        refine Inbox.ext ?_ ?_ ?_
        · simp only [Step.visit?, same, if_false, Option.toList, List.foldl, inbox]
          rfl
        · simp [Session.step, Bus.drain, Step.visit?, inbox, queue, same, other]
        · simp [Session.step, Bus.drain, Step.visit?, inbox, received, same]

theorem Sound.inbox_run (sound : session.Sound) (known : id < session.bus.nextId)
    (steps : List (Step α))
    : (session.run steps).inbox id
      = (steps.filterMap (Step.visit? id)).foldl (Inbox.visit session.bus.capacity)
          (session.inbox id) := by
  induction steps generalizing session with
  | nil => rfl
  | cons first rest ih =>
      rw [run_first, ih (sound.step first) (Nat.lt_of_lt_of_le known (nextId_step first)),
        sound.inbox_step known first, capacity_step]
      cases visit : first.visit? id with
      | none => rw [List.filterMap_cons_none visit]; rfl
      | some visited => rw [List.filterMap_cons_some visit]; rfl

-----------------------------------------------------------------------------------------
-- What is offered
-----------------------------------------------------------------------------------------

theorem kept_append (first rest : List (Offer α))
    : kept (first ++ rest) = kept first ++ kept rest := by
  simp [kept]

theorem eventsOf_cons (first : Step α) (rest : List (Step α))
    : eventsOf (first :: rest) = first.event?.toList ++ eventsOf rest := by
  cases event : first.event? <;> simp [eventsOf, event]

theorem offers_append (id : Nat) (first rest : List (Step α))
    : session.offers id (first ++ rest)
      = session.offers id first ++ (session.run first).offers id rest := by
  induction first generalizing session with
  | nil => rfl
  | cons step others ih => simp [offers, ih, List.append_assoc]

theorem offer?_of_not_held (missing : id ∉ session.held) (step : Step α)
    : session.offer? id step = none := by
  cases step <;> simp [offer?, missing]

theorem offer?_of_no_event {step : Step α} (silent : step.event? = none)
    : session.offer? id step = none := by
  cases step with
  | publish event => cases silent
  | _ => rfl

/-- The bus counts those whose queues are full. -/
theorem Sound.dropped_publish (sound : session.Sound) (event : α)
    : (session.bus.publish event).dropped
      = session.bus.dropped + session.held.countP session.isFull := by
  show session.bus.dropped + _ = _
  rw [← sound.live, List.countP_map]
  congr 1
  refine List.countP_congr fun subscriber member => ?_
  have there := (List.mem_filter.mp member).1
  simp [hasRoom, isFull, sound.pending_of_mem there]

/-- A count over the subscriptions that are held, as a sum over all. -/
theorem Sound.countP_held (sound : session.Sound) (p : Nat → Bool)
    : session.held.countP p
      = ∑ id ∈ Finset.range session.bus.nextId,
          if id ∈ session.held ∧ p id = true then 1 else 0 := by
  have held_eq
      : (Finset.range session.bus.nextId).filter (fun id => id ∈ session.held ∧ p id = true)
        = (session.held.filter p).toFinset := by
    ext id
    simp only [Finset.mem_filter, Finset.mem_range, List.mem_toFinset, List.mem_filter]
    exact ⟨fun found => found.2, fun found => ⟨sound.lt_nextId found.1, found⟩⟩
  rw [← Finset.card_filter, held_eq, List.toFinset_card_of_nodup (sound.held_nodup.filter p),
    List.countP_eq_length_filter]

/-- The counters of a bus and the queues agree with what was offered to each subscriber. -/
structure Ledger (session : Session α) (offers : Nat → List (Offer α)) (events : List α)
    : Prop where
  held
    : ∀ id ∈ session.held, session.received id ++ session.bus.pending id = kept (offers id)
  begun : ∀ id, session.received id <+: kept (offers id)
  fresh : ∀ id, session.bus.nextId ≤ id → offers id = []
  dropped
    : session.bus.dropped = ∑ id ∈ Finset.range session.bus.nextId, losses (offers id)
  published : session.bus.published = events.length

namespace Ledger

variable {offers : Nat → List (Offer α)} {events : List α}
  (ledger : session.Ledger offers events) (sound : session.Sound)

include ledger sound

theorem publish (event : α)
    : (session.step (.publish event)).Ledger
        (fun id => offers id ++ (session.offer? id (.publish event)).toList)
        (events ++ [event]) := by
  constructor
  case held =>
    intro id held
    replace held : id ∈ session.held := held
    show session.received id ++ (session.bus.publish event).pending id = _
    rw [pending_publish sound, kept_append, ← ledger.held id held]
    by_cases room : (session.bus.pending id).length < session.bus.capacity
    · simp [offer?, held, room, isFull, kept]
    · simp [offer?, held, room, isFull, kept]
  case begun =>
    intro id
    rw [kept_append]
    exact (ledger.begun id).trans (List.prefix_append _ _)
  case fresh =>
    intro id fresh
    rw [ledger.fresh id fresh, offer?_of_not_held (sound.not_held_of_fresh fresh)]
    rfl
  case dropped =>
    show (session.bus.publish event).dropped = _
    rw [sound.dropped_publish, ledger.dropped, sound.countP_held, ← Finset.sum_add_distrib]
    refine Finset.sum_congr rfl fun id _ => ?_
    rw [losses, losses, List.countP_append]
    by_cases held : id ∈ session.held
    · cases full : session.isFull id <;> simp [offer?, held, full]
    · simp [offer?, held]
  case published => simp [step, Bus.publish, ledger.published]

theorem subscribe : (session.step .subscribe).Ledger offers events := by
  constructor
  case held =>
    intro id held
    show session.received id ++ session.bus.subscribe.2.pending id = _
    rw [pending_subscribe]
    rcases List.mem_append.mp held with old | new
    · exact ledger.held id old
    · obtain rfl : id = session.bus.nextId := List.mem_singleton.mp new
      have nothing := ledger.begun session.bus.nextId
      rw [ledger.fresh _ (Nat.le_refl _)] at nothing ⊢
      rw [List.prefix_nil.mp nothing,
        sound.pending_of_not_held (sound.not_held_of_fresh (Nat.le_refl _))]
      rfl
  case begun => exact ledger.begun
  case fresh => exact fun id later => ledger.fresh id (Nat.le_of_succ_le later)
  case dropped =>
    show session.bus.dropped = ∑ id ∈ Finset.range (session.bus.nextId + 1), losses (offers id)
    rw [Finset.sum_range_succ, ledger.fresh _ (Nat.le_refl _), ← ledger.dropped]
    rfl
  case published => exact ledger.published

omit sound in
theorem unsubscribe (given : Nat) : (session.step (.unsubscribe given)).Ledger offers events := by
  constructor
  case held =>
    intro id held
    obtain ⟨still, other⟩ := List.mem_filter.mp held
    show session.received id ++ (session.bus.unsubscribe given).pending id = _
    rw [pending_unsubscribe, if_neg (by simpa using other)]
    exact ledger.held id still
  case begun => exact ledger.begun
  case fresh => exact ledger.fresh
  case dropped => exact ledger.dropped
  case published => exact ledger.published

/-- Taking the first events of a queue. -/
theorem taken {taker : Nat} {first rest : List α}
    (waiting : session.bus.pending taker = first ++ rest)
    : Ledger
        { session with
          bus := session.bus.setPending taker rest
          taken := session.taken ++ first.map fun event => (taker, event) }
        offers events := by
  have queue (id : Nat)
      : (session.bus.setPending taker rest).pending id
        = if id = taker then rest else session.bus.pending id :=
    pending_setPending _ _ _ _ fun nothing => by simp_all
  have got (id : Nat)
      : received { session with taken := session.taken ++ first.map fun event => (taker, event) } id
        = session.received id ++ if id = taker then first else [] := by
    rw [received_taken, List.filterMap_map]
    by_cases same : id = taker
    · simp [same]
    · simp [same, Ne.symm same]
  have both (id : Nat) (held : id ∈ session.held)
      : (session.received id ++ if id = taker then first else [])
          ++ (session.bus.setPending taker rest).pending id = kept (offers id) := by
    rw [queue, ← ledger.held id held]
    by_cases same : id = taker
    · simp [same, waiting]
    · simp [same]
  constructor
  case held =>
    intro id held
    exact (congrArg (· ++ _) (got id)).trans (both id held)
  case begun =>
    intro id
    refine (got id).symm ▸ ?_
    by_cases held : id ∈ session.held
    · exact ⟨_, both id held⟩
    · by_cases same : id = taker
      · subst same
        rw [sound.pending_of_not_held held] at waiting
        simp [(List.append_eq_nil_iff.mp waiting.symm).1, ledger.begun id]
      · simpa [same] using ledger.begun id
  case fresh => exact ledger.fresh
  case dropped => exact ledger.dropped
  case published => exact ledger.published

/-- One more step. -/
theorem step (step : Step α)
    : (session.step step).Ledger
        (fun id => offers id ++ (session.offer? id step).toList)
        (events ++ step.event?.toList) := by
  cases silent : step.event? with
  | some event =>
      obtain rfl : step = .publish event := by
        cases step <;> simp_all [Step.event?]
      exact ledger.publish sound event
  | none =>
      simp only [offer?_of_no_event silent, Option.toList, List.append_nil]
      cases step with
      | publish event => cases silent
      | subscribe => exact ledger.subscribe sound
      | unsubscribe id => exact ledger.unsubscribe id
      | drain id => exact ledger.taken sound (List.append_nil _).symm
      | next id =>
          rcases session.bus.next?_cases id with ⟨_, nothing⟩ | ⟨event, rest, waiting, found⟩
          · simpa only [Session.step, nothing] using ledger
          · simp only [Session.step, found]
            have queue : session.bus.pending id = [event] ++ rest := waiting
            exact ledger.taken sound queue

theorem run (steps : List (Step α))
    : (session.run steps).Ledger (fun id => offers id ++ session.offers id steps)
        (events ++ eventsOf steps) := by
  induction steps generalizing session offers events with
  | nil => simpa [Session.offers, eventsOf] using ledger
  | cons first rest ih =>
      have onward := ih (ledger.step sound first) (sound.step first)
      simpa only [run_first, Session.offers, eventsOf_cons, List.append_assoc] using onward

/-- Somebody who subscribes has nothing yet. -/
theorem inbox_subscribed
    : (session.step .subscribe).inbox session.bus.nextId = ⟨true, [], []⟩ := by
  have nothing := ledger.begun session.bus.nextId
  rw [ledger.fresh _ (Nat.le_refl _)] at nothing
  refine Inbox.ext ?_ ?_ (List.prefix_nil.mp nothing)
  · simp [inbox, Session.step, Bus.subscribe]
  · exact (pending_subscribe _ _).trans
      (sound.pending_of_not_held (sound.not_held_of_fresh (Nat.le_refl _)))

theorem inbox_of_subscribed (steps : List (Step α))
    : ((session.step .subscribe).run steps).inbox session.bus.nextId
      = (steps.filterMap (Step.visit? session.bus.nextId)).foldl
          (Inbox.visit session.bus.capacity) ⟨true, [], []⟩ := by
  rw [(sound.step .subscribe).inbox_run (Nat.lt_succ_self _), ledger.inbox_subscribed sound,
    capacity_step]

end Ledger

theorem ledger_start {bus : Bus α} {capacity : Nat} (created : create capacity = .ok bus)
    : (start bus).Ledger (fun _ => []) [] := by
  unfold create at created
  split at created
  · cases created
  · cases created
    exact {
      held := by simp [start]
      begun := fun _ => List.nil_prefix
      fresh := fun _ _ => rfl
      dropped := by simp [start, empty]
      published := rfl
    }

-----------------------------------------------------------------------------------------
-- From the subscription to its end
-----------------------------------------------------------------------------------------

/-- While a subscription is held, every event is offered to it. -/
theorem offers_of_held (held : id ∈ session.held) {steps : List (Step α)}
    (keeps : .unsubscribe id ∉ steps)
    : id ∈ (session.run steps).held
      ∧ (session.offers id steps).map (·.event) = eventsOf steps := by
  induction steps generalizing session with
  | nil => exact ⟨held, rfl⟩
  | cons first rest ih =>
      have other : first ≠ .unsubscribe id := fun same => keeps (same ▸ List.mem_cons_self)
      obtain ⟨still, same⟩ :=
        ih (mem_held_step held other) fun later => keeps (List.mem_cons_of_mem _ later)
      have offered
          : (session.offer? id first).toList.map (·.event) = first.event?.toList := by
        cases first <;> simp [offer?, held, Step.event?]
      exact ⟨still, by rw [offers, List.map_append, offered, same, eventsOf_cons]⟩

/-- Nothing is offered to somebody who has given up. -/
theorem offers_of_gone (known : id < session.bus.nextId) (gone : id ∉ session.held)
    (steps : List (Step α))
    : id ∉ (session.run steps).held ∧ session.offers id steps = [] := by
  induction steps generalizing session with
  | nil => exact ⟨gone, rfl⟩
  | cons first rest ih =>
      obtain ⟨still, nothing⟩ :=
        ih (Nat.lt_of_lt_of_le known (nextId_step first)) (not_mem_held_step known gone first)
      refine ⟨still, ?_⟩
      rw [offers, offer?_of_not_held gone, nothing]
      rfl

/-- What is offered to a subscriber is what is published before it gives up. -/
theorem offers_of_given_up (known : id < session.bus.nextId) (held : id ∈ session.held)
    {between : List (Step α)} (keeps : .unsubscribe id ∉ between) (later : List (Step α))
    : id ∉ (session.run (between ++ .unsubscribe id :: later)).held
      ∧ (session.offers id (between ++ .unsubscribe id :: later)).map (·.event)
        = eventsOf between := by
  obtain ⟨_, same⟩ := offers_of_held held keeps
  have gone : id ∉ ((session.run between).step (.unsubscribe id)).held := by
    simp [step]
  have after : id < ((session.run between).step (.unsubscribe id)).bus.nextId :=
    Nat.lt_of_lt_of_le known (nextId_run between)
  obtain ⟨still, nothing⟩ := offers_of_gone after gone later
  rw [run_more, run_first, offers_append, offers, nothing]
  exact ⟨still, by simpa [offer?] using same⟩

end Session

-----------------------------------------------------------------------------------------
-- Delivery
-----------------------------------------------------------------------------------------

/-- The subscriber that a run of steps leaves to be the next one. -/
def newcomer (bus : Bus α) (steps : List (Step α)) : Nat :=
  ((Session.start bus).run steps).bus.nextId

theorem newcomer_joins (bus : Bus α) (earlier : List (Step α))
    : bus.newcomer earlier ∈ (((Session.start bus).run earlier).step .subscribe).held :=
  List.mem_append_right _ (List.mem_singleton_self _)

section

variable {bus : Bus α} {capacity : Nat} (created : create capacity = .ok bus)
include created

/-- The steps before a subscription offer nothing to the subscriber. -/
theorem offers_newcomer (earlier later : List (Step α))
    : (Session.start bus).offers (bus.newcomer earlier) (earlier ++ .subscribe :: later)
      = (((Session.start bus).run earlier).step .subscribe).offers (bus.newcomer earlier)
          later := by
  have ledger := (Session.ledger_start created).run (Session.sound_start created) earlier
  have nothing := ledger.fresh _ (Nat.le_refl _)
  rw [List.nil_append] at nothing
  rw [Session.offers_append, newcomer, nothing]
  rfl

/-- A subscriber has all events since its subscription that found room in its queue. -/
theorem received_since {earlier later : List (Step α)}
    (keeps : .unsubscribe (bus.newcomer earlier) ∉ later)
    : let session := (Session.start bus).run (earlier ++ .subscribe :: later)
      let offers :=
        (Session.start bus).offers (bus.newcomer earlier) (earlier ++ .subscribe :: later)
      bus.newcomer earlier ∈ session.held ∧ offers.map (·.event) = eventsOf later
        ∧ session.received (bus.newcomer earlier) ++ session.bus.pending (bus.newcomer earlier)
          = kept offers := by
  intro session offers
  have ledger := (Session.ledger_start created).run (Session.sound_start created)
    (earlier ++ .subscribe :: later)
  obtain ⟨held, same⟩ := Session.offers_of_held (newcomer_joins bus earlier) keeps
  rw [← offers_newcomer created] at same
  have held : bus.newcomer earlier ∈ session.held := by
    rwa [← Session.run_first, ← Session.run_more] at held
  exact ⟨held, same, ledger.held _ held⟩

/-- A subscriber that has given up had taken the first of the events that found room. -/
theorem received_until {earlier between : List (Step α)}
    (keeps : .unsubscribe (bus.newcomer earlier) ∉ between) (later : List (Step α))
    : let steps :=
        earlier ++ .subscribe :: between ++ .unsubscribe (bus.newcomer earlier) :: later
      let session := (Session.start bus).run steps
      let offers := (Session.start bus).offers (bus.newcomer earlier) steps
      bus.newcomer earlier ∉ session.held ∧ offers.map (·.event) = eventsOf between
        ∧ session.received (bus.newcomer earlier) <+: kept offers := by
  intro steps session offers
  have ledger := (Session.ledger_start created).run (Session.sound_start created) steps
  have known
      : bus.newcomer earlier < (((Session.start bus).run earlier).step .subscribe).bus.nextId :=
    Nat.lt_succ_self _
  have listed : steps = earlier
      ++ .subscribe :: (between ++ .unsubscribe (bus.newcomer earlier) :: later) := by simp [steps]
  obtain ⟨gone, same⟩ :=
    Session.offers_of_given_up known (newcomer_joins bus earlier) keeps later
  rw [← offers_newcomer created, ← listed] at same
  rw [← Session.run_first, ← Session.run_more, ← listed] at gone
  exact ⟨gone, same, ledger.begun _⟩

end

/-- How a bus has dealt with its subscribers after some steps. -/
structure Delivers (bus : Bus α) (steps : List (Step α)) (session : Session α) : Prop where
  /-- What a subscriber has taken and what it can still take are, in order, the events that were
  offered to it and found room in its queue. -/
  delivered
    : ∀ id ∈ session.held,
        session.received id ++ session.bus.pending id
        = kept ((Session.start bus).offers id steps)
  /-- One that has given up had taken the first of those, and has nothing left to take. -/
  begun : ∀ id, session.received id <+: kept ((Session.start bus).offers id steps)
  emptied : ∀ id, id ∉ session.held → session.bus.pending id = []
  /-- Every event since its subscription is offered to a subscriber -/
  since
    : ∀ earlier later, steps = earlier ++ .subscribe :: later
        → .unsubscribe (bus.newcomer earlier) ∉ later
        → bus.newcomer earlier ∈ session.held
          ∧ ((Session.start bus).offers (bus.newcomer earlier) steps).map (·.event)
            = eventsOf later
  /-- until it gives up. -/
  meanwhile
    : ∀ earlier between later,
        steps = earlier ++ .subscribe :: between ++ .unsubscribe (bus.newcomer earlier) :: later
        → .unsubscribe (bus.newcomer earlier) ∉ between
        → bus.newcomer earlier ∉ session.held
          ∧ ((Session.start bus).offers (bus.newcomer earlier) steps).map (·.event)
            = eventsOf between
  bounded : ∀ id, (session.bus.pending id).length ≤ bus.capacity
  /-- Deliveries that found a queue full are counted over all subscribers, -/
  dropped
    : session.bus.dropped
      = ∑ id ∈ Finset.range session.bus.nextId, losses ((Session.start bus).offers id steps)
  /-- and so is every event. -/
  published : session.bus.published = (eventsOf steps).length
  /-- Whoever holds a subscription is on the list. -/
  stays : session.held ⊆ session.listed
  /-- Somebody who has given up is there until the next event, and no longer. -/
  leaves
    : ∀ event,
        (session.step (.publish event)).listed = session.held
        ∧ (session.step (.publish event)).bus.subscriberCount = session.held.length
  lingers
    : ∀ step : Step α, step.event? = none → step ≠ .subscribe
        → (session.step step).listed = session.listed
  joins : (session.step .subscribe).listed = session.listed ++ [session.bus.nextId]
  /-- A subscriber's events are the same in any other run that brings the same events and in which
  it does the same, whoever else has subscribed, taken events or given up. -/
  independent
    : ∀ earlier later others onward,
        steps = earlier ++ .subscribe :: later
        → later.filterMap (Step.visit? (bus.newcomer earlier))
          = onward.filterMap (Step.visit? (bus.newcomer others))
        → ((Session.start bus).run (others ++ .subscribe :: onward)).inbox (bus.newcomer others)
          = session.inbox (bus.newcomer earlier)

/-- Whatever is published and whoever subscribes, takes events and gives up: every subscriber gets
what is published while it is there, as far as its own queue has room.
-/
theorem events_delivered {bus : Bus α} {capacity : Nat} (created : create capacity = .ok bus)
    (steps : List (Step α)) : bus.Delivers steps ((Session.start bus).run steps) := by
  have sound (steps : List (Step α)) : ((Session.start bus).run steps).Sound :=
    (Session.sound_start created).run steps
  have ledger (steps : List (Step α)) := (Session.ledger_start created).run
    (Session.sound_start created) steps
  simp only [List.nil_append] at ledger
  have fresh (earlier : List (Step α))
      : (Session.start bus).offers (bus.newcomer earlier) earlier = [] :=
    (ledger earlier).fresh _ (Nat.le_refl _)
  have joined (earlier : List (Step α))
      : bus.newcomer earlier ∈ (((Session.start bus).run earlier).step .subscribe).held :=
    List.mem_append_right _ (List.mem_singleton_self _)
  have view (earlier later : List (Step α))
      : ((Session.start bus).run (earlier ++ .subscribe :: later)).inbox (bus.newcomer earlier)
        = (later.filterMap (Step.visit? (bus.newcomer earlier))).foldl
            (Inbox.visit bus.capacity) ⟨true, [], []⟩ := by
    have seen := (ledger earlier).inbox_of_subscribed (sound earlier) later
    rw [Session.capacity_run] at seen
    rw [Session.run_more]
    exact seen
  constructor
  case delivered => exact (ledger steps).held
  case begun => exact (ledger steps).begun
  case emptied => exact fun id => (sound steps).pending_of_not_held
  case since =>
    rintro earlier later rfl keeps
    obtain ⟨held, same⟩ := Session.offers_of_held (joined earlier) keeps
    rw [Session.offers_append, fresh, Session.run_more]
    exact ⟨held, same⟩
  case meanwhile =>
    rintro earlier between later rfl keeps
    have known
        : bus.newcomer earlier
          < (((Session.start bus).run earlier).step .subscribe).bus.nextId :=
      Nat.lt_succ_self _
    obtain ⟨gone, same⟩ := Session.offers_of_given_up known (joined earlier) keeps later
    rw [List.append_assoc, Session.offers_append, fresh, Session.run_more]
    exact ⟨gone, same⟩
  case bounded =>
    intro id
    have within := (sound steps).length_pending_le id
    rwa [Session.capacity_run] at within
  case dropped => exact (ledger steps).dropped
  case published => exact (ledger steps).published
  case stays => exact (sound steps).held_subset
  case leaves =>
    intro event
    have same := (sound steps).listed_publish event
    refine ⟨same, ?_⟩
    rw [← same]
    exact (List.length_map _).symm
  case lingers => exact fun step => Session.listed_step
  case joins => simp [Session.listed, Session.step, subscribe]
  case independent =>
    rintro earlier later others onward rfl same
    rw [view, view, same]

/-- With room for two events each: the slow subscriber loses the third one, the other one takes its
events in time and gives up, and a late one has only what comes after it.
-/
theorem events_delivered_to_slow_subscriber
    : let steps : List (Step Nat) :=
        [.subscribe, .subscribe, .publish 1, .publish 2, .drain 1, .publish 3, .next 0,
          .unsubscribe 1, .subscribe, .publish 4]
      let session := (Session.start (empty 2)).run steps
      create 2 = .ok (empty 2 : Bus Nat)
        ∧ session.received 0 = [1] ∧ session.bus.pending 0 = [2, 4]
        ∧ session.received 1 = [1, 2] ∧ session.bus.pending 2 = [4]
        ∧ session.bus.dropped = 1 ∧ session.bus.subscriberCount = 2
        ∧ (empty 2).Delivers steps session := by
  intro steps session
  have created : create 2 = .ok (empty 2 : Bus Nat) := rfl
  exact ⟨created, by decide, by decide, by decide, by decide, by decide, by decide,
    events_delivered created steps⟩

end Breakwater.Bus
