import Breakwater.Bus

/-! Runs of a bus: subscriptions are taken up and given up, events are published and taken, in any
order. The list of subscribers and the subscriptions that are held belong together in all of them.
-/

namespace Breakwater.Bus

variable {α : Type}

/-- A bus in use. -/
structure Session (α : Type) where
  bus : Bus α
  /-- Subscriptions that have not been given up, the oldest first. -/
  held : List Nat
  /-- What was taken by which subscription, the first event first. -/
  taken : List (Nat × α)

/-- One thing that can happen to a bus. -/
inductive Step (α : Type) where
  | publish (event : α)
  | subscribe
  | unsubscribe (id : Nat)
  /-- A subscriber takes its oldest event, if there is one. -/
  | next (id : Nat)
  | drain (id : Nat)

/-- The event that a step publishes. -/
def Step.event? : Step α → Option α
  | .publish event => some event
  | _ => none

namespace Session

/-- A bus that nobody has subscribed to. -/
def start (bus : Bus α) : Session α := ⟨bus, [], []⟩

variable (session : Session α)

/-- Take one step. -/
def step : Step α → Session α
  | .publish event => { session with bus := session.bus.publish event }
  | .subscribe =>
      let (id, bus) := session.bus.subscribe
      { session with bus, held := session.held ++ [id] }
  | .unsubscribe id =>
      { session with
        bus := session.bus.unsubscribe id
        held := session.held.filter (· ≠ id) }
  | .next id =>
      match session.bus.next? id with
      | none => session
      | some (event, bus) => { session with bus, taken := session.taken ++ [(id, event)] }
  | .drain id =>
      let (events, bus) := session.bus.drain id
      { session with bus, taken := session.taken ++ events.map fun event => (id, event) }

/-- Take steps in order. -/
def run (steps : List (Step α)) : Session α := steps.foldl step session

@[simp]
theorem run_nothing : session.run [] = session := rfl

@[simp]
theorem run_first (first : Step α) (rest : List (Step α))
    : session.run (first :: rest) = (session.step first).run rest := rfl

@[simp]
theorem run_more (first rest : List (Step α))
    : session.run (first ++ rest) = (session.run first).run rest :=
  List.foldl_append

/-- The numbers of the subscribers on the bus's list. -/
def listed : List Nat := session.bus.subscribers.map (·.id)

/-- The list of a bus and the subscriptions that are held belong together. -/
structure Sound : Prop where
  ordered : session.listed.Pairwise (· < ·)
  known : ∀ id ∈ session.listed, id < session.bus.nextId
  live : (session.bus.subscribers.filter (·.live)).map (·.id) = session.held
  bounded
    : ∀ subscriber ∈ session.bus.subscribers,
        subscriber.pending.length ≤ session.bus.capacity
  emptied
    : ∀ subscriber ∈ session.bus.subscribers,
        subscriber.live = false → subscriber.pending = []

end Session

-----------------------------------------------------------------------------------------
-- Queues after each operation
-----------------------------------------------------------------------------------------

section

variable (bus : Bus α) (id other : Nat)

/-- What waits for a subscriber is what its entry on the list holds, and nothing if it has none. -/
theorem pending_eq
    : bus.pending id = ((bus.subscriber? id).map (·.pending)).getD [] := by
  unfold pending
  cases bus.subscriber? id <;> rfl

/-- A new subscriber has nothing to take, like somebody who is not on the list. -/
@[simp]
theorem pending_subscribe : bus.subscribe.2.pending id = bus.pending id := by
  simp only [pending_eq, subscriber?, subscribe, List.find?_append]
  cases bus.subscribers.find? (fun subscriber => subscriber.id == id) with
  | some subscriber => rfl
  | none =>
      by_cases same : bus.nextId = id
      · simp [same]
      · simp [same]

/-- Changing subscribers without changing their numbers. -/
theorem find?_map_of_id {change : Subscriber α → Subscriber α}
    (same : ∀ subscriber, (change subscriber).id = subscriber.id)
    (subscribers : List (Subscriber α))
    : (subscribers.map change).find? (fun subscriber => subscriber.id == id)
      = (subscribers.find? (fun subscriber => subscriber.id == id)).map change := by
  simp only [List.find?_map, Function.comp_def, same]

/-- Changes of subscribers that keep their numbers keep the list of these. -/
theorem ids_map {change : Subscriber α → Subscriber α}
    (same : ∀ subscriber, (change subscriber).id = subscriber.id)
    (subscribers : List (Subscriber α))
    : (subscribers.map change).map (·.id) = subscribers.map (·.id) := by
  rw [List.map_map]
  exact List.map_congr_left fun subscriber _ => same subscriber

/-- Whoever unsubscribes has nothing waiting any more, and for all others the same waits. -/
@[simp]
theorem pending_unsubscribe
    : (bus.unsubscribe id).pending other = if other = id then [] else bus.pending other := by
  simp only [pending_eq, subscriber?, unsubscribe]
  rw [find?_map_of_id other fun subscriber => by split <;> rfl]
  cases found : bus.subscribers.find? (fun subscriber => subscriber.id == other) with
  | none => simp
  | some subscriber =>
      have named : subscriber.id = other := by simpa using List.find?_some found
      by_cases same : other = id
      · simp [named, same]
      · simp [named, same]

/-- What waits is replaced for one subscriber only, provided that nothing is put down for one who is
gone.
-/
theorem pending_setPending (events : List α) (waiting : bus.pending id = [] → events = [])
    : (bus.setPending id events).pending other
      = if other = id then events else bus.pending other := by
  simp only [pending_eq, subscriber?, setPending] at waiting ⊢
  rw [find?_map_of_id other fun subscriber => by split <;> rfl]
  cases found : bus.subscribers.find? (fun subscriber => subscriber.id == other) with
  | none =>
      by_cases same : other = id
      · subst same
        simp [waiting (by simp [found])]
      · simp [same]
  | some subscriber =>
      have named : subscriber.id = other := by simpa using List.find?_some found
      by_cases same : other = id
      · simp [named, same]
      · simp [named, same]

/-- Only somebody with events to take gets one. -/
theorem next?_cases
    : (bus.pending id = [] ∧ bus.next? id = none)
      ∨ ∃ event rest,
          bus.pending id = event :: rest ∧ bus.next? id = some (event, bus.setPending id rest) := by
  unfold next?
  cases bus.pending id with
  | nil => exact .inl ⟨rfl, rfl⟩
  | cons event rest => exact .inr ⟨event, rest, rfl, rfl⟩

@[simp]
theorem offer_id (event : α) (subscriber : Subscriber α)
    : (bus.offer event subscriber).id = subscriber.id := by
  unfold offer
  split <;> rfl

@[simp]
theorem offer_live (event : α) (subscriber : Subscriber α)
    : (bus.offer event subscriber).live = subscriber.live := by
  unfold offer
  split <;> rfl

/-- An event that is offered to a full buffer is dropped. -/
theorem pending_offer (event : α) (subscriber : Subscriber α)
    : (bus.offer event subscriber).pending
      = if subscriber.pending.length < bus.capacity then subscriber.pending ++ [event]
        else subscriber.pending := by
  by_cases room : subscriber.pending.length < bus.capacity
  · simp [offer, hasRoom, room]
  · simp [offer, hasRoom, room]

end

namespace Session

variable {session : Session α} {id : Nat}

-----------------------------------------------------------------------------------------
-- The list of subscribers
-----------------------------------------------------------------------------------------

/-- A bus that was just created has no subscribers to be wrong about. -/
theorem sound_start {bus : Bus α} {capacity : Nat} (created : create capacity = .ok bus)
    : (start bus).Sound := by
  unfold create at created
  split at created
  · cases created
  · cases created
    exact {
      ordered := .nil
      known := by simp [listed, start, empty]
      live := rfl
      bounded := by simp [start, empty]
      emptied := by simp [start, empty]
    }

namespace Sound

variable (sound : session.Sound)
include sound

/-- A subscription is held while its subscriber is on the list, and alive. -/
theorem mem_held_iff
    : id ∈ session.held
      ↔ ∃ subscriber ∈ session.bus.subscribers, subscriber.live = true ∧ subscriber.id = id := by
  rw [← sound.live]
  simp [and_assoc]

/-- Who holds a subscription is on the list. -/
theorem held_subset : session.held ⊆ session.listed := by
  intro id held
  obtain ⟨subscriber, member, _, rfl⟩ := sound.mem_held_iff.mp held
  exact List.mem_map.mpr ⟨subscriber, member, rfl⟩

/-- No two subscriptions that are held have the same number. -/
theorem held_nodup : session.held.Nodup := by
  have sublist : session.held.Sublist session.listed :=
    sound.live ▸ List.filter_sublist.map _
  exact (sound.ordered.sublist sublist).imp Nat.ne_of_lt

/-- The next number is one that nobody has. -/
theorem lt_nextId (held : id ∈ session.held) : id < session.bus.nextId :=
  sound.known id (sound.held_subset held)

/-- Of each subscriber on the list there is one, so that looking it up finds it. -/
theorem pending_of_mem {subscriber : Subscriber α}
    (member : subscriber ∈ session.bus.subscribers)
    : session.bus.pending subscriber.id = subscriber.pending := by
  have found : session.bus.subscriber? subscriber.id = some subscriber := by
    have distinct : session.bus.subscribers.Pairwise fun left right => left.id < right.id :=
      List.pairwise_map.mp sound.ordered
    unfold subscriber?
    generalize session.bus.subscribers = subscribers at member distinct
    induction distinct with
    | nil => cases member
    | @cons first rest before _ ih =>
        rcases List.mem_cons.mp member with rfl | later
        · simp
        · simp [Nat.ne_of_lt (before subscriber later), ih later]
  rw [pending_eq, found]
  rfl

/-- Nothing is queued for somebody who has given up or not yet come. -/
theorem pending_of_not_held (missing : id ∉ session.held) : session.bus.pending id = [] := by
  rw [pending_eq]
  cases found : session.bus.subscriber? id with
  | none => rfl
  | some subscriber =>
      have member : subscriber ∈ session.bus.subscribers := List.mem_of_find?_eq_some found
      have named : subscriber.id = id := by simpa using List.find?_some found
      refine sound.emptied subscriber member (Bool.eq_false_iff.mpr fun live => missing ?_)
      exact sound.mem_held_iff.mpr ⟨subscriber, member, live, named⟩

/-- No buffer holds more than the capacity, for those on the list and for all others. -/
theorem length_pending_le (id : Nat) : (session.bus.pending id).length ≤ session.bus.capacity := by
  by_cases held : id ∈ session.held
  · obtain ⟨subscriber, member, _, rfl⟩ := sound.mem_held_iff.mp held
    rw [sound.pending_of_mem member]
    exact sound.bounded subscriber member
  · simp [sound.pending_of_not_held held]

/-- After an event, exactly those are listed that hold a subscription. -/
theorem listed_publish (event : α) : (session.step (.publish event)).listed = session.held := by
  simp only [listed, step, Bus.publish]
  rw [ids_map (session.bus.offer_id event), sound.live]

/-- Publishing keeps a bus sound: each buffer grows by one event at most, and those who are gone
leave.
-/
theorem publish (event : α) : (session.step (.publish event)).Sound := by
  have same := sound.listed_publish event
  constructor
  case ordered =>
    rw [same]
    have sublist : session.held.Sublist session.listed :=
      sound.live ▸ List.filter_sublist.map _
    exact sound.ordered.sublist sublist
  case known =>
    rw [same]
    exact fun id held => sound.lt_nextId held
  case live =>
    simp only [step, Bus.publish]
    rw [← sound.live, List.filter_map, ids_map (session.bus.offer_id event), List.filter_filter]
    simp
  case bounded =>
    intro subscriber member
    obtain ⟨before, there, rfl⟩ := List.mem_map.mp member
    have within := sound.bounded before (List.mem_filter.mp there).1
    show (session.bus.offer event before).pending.length ≤ session.bus.capacity
    rw [pending_offer]
    split
    · simp only [List.length_append, List.length_singleton]
      omega
    · exact within
  case emptied =>
    intro subscriber member dead
    obtain ⟨before, there, rfl⟩ := List.mem_map.mp member
    have live := (List.mem_filter.mp there).2
    rw [offer_live, live] at dead
    cases dead

/-- A new subscriber has a new number and an empty buffer. -/
theorem subscribe : (session.step .subscribe).Sound := by
  have onward : (session.step .subscribe).listed = session.listed ++ [session.bus.nextId] := by
    simp [listed, step, Bus.subscribe]
  constructor
  case ordered =>
    rw [onward, List.pairwise_append]
    refine ⟨sound.ordered, List.pairwise_singleton _ _, fun id member new last => ?_⟩
    rw [List.mem_singleton.mp last]
    exact sound.known id member
  case known =>
    rw [onward]
    intro id member
    show id < session.bus.nextId + 1
    rcases List.mem_append.mp member with old | new
    · exact Nat.lt_succ_of_lt (sound.known id old)
    · rw [List.mem_singleton.mp new]
      exact Nat.lt_succ_self _
  case live => simp [step, Bus.subscribe, List.filter_append, sound.live]
  case bounded =>
    intro subscriber member
    rcases List.mem_append.mp member with old | new
    · exact sound.bounded subscriber old
    · rw [List.mem_singleton.mp new]
      exact Nat.zero_le _
  case emptied =>
    intro subscriber member dead
    rcases List.mem_append.mp member with old | new
    · exact sound.emptied subscriber old dead
    · rw [List.mem_singleton.mp new]

/-- Who unsubscribes keeps its place on the list until the next event. -/
theorem unsubscribe (id : Nat) : (session.step (.unsubscribe id)).Sound := by
  have same : (session.step (.unsubscribe id)).listed = session.listed :=
    ids_map (fun subscriber => by split <;> rfl) _
  constructor
  case ordered => exact same ▸ sound.ordered
  case known => exact same ▸ sound.known
  case live =>
    simp only [step, Bus.unsubscribe]
    rw [← sound.live, List.filter_map, ids_map (fun subscriber => by split <;> rfl),
      List.filter_map, List.filter_filter]
    congr 2
    funext subscriber
    by_cases given : subscriber.id = id
    · simp [given]
    · simp [given]
  case bounded =>
    intro subscriber member
    obtain ⟨before, there, rfl⟩ := List.mem_map.mp member
    split
    · exact Nat.zero_le _
    · exact sound.bounded before there
  case emptied =>
    intro subscriber member dead
    obtain ⟨before, there, rfl⟩ := List.mem_map.mp member
    by_cases given : before.id = id
    · simp [given]
    · simp only [given, if_false] at dead ⊢
      exact sound.emptied before there dead

/-- Taking events from a queue keeps everything else. -/
theorem setPending {events : List α}
    (fewer : events.length ≤ (session.bus.pending id).length) (taken : List (Nat × α))
    : Sound { session with bus := session.bus.setPending id events, taken } := by
  have same
      : listed { session with bus := session.bus.setPending id events, taken }
        = session.listed :=
    ids_map (fun subscriber => by split <;> rfl) _
  constructor
  case ordered => exact same ▸ sound.ordered
  case known => exact same ▸ sound.known
  case live =>
    simp only [Bus.setPending]
    rw [← sound.live, List.filter_map, ids_map (fun subscriber => by split <;> rfl)]
    congr 2
    funext subscriber
    simp only [Function.comp_apply]
    split <;> rfl
  case bounded =>
    intro subscriber member
    obtain ⟨before, there, rfl⟩ := List.mem_map.mp member
    split
    · exact Nat.le_trans fewer (sound.length_pending_le id)
    · exact sound.bounded before there
  case emptied =>
    intro subscriber member dead
    obtain ⟨before, there, rfl⟩ := List.mem_map.mp member
    by_cases named : before.id = id
    · simp only [named, if_true] at dead ⊢
      rw [← named, sound.pending_of_mem there, sound.emptied before there dead] at fewer
      exact List.length_eq_zero_iff.mp (Nat.le_zero.mp fewer)
    · simp only [named, if_false] at dead ⊢
      exact sound.emptied before there dead

/-- Taking an event shortens one buffer. -/
theorem next (id : Nat) : (session.step (.next id)).Sound := by
  rcases session.bus.next?_cases id with ⟨_, nothing⟩ | ⟨event, rest, waiting, found⟩
  · simpa only [Session.step, nothing] using sound
  · simp only [Session.step, found]
    exact sound.setPending (by simp [waiting]) _

/-- Every step keeps a bus sound. -/
theorem step (step : Step α) : (session.step step).Sound := by
  cases step with
  | publish event => exact sound.publish event
  | subscribe => exact sound.subscribe
  | unsubscribe id => exact sound.unsubscribe id
  | next id => exact sound.next id
  | drain id => exact sound.setPending (Nat.zero_le _) _

/-- Every run keeps a bus sound, by induction on its steps. -/
theorem run (steps : List (Step α)) : (session.run steps).Sound := by
  induction steps generalizing session with
  | nil => exact sound
  | cons first rest ih => exact ih (sound.step first)

end Sound

-----------------------------------------------------------------------------------------
-- What each step keeps
-----------------------------------------------------------------------------------------

/-- The capacity is fixed when the bus is created. -/
theorem capacity_step (step : Step α)
    : (session.step step).bus.capacity = session.bus.capacity := by
  cases step with
  | next id =>
      rcases session.bus.next?_cases id with ⟨_, nothing⟩ | ⟨event, rest, _, found⟩
      · simp only [Session.step, nothing]
      · simp only [Session.step, found]
        rfl
  | _ => rfl

theorem capacity_run (steps : List (Step α))
    : (session.run steps).bus.capacity = session.bus.capacity := by
  induction steps generalizing session with
  | nil => rfl
  | cons first rest ih => exact ih.trans (capacity_step first)

/-- Numbers are never given out again. -/
theorem nextId_step (step : Step α) : session.bus.nextId ≤ (session.step step).bus.nextId := by
  cases step with
  | subscribe => exact Nat.le_succ _
  | next id =>
      rcases session.bus.next?_cases id with ⟨_, nothing⟩ | ⟨event, rest, _, found⟩
      · simp only [Session.step, nothing, Nat.le_refl]
      · simp only [Session.step, found]
        exact Nat.le_refl _
  | _ => exact Nat.le_refl _

/-- An event reaches the buffer of everybody who holds a subscription and has room for it. -/
theorem pending_publish (sound : session.Sound) (event : α) (id : Nat)
    : (session.bus.publish event).pending id
      = if id ∈ session.held ∧ (session.bus.pending id).length < session.bus.capacity then
          session.bus.pending id ++ [event]
        else session.bus.pending id := by
  have after := sound.publish event
  by_cases held : id ∈ session.held
  · obtain ⟨subscriber, member, live, rfl⟩ := sound.mem_held_iff.mp held
    have there : session.bus.offer event subscriber
        ∈ (session.step (.publish event)).bus.subscribers :=
      List.mem_map_of_mem (List.mem_filter.mpr ⟨member, live⟩)
    have queue := after.pending_of_mem there
    rw [offer_id, pending_offer, ← sound.pending_of_mem member] at queue
    simp only [held, true_and]
    exact queue
  · simp only [held, false_and, if_false, sound.pending_of_not_held held]
    exact after.pending_of_not_held held

/-- Nobody who has not subscribed holds a subscription. -/
theorem Sound.not_held_of_fresh (sound : session.Sound) (fresh : session.bus.nextId ≤ id)
    : id ∉ session.held :=
  fun held => Nat.not_lt_of_le fresh (sound.lt_nextId held)

theorem nextId_run (steps : List (Step α))
    : session.bus.nextId ≤ (session.run steps).bus.nextId := by
  induction steps generalizing session with
  | nil => exact Nat.le_refl _
  | cons first rest ih => exact Nat.le_trans (nextId_step first) ih

/-- Only giving it up ends a subscription. -/
theorem mem_held_step (held : id ∈ session.held) {step : Step α} (keeps : step ≠ .unsubscribe id)
    : id ∈ (session.step step).held := by
  cases step with
  | publish event => exact held
  | subscribe => exact List.mem_append_left _ held
  | unsubscribe given =>
      have other : id ≠ given := fun same => keeps (same ▸ rfl)
      exact List.mem_filter.mpr ⟨held, by simpa using other⟩
  | next taker =>
      rcases session.bus.next?_cases taker with ⟨_, nothing⟩ | ⟨event, rest, _, found⟩
      · simpa only [Session.step, nothing] using held
      · simpa only [Session.step, found] using held
  | drain taker => exact held

/-- A subscription that was given up is not taken up again. -/
theorem not_mem_held_step (known : id < session.bus.nextId) (gone : id ∉ session.held)
    (step : Step α) : id ∉ (session.step step).held := by
  cases step with
  | publish event => exact gone
  | subscribe =>
      intro held
      rcases List.mem_append.mp held with old | new
      · exact gone old
      · exact Nat.ne_of_lt known (List.mem_singleton.mp new)
  | unsubscribe given => exact fun held => gone (List.mem_filter.mp held).1
  | next taker =>
      rcases session.bus.next?_cases taker with ⟨_, nothing⟩ | ⟨event, rest, _, found⟩
      · simpa only [Session.step, nothing] using gone
      · simpa only [Session.step, found] using gone
  | drain taker => exact gone

/-- A step that is no event takes nobody off the list, and only a subscription adds to it. -/
theorem listed_step {step : Step α} (silent : step.event? = none) (other : step ≠ .subscribe)
    : (session.step step).listed = session.listed := by
  cases step with
  | publish event => cases silent
  | subscribe => exact absurd rfl other
  | unsubscribe given => exact ids_map (fun subscriber => by split <;> rfl) _
  | next taker =>
      rcases session.bus.next?_cases taker with ⟨_, nothing⟩ | ⟨event, rest, _, found⟩
      · simp only [Session.step, nothing]
      · simp only [Session.step, found]
        exact ids_map (fun subscriber => by split <;> rfl) _
  | drain taker => exact ids_map (fun subscriber => by split <;> rfl) _

end Session

end Breakwater.Bus
