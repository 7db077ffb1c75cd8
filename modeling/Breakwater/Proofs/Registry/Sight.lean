import Breakwater.Proofs.Gateway.Unplaced
import Breakwater.Proofs.Registry.Session

/-! What shows of a registry to those who use one key of it: all of that key's dependencies, but for
the places that these and their timeouts have among those of other keys. What is done with the key
changes this as if there were no other keys, and what is done with other keys does not change it.
-/

namespace Breakwater

variable {α : Type}

-----------------------------------------------------------------------------------------
-- The elements with one key
-----------------------------------------------------------------------------------------

section

variable {β : Type} {entries : List β} {key : String} {keyOf : β → String} {index : Nat}
  {old new : β}

/-- An element stands among those with its key after as many as come before it. -/
theorem getElem?_filter_countBefore (found : entries[index]? = some old) (own : keyOf old = key)
    : (entries.filter (keyOf · == key))[(entries.map keyOf).countBefore key index]? = some old := by
  induction entries generalizing index with
  | nil => cases found
  | cons first rest ih =>
      cases index with
      | zero =>
          obtain rfl := Option.some.inj found
          simp [own]
      | succ index =>
          have later := ih found
          by_cases same : keyOf first = key
          · simpa [same] using later
          · simpa [same] using later

/-- An element with the key is replaced by another one with that key. -/
theorem filter_set_of_key (found : entries[index]? = some old) (own : keyOf old = key)
    (same : keyOf new = key)
    : (entries.set index new).filter (keyOf · == key)
      = (entries.filter (keyOf · == key)).set ((entries.map keyOf).countBefore key index) new := by
  induction entries generalizing index with
  | nil => cases found
  | cons first rest ih =>
      cases index with
      | zero =>
          obtain rfl := Option.some.inj found
          simp [own, same]
      | succ index =>
          have later := ih found
          by_cases head : keyOf first = key
          · simpa [head] using later
          · simpa [head] using later

/-- An element with another key is replaced by another one with that key. -/
theorem filter_set_of_other (found : entries[index]? = some old) (other : keyOf old ≠ key)
    (same : keyOf new = keyOf old)
    : (entries.set index new).filter (keyOf · == key) = entries.filter (keyOf · == key) := by
  induction entries generalizing index with
  | nil => cases found
  | cons first rest ih =>
      cases index with
      | zero =>
          obtain rfl := Option.some.inj found
          simp [same, other]
      | succ index =>
          have later := ih found
          by_cases head : keyOf first = key
          · simpa [head] using later
          · simpa [head] using later

end

namespace Registry

-----------------------------------------------------------------------------------------
-- One key
-----------------------------------------------------------------------------------------

/-- What shows of a registry to the users of one key. -/
structure Sight (α : Type) where
  clock : Clock
  /-- Whether the timer was stopped. -/
  isShutdown : Bool
  /-- Which of the key's dependencies is the one that is registered. -/
  current : Option Nat
  /-- The dependencies that were built for the key, in order. -/
  dependencies : List (Dependency α)
  /-- The timeouts that are armed, in the order in which they are to fire: when each is due, of
  which of the dependencies it is, and of which command.
  -/
  agenda : List (Nat × Nat × Nat)

namespace Sight

variable (sight : Sight α)

/-- One of the dependencies, with the clock and a timer that knows of no others. -/
def gateway (dependency : Dependency α) : Gateway α where
  clock := sight.clock
  timer := .blank sight.isShutdown
  dependency := dependency

/-- A dependency is put back after it has worked on one of its commands. -/
def put (turn number : Nat) (before after : Gateway α) : Sight α :=
  { sight with
    dependencies := sight.dependencies.set turn after.dependency.unplaced
    agenda := retime (before.isArmed number) (after.isArmed number)
      before.dependency.config.executionTimeout (turn, number) sight.agenda }

/-- Take a step at one of the dependencies. -/
def act (turn : Nat) (step : Gateway.Step α) : Sight α :=
  match sight.dependencies[turn]? with
  | none => sight
  | some dependency =>
      let before := sight.gateway dependency
      sight.put turn (step.subject before) before (before.step step)

/-- The timeout of a command has fired. -/
def lapse (turn number : Nat) : Sight α :=
  match sight.dependencies[turn]? with
  | none => sight
  | some dependency =>
      let before := sight.gateway dependency
      sight.put turn number before (before.onCommand number Call.timedOut)

variable {sight}

/-- Two sights are the same, or each has timeouts that are due at the same moment. -/
def Agrees (one other : Sight α) : Prop :=
  one = other ∨ ¬Untied one.agenda ∧ ¬Untied other.agenda

theorem Agrees.eq_of_left {one other : Sight α} (agrees : one.Agrees other)
    (untied : Untied one.agenda) : one = other :=
  agrees.resolve_right fun tied => tied.1 untied

theorem Agrees.eq_of_right {one other : Sight α} (agrees : one.Agrees other)
    (untied : Untied other.agenda) : one = other :=
  agrees.resolve_right fun tied => tied.2 untied

/-- Where the timeouts are in the timer does not show. -/
theorem put_congr {turn number : Nat} {before after other later : Gateway α}
    (first : before.unplaced = other.unplaced) (second : after.unplaced = later.unplaced)
    : sight.put turn number before after = sight.put turn number other later := by
  have was : before.isArmed number = other.isArmed number := by
    rw [← before.isArmed_unplaced, first, other.isArmed_unplaced]
  have is : after.isArmed number = later.isArmed number := by
    rw [← after.isArmed_unplaced, second, later.isArmed_unplaced]
  have config : before.dependency.config = other.dependency.config :=
    congrArg (·.dependency.config) first
  have dependency : after.dependency.unplaced = later.dependency.unplaced :=
    congrArg (·.dependency) second
  rw [put, put, was, is, config, dependency]

end Sight

namespace Session

variable (session : Session α)

/-- Where a listener stands, if it is one of the key's. -/
def seat? (keys : List String) (key : String) (listener : CommandRef) : Option (Nat × Nat) :=
  if keys[listener.dependency]? = some key then
    some (keys.countBefore key listener.dependency, listener.command)
  else none

/-- What shows of a registry to the users of one key. -/
def sight (key : String) : Sight α where
  clock := session.fleet.clock
  isShutdown := session.timer.isShutdown
  current := (session.registry.get? key).map fun id => session.keys.countBefore key id
  dependencies := (session.fleet.dependencies.filter (·.key == key)).map Dependency.unplaced
  agenda := seated (seat? session.keys key) session.timer.agenda

variable {session} {key : String} {id number : Nat} {dependency : Dependency α}
  {after : Gateway α} {step : Gateway.Step α}

/-- A listener has a seat of its own. -/
theorem seat?_injective {keys : List String} {one other : CommandRef} {seat : Nat × Nat}
    (first : seat? keys key one = some seat) (second : seat? keys key other = some seat)
    : one = other := by
  obtain ⟨id, number⟩ := one
  obtain ⟨place, command⟩ := other
  simp only [seat?] at first second
  split at first
  · rename_i found
    split at second
    · rename_i there
      obtain rfl := Option.some.inj first
      obtain ⟨turn, rfl⟩ := Prod.mk.inj (Option.some.inj second)
      obtain ⟨inside, named⟩ := List.getElem?_eq_some_iff.mp found
      obtain ⟨within, called⟩ := List.getElem?_eq_some_iff.mp there
      have one := List.idxOfNth_countBefore_of_lt_length_of_beq (beq_iff_eq.mpr named)
      have two := List.idxOfNth_countBefore_of_lt_length_of_beq (beq_iff_eq.mpr called)
      rw [turn] at two
      rw [← one, two]
    · cases second
  · cases first

/-- A listener of one of the key's dependencies has a seat. -/
theorem seat?_eq (found : session.fleet.dependencies[id]? = some dependency)
    (own : dependency.key = key) (number : Nat)
    : seat? session.keys key ⟨id, number⟩ = some (session.keys.countBefore key id, number) := by
  refine if_pos ?_
  rw [Session.keys, List.getElem?_map, found, ← own]
  rfl

theorem seat?_of_other (found : session.fleet.dependencies[id]? = some dependency)
    (other : dependency.key ≠ key) (number : Nat) : seat? session.keys key ⟨id, number⟩ = none := by
  refine if_neg fun named => ?_
  rw [Session.keys, List.getElem?_map, found] at named
  exact other (Option.some.inj named)

theorem keys_put (found : session.fleet.dependencies[id]? = some dependency)
    (same : after.dependency.key = dependency.key)
    : (session.put id after).keys = session.keys := by
  show (session.fleet.dependencies.set id after.dependency).map (·.key) = _
  rw [List.map_set, same, ← List.map_set]
  obtain ⟨inside, rfl⟩ := List.getElem?_eq_some_iff.mp found
  rw [List.set_getElem_self]
  rfl

section

variable (sound : session.Sound) (found : session.fleet.dependencies[id]? = some dependency)
  (onward : Gateway.Onward (session.gateway dependency) step number after)
include sound found onward

theorem Sound.agenda_put
    : Retimed ((session.gateway dependency).isArmed number) (after.isArmed number)
        dependency.config.executionTimeout ⟨id, number⟩ session.timer.agenda
        (session.put id after).timer.agenda := by
  rw [sound.timer_put found onward, ← (sound.placed id dependency found).1]
  exact onward.retimes.agenda (sound.timed id dependency found) sound.listed
    (sound.patient id dependency found)

/-- What a dependency of the key makes of the sight of that. Among timeouts that are due at the same
moment, a new one may come to stand anywhere.
-/
theorem Sound.sight_put_cases (own : dependency.key = key)
    : let shown := (session.sight key).put (session.keys.countBefore key id) number
        (session.gateway dependency) after
      ∃ agenda,
        Retimed ((session.gateway dependency).isArmed number) (after.isArmed number)
          dependency.config.executionTimeout (session.keys.countBefore key id, number)
          (session.sight key).agenda agenda
        ∧ (session.put id after).sight key = { shown with agenda } := by
  have same : after.dependency.key = dependency.key := congrArg Settings.key onward.settings
  have keys := keys_put found same
  have seat : seat? session.keys key ⟨id, number⟩
      = some (session.keys.countBefore key id, number) := seat?_eq found own number
  have dependencies : (session.put id after).fleet.dependencies.filter (·.key == key)
      = (session.fleet.dependencies.filter (·.key == key)).set (session.keys.countBefore key id)
          after.dependency :=
    filter_set_of_key found own (same.trans own)
  have stopped : (session.put id after).timer.isShutdown = session.timer.isShutdown := by
    rw [sound.timer_put found onward]
    exact onward.retimes.isShutdown
  refine ⟨_, (sound.agenda_put found onward).seated seat
    fun other taken => seat?_injective taken seat, ?_⟩
  simp only [sight, Sight.put, stopped, dependencies, List.map_set, keys]
  rfl

theorem Sound.sight_put (own : dependency.key = key)
    : ((session.put id after).sight key).Agrees
        ((session.sight key).put (session.keys.countBefore key id) number
          (session.gateway dependency) after) := by
  obtain ⟨agenda, retimed, shown⟩ := sound.sight_put_cases found onward own
  rw [shown]
  by_cases untied : Untied agenda
  · left
    rw [retimed.eq_retime untied]
    rfl
  · exact .inr ⟨untied, mt retimed.untied_iff.mpr untied⟩

theorem Sound.sight_put_of_unarmed (own : dependency.key = key)
    (unarmed : (session.gateway dependency).isArmed number = false → after.isArmed number = false)
    : (session.put id after).sight key
      = (session.sight key).put (session.keys.countBefore key id) number
          (session.gateway dependency) after := by
  obtain ⟨agenda, retimed, shown⟩ := sound.sight_put_cases found onward own
  rw [shown, retimed.eq_retime_of_unarmed unarmed]
  rfl

/-- A dependency of another key makes nothing of it. -/
theorem Sound.sight_put_of_other (other : dependency.key ≠ key)
    : (session.put id after).sight key = session.sight key := by
  have same : after.dependency.key = dependency.key := congrArg Settings.key onward.settings
  have keys := keys_put found same
  have seat := seat?_of_other found other number
  have dependencies : (session.put id after).fleet.dependencies.filter (·.key == key)
      = session.fleet.dependencies.filter (·.key == key) :=
    filter_set_of_other found other same
  have stopped : (session.put id after).timer.isShutdown = session.timer.isShutdown := by
    rw [sound.timer_put found onward]
    exact onward.retimes.isShutdown
  have agenda := (sound.agenda_put found onward).seated_of_none seat
  simp only [sight, stopped, dependencies, keys, agenda]
  rfl

end

-----------------------------------------------------------------------------------------
-- Dependencies that go on
-----------------------------------------------------------------------------------------

theorem dependencies_sight (found : session.fleet.dependencies[id]? = some dependency)
    (own : dependency.key = key)
    : (session.sight key).dependencies[session.keys.countBefore key id]?
      = some dependency.unplaced := by
  show ((session.fleet.dependencies.filter (·.key == key)).map Dependency.unplaced)[_]? = _
  rw [List.getElem?_map, Session.keys, getElem?_filter_countBefore found own]
  rfl

/-- What a dependency of the key makes of a step, as far as it shows. -/
theorem act_sight (found : session.fleet.dependencies[id]? = some dependency)
    (own : dependency.key = key) (isLocal : step.isLocal)
    : (session.sight key).act (session.keys.countBefore key id) step
      = (session.sight key).put (session.keys.countBefore key id)
          (step.subject (session.gateway dependency)) (session.gateway dependency)
          ((session.gateway dependency).step step) := by
  have blank : (session.sight key).gateway dependency.unplaced
      = (session.gateway dependency).unplaced := rfl
  rw [Sight.act, dependencies_sight found own]
  simp only [blank, Gateway.subject_unplaced]
  exact Sight.put_congr (Gateway.unplaced_unplaced _) (Gateway.unplaced_step _ isLocal).symm

section

variable (sound : session.Sound) (found : session.fleet.dependencies[id]? = some dependency)
  (own : dependency.key = key)
include sound found own

/-- A dependency of the key takes a step, as if there were no others. -/
theorem Sound.sight_act (isLocal : step.isLocal)
    : ((session.act id step).sight key).Agrees
        ((session.sight key).act (session.keys.countBefore key id) step) := by
  rw [sound.act_eq found, act_sight found own isLocal]
  exact sound.sight_put found (sound.onward found (Gateway.Step.isOwn_of_isLocal isLocal)) own

/-- Only a submission can make a tie. -/
theorem Sound.sight_act_of_not_submit (isLocal : step.isLocal)
    (other : ∀ number, step ≠ .submit number)
    : (session.act id step).sight key
      = (session.sight key).act (session.keys.countBefore key id) step := by
  have onward := sound.onward found (Gateway.Step.isOwn_of_isLocal isLocal)
  rw [sound.act_eq found, act_sight found own isLocal]
  exact sound.sight_put_of_unarmed found onward own (onward.retimes.not_armed (other _))

/-- A timeout of the key fires, as if there were no others. -/
theorem Sound.sight_lapse (running : session.timer.isShutdown = false) {handle : TimerHandle}
    (holds : session.timer.Holds ⟨id, number⟩ handle)
    : (session.act id (.timeoutFired number)).sight key
      = (session.sight key).lapse (session.keys.countBefore key id) number := by
  have isOwn : (Gateway.Step.timeoutFired number : Gateway.Step α).isOwn := rfl
  have onward := sound.onward found isOwn
  have other : (Gateway.Step.timeoutFired number : Gateway.Step α) ≠ .submit number := nofun
  have blank : (session.sight key).gateway dependency.unplaced
      = (session.gateway dependency).unplaced := rfl
  have timed := sound.timed id dependency found
  have waits : session.timer.Holds ⟨dependency.id, number⟩ handle := by
    rw [(sound.placed id dependency found).1]
    exact holds
  rw [sound.act_eq found,
    sound.sight_put_of_unarmed found onward own (onward.retimes.not_armed other), Sight.lapse,
    dependencies_sight found own]
  simp only [blank]
  exact Sight.put_congr (Gateway.unplaced_unplaced _).symm
    (Gateway.unplaced_of_eq (timed.unplaced_timeoutFired running waits))

end

theorem Sound.sight_act_of_other (sound : session.Sound)
    (found : session.fleet.dependencies[id]? = some dependency) (other : dependency.key ≠ key)
    (own : step.isOwn)
    : (session.act id step).sight key = session.sight key := by
  rw [sound.act_eq found]
  exact sound.sight_put_of_other found (sound.onward found own) other

end Session

end Registry

end Breakwater
