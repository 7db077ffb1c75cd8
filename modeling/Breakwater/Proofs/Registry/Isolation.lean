import Mathlib.Data.List.Infix
import Breakwater.Proofs.Registry.Sight

/-! Keys are isolated: what shows of a registry to the users of one key is what would show of it if
the other keys had never been used, although all keys share the clock and the timer. What they have
to share is the timer's thread. Its turns that go to other keys are lost to this one, so that a
fallback of theirs can keep its timeouts waiting.
-/

namespace Breakwater

variable {α : Type}

/-- Whether a fallback keeps the timer's thread busy does not depend on where timeouts are placed.
-/
@[simp]
theorem Dependency.occupiesTimer_unplaced (dependency : Dependency α)
    : dependency.unplaced.occupiesTimer = dependency.occupiesTimer := by
  simp only [occupiesTimer, unplaced, List.any_map]
  rfl

namespace Registry

-----------------------------------------------------------------------------------------
-- One key alone
-----------------------------------------------------------------------------------------

/-- The key that a step names, unless it is one of what all keys share. -/
def Session.Step.key? : Session.Step α → Option String
  | .getOrCreate key _ | .remove key | .submit key _ => some key
  | .act address _ => some address.key
  | _ => none

/-- How many entries of an agenda are due. -/
def dues {β : Type} (entries : List (Nat × β)) : Nat := entries.countP (·.1 < 1)

/-- What fires leaves fewer registrations that are due. -/
theorem dues_filter_lt {β : Type} [DecidableEq β] (listener : β) (rest : List (Nat × β))
    : dues (((0, listener) :: rest).filter (·.2 ≠ listener)) < dues ((0, listener) :: rest) := by
  have fewer : dues (rest.filter (·.2 ≠ listener)) ≤ dues rest :=
    List.Sublist.countP_le List.filter_sublist
  rw [List.filter_cons_of_neg (by simp), dues, dues, List.countP_cons_of_pos (by simp)]
  exact Nat.lt_succ_of_le fewer

namespace Sight

variable (sight : Sight α) (key : String)

/-- Whether the timeout of a command is armed. -/
def isArmed (turn number : Nat) : Bool :=
  sight.dependencies[turn]?.any fun dependency => (sight.gateway dependency).isArmed number

/-- Whether the timer's thread runs one of the key's fallbacks. -/
def isBusy : Bool := sight.dependencies.any Dependency.occupiesTimer

/-- Whether no timeout is armed that should have fired. -/
def isSettled : Bool := sight.isShutdown || dues sight.agenda == 0

/-- The timer's thread has a turn, and nothing to do for others. -/
def tick : Sight α :=
  match sight.isShutdown || sight.isBusy, sight.agenda with
  | false, (0, turn, number) :: _ => sight.lapse turn number
  | _, _ => sight

/-- The dependency that is registered, built from the settings if there is none. -/
def open? (config : CommandConfig) : Option (Nat × Sight α) :=
  match sight.current with
  | some turn => some (turn, sight)
  | none =>
      match ((Session.builder key config).build 0 0 sight.clock.now).map Dependency.unplaced with
      | .error _ => none
      | .ok fresh =>
          some (sight.dependencies.length, { sight with
            current := some sight.dependencies.length
            dependencies := sight.dependencies ++ [fresh] })

/-- Submit a new command to a dependency. -/
def submitTo (turn : Nat) : Sight α :=
  match sight.dependencies[turn]? with
  | none => sight
  | some dependency =>
      (sight.act turn (.create true)).act turn (.submit dependency.commands.length)

theorem submitTo_of_found {turn : Nat} {dependency : Dependency α}
    (found : sight.dependencies[turn]? = some dependency)
    : sight.submitTo turn
      = (sight.act turn (.create true)).act turn (.submit dependency.commands.length) := by
  rw [submitTo, found]

/-- What a step of the key's makes of the sight, without any other keys. -/
def step : Session.Step α → Sight α
  | .advance millis => { sight with clock := sight.clock.advance millis }
  | .setClock millis => { sight with clock := sight.clock.set millis }
  | .elapse millis =>
      { sight with agenda := sight.agenda.map fun entry => (entry.1 - millis, entry.2) }
  | .tick => sight.tick
  | .shutdownTimer => { sight with isShutdown := true }
  | .getOrCreate _ config =>
      match sight.open? key config with
      | none => sight
      | some (_, opened) => opened
  | .remove _ =>
      match sight.current with
      | none => sight
      | some turn => { sight.act turn .shutdownPool with current := none }
  | .submit _ config =>
      match sight.open? key config with
      | none => sight
      | some (turn, opened) => opened.submitTo turn
  | .act address step => if step.isLocal then sight.act address.turn step else sight

end Sight

namespace Session

variable {session : Session α} {key : String} {id number : Nat} {dependency : Dependency α}
  {step : Gateway.Step α}

-----------------------------------------------------------------------------------------
-- The timer's thread
-----------------------------------------------------------------------------------------

/-- Whether the timer's thread is with other keys: in the middle of one of their fallbacks, or about
to fire one of their timeouts.
-/
def isElsewhere (session : Session α) (key : String) : Bool :=
  (session.fleet.dependencies.any fun dependency =>
    dependency.key != key && dependency.occupiesTimer)
  || session.next?.any fun listener => session.keys[listener.dependency]? != some key

/-- Whether a step is one of the key's, or one of what all keys share. A turn of the timer's thread
is one of theirs that have it.
-/
def concerns (session : Session α) (key : String) (step : Step α) : Bool :=
  match step with
  | .tick => !session.isElsewhere key
  | _ => step.key?.all (· == key)

/-- A step that concerns a key names no other one. -/
theorem named_of_concerns {step : Step α} (ours : session.concerns key step)
    : step.key?.all (· == key) := by
  cases step <;> first | rfl | exact ours

/-- A dependency stands where it stood after its step. -/
theorem Sound.found_act (sound : session.Sound)
    (found : session.fleet.dependencies[id]? = some dependency) (own : step.isOwn)
    : ((session.act id step).fleet.dependencies[id]?
        = some ((session.gateway dependency).step step).dependency)
      ∧ ((session.gateway dependency).step step).dependency.key = dependency.key
      ∧ (session.act id step).keys = session.keys := by
  have same : ((session.gateway dependency).step step).dependency.key = dependency.key :=
    congrArg Settings.key (sound.onward found own).settings
  rw [sound.act_eq found]
  refine ⟨?_, same, keys_put found same⟩
  show (session.fleet.dependencies.set id _)[id]? = _
  rw [getElem?_set_of_found found, if_pos rfl]

/-- What a dependency does by itself leaves the keys as they are. -/
theorem Sound.keys_act (sound : session.Sound) (id : Nat) (own : step.isOwn)
    : (session.act id step).keys = session.keys := by
  cases found : session.fleet.dependencies[id]? with
  | none => rw [act_of_none found]
  | some dependency => exact (sound.found_act found own).2.2

/-- A timeout is armed while the shared timer holds a registration for it. -/
theorem Sound.isArmed_iff_holds (sound : session.Sound)
    (found : session.fleet.dependencies[id]? = some dependency) (number : Nat)
    : (session.gateway dependency).isArmed number
      ↔ ∃ handle, session.timer.Holds ⟨id, number⟩ handle := by
  have timed := sound.timed id dependency found
  rw [← (sound.placed id dependency found).1]
  constructor
  · intro armed
    obtain ⟨handle, armed⟩ := Option.isSome_iff_exists.mp armed
    exact ⟨handle, (timed.armed number handle).mpr armed⟩
  · rintro ⟨handle, holds⟩
    exact Option.isSome_iff_exists.mpr ⟨handle, (timed.armed number handle).mp holds⟩

/-- Who is on the agenda waits for one of the dependencies. -/
theorem Sound.waits_of_mem_agenda (sound : session.Sound) {due : Nat} {listener : CommandRef}
    (member : (due, listener) ∈ session.timer.agenda)
    : (∃ dependency, session.fleet.dependencies[listener.dependency]? = some dependency)
      ∧ ∃ handle, session.timer.Holds listener handle := by
  obtain ⟨_, _, _, _, holds⟩ := Timer.mem_agenda_iff.mp member
  exact ⟨⟨_, List.getElem?_eq_getElem (sound.bounded _ _ holds)⟩, _, holds⟩

/-- A tick fires the timeout that is next, if there is one. -/
theorem tick_of_next? {listener : CommandRef} (next : session.next? = some listener)
    : session.tick = session.act listener.dependency (.timeoutFired listener.command) := by
  rw [tick, next]

/-- A tick with nothing to fire changes nothing. -/
theorem tick_of_next?_eq_none (next : session.next? = none) : session.tick = session := by
  rw [tick, next]

/-- Where nothing fires, it does not help to wait. -/
theorem ticks_of_next?_eq_none (next : session.next? = none) (most : Nat)
    : session.run (List.replicate most .tick) = session := by
  induction most with
  | zero => rfl
  | succ most ih =>
      rw [List.replicate_succ, run_past, step, tick_of_next?_eq_none next]
      exact ih

/-- A timeout fires: the timer runs, its thread is free, and nothing is due earlier. -/
structure Fires (session : Session α) (listener : CommandRef) : Prop where
  free : session.isBusy = false
  running : session.timer.isShutdown = false
  found : ∃ dependency, session.fleet.dependencies[listener.dependency]? = some dependency
  waits : ∃ handle, session.timer.Holds listener handle
  first : ∃ rest, session.timer.agenda = (0, listener) :: rest

/-- The timeout that is next fires. -/
theorem Sound.fires (sound : session.Sound) {listener : CommandRef}
    (next : session.next? = some listener) : session.Fires listener := by
  rw [next?] at next
  split at next
  · cases next
  · rename_i free
    obtain ⟨⟨_, fired⟩, answer, rfl⟩ := Option.map_eq_some_iff.mp next
    obtain ⟨due, rest, agenda, early, running⟩ := Timer.agenda_of_fireNext?_eq_some answer
    obtain rfl : due = 0 := Nat.lt_one_iff.mp early
    obtain ⟨found, waits⟩ := sound.waits_of_mem_agenda (agenda ▸ List.mem_cons_self)
    exact ⟨Bool.not_eq_true _ ▸ free, running, found, waits, rest, agenda⟩

/-- If a free thread fires nothing, its timer was stopped, or nothing is due. -/
theorem Sound.quiet (sound : session.Sound) (next : session.next? = none)
    (free : session.isBusy = false)
    : session.timer.isShutdown = true ∨ dues session.timer.agenda = 0 := by
  have nothing : session.timer.fireNext? 1 = none := by
    rw [next?, if_neg (by simp [free]), Option.map_eq_none_iff] at next
    exact next
  cases stopped : session.timer.isShutdown with
  | true => exact .inl rfl
  | false =>
      rw [dues, List.countP_eq_zero]
      refine .inr fun entry member => ?_
      have late := sound.listed.agenda_of_fireNext?_eq_none stopped nothing member
      simpa [Nat.one_le_iff_ne_zero] using late

/-- What fires is off the agenda, and nothing else is. -/
theorem Sound.agenda_tick (sound : session.Sound) {listener : CommandRef}
    (next : session.next? = some listener)
    : session.tick.timer.agenda = session.timer.agenda.filter (·.2 ≠ listener) := by
  obtain ⟨id, number⟩ := listener
  obtain ⟨_, running, ⟨dependency, found⟩, ⟨handle, holds⟩, _⟩ := sound.fires next
  have found : session.fleet.dependencies[id]? = some dependency := found
  have isOwn : (Gateway.Step.timeoutFired number : Gateway.Step α).isOwn := rfl
  have waits : session.timer.Holds ⟨dependency.id, number⟩ handle := by
    rw [(sound.placed id dependency found).1]
    exact holds
  have was : (session.gateway dependency).isArmed number = true :=
    (sound.isArmed_iff_holds found number).mpr ⟨handle, holds⟩
  have is : ((session.gateway dependency).step (.timeoutFired number)).isArmed number = false :=
    (sound.kempt id dependency found).isArmed_timeoutFired (sound.timed id dependency found) running
      waits
  have retimed : Retimed ((session.gateway dependency).isArmed number)
      (((session.gateway dependency).step (.timeoutFired number)).isArmed number) _
      ⟨id, number⟩ session.timer.agenda _ :=
    sound.agenda_put found (sound.onward found isOwn)
  rw [was, is] at retimed
  rw [tick_of_next? next, sound.act_eq found]
  exact retimed.eq_retime_of_unarmed fun _ => rfl

/-- The timer's thread goes on until it is in a fallback, or nothing that is due is left. -/
theorem Sound.quiet_ticks (sound : session.Sound) (most : Nat)
    (all : dues session.timer.agenda ≤ most)
    : let after := session.run (List.replicate most .tick)
      after.isBusy = true ∨ after.timer.isShutdown = true ∨ dues after.timer.agenda = 0 := by
  induction most generalizing session with
  | zero => exact .inr (.inr (Nat.le_zero.mp all))
  | succ most ih =>
      cases next : session.next? with
      | none =>
          intro after
          have still : after = session := ticks_of_next?_eq_none next _
          rw [still]
          cases busy : session.isBusy with
          | true => exact .inl rfl
          | false => exact .inr (sound.quiet next busy)
      | some listener =>
          obtain ⟨rest, agenda⟩ := (sound.fires next).first
          have fewer := dues_filter_lt listener rest
          rw [← agenda, ← sound.agenda_tick next] at fewer
          exact ih sound.tick (Nat.le_of_lt_succ (Nat.lt_of_lt_of_le fewer all))

/-- Nothing is due of the key if nothing is due at all. -/
theorem dues_sight (session : Session α) (key : String) (none : dues session.timer.agenda = 0)
    : dues (session.sight key).agenda = 0 := by
  rw [dues, List.countP_eq_zero] at none ⊢
  intro entry member
  obtain ⟨waiting, listed, seated⟩ := List.mem_filterMap.mp member
  obtain ⟨_, _, rfl⟩ := Option.map_eq_some_iff.mp seated
  exact none waiting listed

/-- What fires first at all fires first of the key's. -/
theorem agenda_sight_of_first (found : session.fleet.dependencies[id]? = some dependency)
    (own : dependency.key = key) {due : Nat} {rest : List (Nat × CommandRef)}
    (agenda : session.timer.agenda = (due, ⟨id, number⟩) :: rest)
    : (session.sight key).agenda
      = (due, session.keys.countBefore key id, number)
        :: seated (seat? session.keys key) rest := by
  show seated _ session.timer.agenda = _
  rw [agenda, seated, List.filterMap_cons, seat?_eq found own number]
  rfl

/-- Where no other key has the thread, it is as busy as the key has made it. -/
theorem isBusy_sight (here : session.isElsewhere key = false)
    : (session.sight key).isBusy = session.isBusy := by
  have others := (Bool.or_eq_false_iff.mp here).1
  rw [Sight.isBusy, sight, List.any_map, List.any_filter, isBusy, Bool.eq_iff_iff, List.any_eq_true,
    List.any_eq_true]
  rw [List.any_eq_false] at others
  refine exists_congr fun dependency => and_congr_right fun member => ?_
  have other := others dependency member
  simp only [Function.comp_apply, Dependency.occupiesTimer_unplaced, Bool.and_eq_true, bne_iff_ne,
    beq_iff_eq] at other ⊢
  refine and_iff_right_of_imp fun occupied => ?_
  exact Classical.byContradiction fun apart => other ⟨apart, occupied⟩

/-- A turn of the timer's thread that no other key has shows as if there were none. -/
theorem Sound.sight_tick (sound : session.Sound) (here : session.isElsewhere key = false)
    : session.tick.sight key = (session.sight key).tick := by
  have busy := isBusy_sight here
  rw [Sight.tick, busy]
  cases next : session.next? with
  | none =>
      rw [tick_of_next?_eq_none next]
      split
      · rename_i idle agenda
        obtain ⟨running, free⟩ := Bool.or_eq_false_iff.mp idle
        rcases sound.quiet next free with stopped | none
        · exact absurd (running.symm.trans stopped) nofun
        · have none := dues_sight session key none
          simp [agenda, dues] at none
      · rfl
  | some listener =>
      obtain ⟨id, number⟩ := listener
      obtain ⟨free, running, ⟨dependency, found⟩, ⟨handle, holds⟩, rest, agenda⟩ := sound.fires next
      have found : session.fleet.dependencies[id]? = some dependency := found
      have own : dependency.key = key := by
        have named := (Bool.or_eq_false_iff.mp here).2
        rw [next, Session.keys, Option.any_some, List.getElem?_map, found] at named
        simpa using named
      have runs : (session.sight key).isShutdown = false := running
      rw [tick_of_next? next, free, runs, agenda_sight_of_first found own agenda]
      exact sound.sight_lapse found own running holds

/-- A turn that another key has does not show. -/
theorem Sound.sight_tick_of_elsewhere (sound : session.Sound)
    (elsewhere : session.isElsewhere key = true) : session.tick.sight key = session.sight key := by
  cases next : session.next? with
  | none => rw [tick_of_next?_eq_none next]
  | some listener =>
      obtain ⟨id, number⟩ := listener
      obtain ⟨free, _, ⟨dependency, found⟩, _⟩ := sound.fires next
      have found : session.fleet.dependencies[id]? = some dependency := found
      have other : dependency.key ≠ key := by
        rcases Bool.or_eq_true_iff.mp elsewhere with busy | named
        · obtain ⟨held, member, occupied⟩ := List.any_eq_true.mp busy
          rw [isBusy, List.any_eq_false] at free
          exact absurd (Bool.and_eq_true_iff.mp occupied).2 (free held member)
        · rw [next, Session.keys, Option.any_some, List.getElem?_map, found] at named
          simpa using named
      rw [tick_of_next? next]
      exact sound.sight_act_of_other found other rfl

-----------------------------------------------------------------------------------------
-- Dependencies that are built and forgotten
-----------------------------------------------------------------------------------------

/-- What is counted before a place does not change when more is added after it. -/
theorem countBefore_append {keys : List String} {id : Nat} (inside : id ≤ keys.length)
    (key : String) (more : List String)
    : (keys ++ more).countBefore key id = keys.countBefore key id := by
  rw [List.countBefore_eq_count_take, List.countBefore_eq_count_take,
    List.take_append_of_le_length inside]

/-- A new dependency adds its key behind the others. -/
theorem keys_grow (other : String) (fresh : Dependency α)
    : (session.grow other fresh).keys = session.keys ++ [fresh.key] :=
  List.map_append

/-- There is one key for each dependency. -/
theorem length_keys : session.keys.length = session.fleet.dependencies.length := List.length_map _

section

variable (sound : session.Sound) (other : String) (fresh : Dependency α)
include sound

/-- Whoever waits keeps his seat when a dependency is built. -/
theorem Sound.agenda_grow
    : seated (seat? (session.grow other fresh).keys key) (session.grow other fresh).timer.agenda
      = seated (seat? session.keys key) session.timer.agenda := by
  refine List.filterMap_congr fun entry member => ?_
  obtain ⟨⟨_, found⟩, _⟩ := sound.waits_of_mem_agenda member
  have inside : entry.2.dependency < session.keys.length :=
    length_keys ▸ (List.getElem?_eq_some_iff.mp found).1
  simp only [seat?, keys_grow, List.getElem?_append_left inside,
    countBefore_append (Nat.le_of_lt inside)]

/-- Which dependency a key has now is the same after another key got one. -/
theorem Sound.current_grow (apart : key ≠ other)
    : ((session.grow other fresh).registry.get? key).map
        (fun id => (session.grow other fresh).keys.countBefore key id)
      = (session.registry.get? key).map fun id => session.keys.countBefore key id := by
  have registered : (session.grow other fresh).registry.get? key = session.registry.get? key := by
    refine (lookup_insertEntry _ _ _ _).trans (if_neg apart)
  rw [registered]
  cases there : session.registry.get? key with
  | none => rfl
  | some id =>
      obtain ⟨dependency, found, _⟩ := sound.current key id there
      have inside := (List.getElem?_eq_some_iff.mp found).1
      rw [← length_keys] at inside
      simp only [Option.map_some, keys_grow, countBefore_append (Nat.le_of_lt inside)]

/-- A key sees nothing of a dependency that another key gets. -/
theorem Sound.sight_grow_of_other (apart : other ≠ key) (named : fresh.key = other)
    : (session.grow other fresh).sight key = session.sight key := by
  have dependencies : (session.grow other fresh).fleet.dependencies.filter (·.key == key)
      = session.fleet.dependencies.filter (·.key == key) := by
    show (session.fleet.dependencies ++ [fresh]).filter _ = _
    rw [List.filter_append, List.filter_cons_of_neg (by simp [named, apart])]
    simp
  simp only [sight, dependencies, sound.agenda_grow, sound.current_grow other fresh apart.symm]
  rfl

omit sound in
/-- A new dependency of a key is the next one in what the key sees. -/
theorem turn_grow
    : (session.grow key fresh).keys.countBefore key session.fleet.dependencies.length
      = (session.sight key).dependencies.length := by
  rw [keys_grow, countBefore_append (Nat.le_of_eq length_keys.symm),
    List.countBefore_of_ge_length (Nat.le_of_eq length_keys), List.count, Session.keys,
    List.countP_map, List.countP_eq_length_filter]
  exact (List.length_map _).symm

/-- A key that gets a dependency sees it behind those it had before, as its present one. -/
theorem Sound.sight_grow (named : fresh.key = key)
    : (session.grow key fresh).sight key
      = { session.sight key with
          current := some (session.sight key).dependencies.length
          dependencies := (session.sight key).dependencies ++ [fresh.unplaced] } := by
  have dependencies : (session.grow key fresh).fleet.dependencies.filter (·.key == key)
      = session.fleet.dependencies.filter (·.key == key) ++ [fresh] := by
    show (session.fleet.dependencies ++ [fresh]).filter _ = _
    rw [List.filter_append, List.filter_cons_of_pos (by simp [named])]
    simp
  have registered : (session.grow key fresh).registry.get? key
      = some session.fleet.dependencies.length :=
    (lookup_insertEntry _ _ _ _).trans (if_pos rfl)
  rw [sight, sound.agenda_grow, dependencies, registered, Option.map_some, turn_grow,
    List.map_append]
  rfl

end

/-- What is built does not depend on the places that it gets. -/
theorem build_unplaced (builder : DependencyBuilder) (id timer now : Nat)
    : (builder.build id timer now : Except _ (Dependency α)).map Dependency.unplaced
      = (builder.build 0 0 now).map Dependency.unplaced := by
  rw [builder.build_place id timer now]
  cases (builder.build 0 0 now : Except _ (Dependency α)) with
  | error fault => rfl
  | ok dependency => rfl

/-- A dependency of the key is opened as if there were no other keys. -/
theorem Sound.sight_open? (sound : session.Sound) (key : String) (config : CommandConfig)
    : (session.sight key).open? key config
      = (session.open? key config).map fun answer =>
          (answer.2.keys.countBefore key answer.1, answer.2.sight key) := by
  have opened := session.opened key config
  generalize session.open? key config = answer at opened
  have bare : ((builder key config).build 0 0 (session.sight key).clock.now
      : Except _ (Dependency α)).map Dependency.unplaced = _ :=
    (build_unplaced _ session.fleet.dependencies.length session.registry.timer _).symm
  rw [Sight.open?, bare]
  cases opened with
  | there registered =>
      rw [show (session.sight key).current = _ from congrArg (Option.map _) registered]
      rfl
  | refused absent built =>
      rw [show (session.sight key).current = _ from congrArg (Option.map _) absent,
        show (builder key config).build _ _ (session.sight key).clock.now = _ from built]
      rfl
  | built absent built =>
      rw [show (session.sight key).current = _ from congrArg (Option.map _) absent,
        show (builder key config).build _ _ (session.sight key).clock.now = _ from built,
        Option.map_some, turn_grow, sound.sight_grow _ (key_of_build built)]
      rfl

/-- What is opened for a key is one of its dependencies. -/
theorem Sound.found_open? (sound : session.Sound) {config : CommandConfig} {opened : Session α}
    (answer : session.open? key config = some (id, opened))
    : ∃ dependency, opened.fleet.dependencies[id]? = some dependency ∧ dependency.key = key := by
  have cases := session.opened key config
  rw [answer] at cases
  cases cases with
  | there registered => exact sound.current key id registered
  | built absent built => exact ⟨_, List.getElem?_concat_length, key_of_build built⟩

/-- A key sees nothing of another one that is looked up, whether or not that makes a dependency. -/
theorem Sound.sight_open?_of_other (sound : session.Sound) {other : String} (apart : other ≠ key)
    {config : CommandConfig} {id : Nat} {opened : Session α}
    (answer : session.open? other config = some (id, opened))
    : opened.sight key = session.sight key := by
  have cases := session.opened other config
  rw [answer] at cases
  cases cases with
  | there registered => rfl
  | built absent built => exact sound.sight_grow_of_other other _ apart (key_of_build built)

theorem submitTo_of_found (found : session.fleet.dependencies[id]? = some dependency)
    : session.submitTo id
      = (session.act id (.create true)).act id (.submit dependency.commands.length) := by
  rw [submitTo, found]

/-- A submission leaves the keys as they are. -/
theorem Sound.keys_submitTo (sound : session.Sound) (id : Nat)
    : (session.submitTo id).keys = session.keys := by
  simp only [Session.submitTo]
  split
  · rfl
  · rw [(sound.act id rfl).keys_act id rfl, sound.keys_act id rfl]

/-- A look-up leaves the keys or adds the one that was looked up. -/
theorem keys_open? {config : CommandConfig} {opened : Session α}
    (answer : session.open? key config = some (id, opened))
    : opened.keys = session.keys ∨ opened.keys = session.keys ++ [key] := by
  have cases := session.opened key config
  rw [answer] at cases
  cases cases with
  | there registered => exact .inl rfl
  | built absent built => exact .inr (by rw [keys_grow, key_of_build built])

/-- A submission to a dependency of a key does to what the key sees what it would do there alone. -/
theorem Sound.sight_submitTo (sound : session.Sound)
    (found : session.fleet.dependencies[id]? = some dependency) (own : dependency.key = key)
    : ((session.submitTo id).sight key).Agrees
        ((session.sight key).submitTo (session.keys.countBefore key id)) := by
  have isLocal : (Gateway.Step.create true : Gateway.Step α).isLocal := rfl
  obtain ⟨there, same, keys⟩ := sound.found_act found (Gateway.Step.isOwn_of_isLocal isLocal)
  have onward := sound.act id (Gateway.Step.isOwn_of_isLocal isLocal)
  have other (number : Nat) : (Gateway.Step.create true : Gateway.Step α) ≠ .submit number := by
    intro same
    cases same
  have number : dependency.unplaced.commands.length = dependency.commands.length :=
    List.length_map _
  rw [submitTo_of_found found, Sight.submitTo_of_found _ (dependencies_sight found own), number,
    ← sound.sight_act_of_not_submit found own isLocal other, ← keys]
  exact onward.sight_act there (same.trans own) rfl

/-- A key sees nothing of a submission to a dependency of another one. -/
theorem Sound.sight_submitTo_of_other (sound : session.Sound)
    (found : session.fleet.dependencies[id]? = some dependency) (other : dependency.key ≠ key)
    : (session.submitTo id).sight key = session.sight key := by
  have isLocal : (Gateway.Step.create true : Gateway.Step α).isLocal := rfl
  obtain ⟨there, same, _⟩ := sound.found_act found (Gateway.Step.isOwn_of_isLocal isLocal)
  have onward := sound.act id (Gateway.Step.isOwn_of_isLocal isLocal)
  rw [submitTo_of_found found, onward.sight_act_of_other there (same ▸ other) rfl,
    sound.sight_act_of_other found other rfl]

-----------------------------------------------------------------------------------------
-- Dependencies by their addresses
-----------------------------------------------------------------------------------------

/-- The dependencies of a key are found by how many were built for it before. -/
theorem dependencies_place (session : Session α) (key : String) (turn : Nat)
    : (∃ dependency, session.fleet.dependencies[session.place ⟨key, turn⟩]? = some dependency
          ∧ dependency.key = key ∧ session.keys.countBefore key (session.place ⟨key, turn⟩) = turn)
      ∨ session.fleet.dependencies[session.place ⟨key, turn⟩]? = none
        ∧ (session.sight key).dependencies[turn]? = none := by
  by_cases enough : turn < session.keys.count key
  · have inside : session.place ⟨key, turn⟩ < session.keys.length :=
      List.idxOfNth_lt_length_of_lt_count enough
    have named : session.keys[session.place ⟨key, turn⟩] = key := List.getElem_idxOfNth_eq
    have found := List.getElem?_eq_getElem (length_keys ▸ inside)
    refine .inl ⟨_, found, ?_, List.countBefore_idxOfNth_of_lt_count enough⟩
    simpa [Session.keys] using named
  · have few : session.keys.count key ≤ turn := Nat.le_of_not_lt enough
    refine .inr ⟨List.getElem?_eq_none ?_, List.getElem?_eq_none ?_⟩
    · rw [← length_keys]
      exact Nat.le_of_eq (List.idxOfNth_eq_length_of_ge_count few).symm
    · show ((session.fleet.dependencies.filter (·.key == key)).map _).length ≤ turn
      rw [List.length_map, ← List.countP_eq_length_filter]
      rw [Session.keys, List.count, List.countP_map] at few
      exact few

/-- What happens at a dependency of a key happens in the same way in what the key sees. -/
theorem Sound.sight_act_place (sound : session.Sound) (turn : Nat) (isLocal : step.isLocal)
    : ((session.act (session.place ⟨key, turn⟩) step).sight key).Agrees
        ((session.sight key).act turn step) := by
  rcases session.dependencies_place key turn with ⟨dependency, found, own, place⟩ | ⟨absent, none⟩
  · have agrees := sound.sight_act found own isLocal
    rw [place] at agrees
    exact agrees
  · left
    rw [act_of_none absent, Sight.act, none]

/-- A key sees nothing of what happens at the dependencies of another one. -/
theorem Sound.sight_act_place_of_other (sound : session.Sound) {address : Address}
    (other : address.key ≠ key) (isLocal : step.isLocal)
    : (session.act (session.place address) step).sight key = session.sight key := by
  rcases session.dependencies_place address.key address.turn
    with ⟨dependency, found, own, _⟩ | ⟨absent, _⟩
  · exact sound.sight_act_of_other found (own.symm ▸ other) (Gateway.Step.isOwn_of_isLocal isLocal)
  · rw [act_of_none absent]

/-- Just those timeouts that are armed are on the agenda. -/
theorem Sound.isArmed_iff (sound : session.Sound) (key : String) (turn number : Nat)
    : (session.sight key).isArmed turn number
      ↔ ∃ due, (due, turn, number) ∈ (session.sight key).agenda := by
  constructor
  · intro armed
    rcases session.dependencies_place key turn with ⟨dependency, found, own, place⟩ | ⟨_, none⟩
    · rw [Sight.isArmed, ← place, dependencies_sight found own] at armed
      have armed : (session.gateway dependency).isArmed number :=
        ((session.gateway dependency).isArmed_unplaced number).symm.trans armed
      obtain ⟨handle, holds⟩ := (sound.isArmed_iff_holds found number).mp armed
      obtain ⟨due, listed⟩ := sound.listed.mem_agenda holds
      refine ⟨due, List.mem_filterMap.mpr ⟨_, listed, ?_⟩⟩
      rw [seat?_eq found own, place]
      rfl
    · rw [Sight.isArmed, none] at armed
      cases armed
  · rintro ⟨due, member⟩
    obtain ⟨⟨_, id, command⟩, listed, chosen⟩ := List.mem_filterMap.mp member
    obtain ⟨⟨dependency, found⟩, waits⟩ := sound.waits_of_mem_agenda listed
    have found : session.fleet.dependencies[id]? = some dependency := found
    by_cases own : dependency.key = key
    · rw [seat?_eq found own] at chosen
      cases chosen
      rw [Sight.isArmed, dependencies_sight found own]
      exact ((session.gateway dependency).isArmed_unplaced number).trans
        ((sound.isArmed_iff_holds found number).mpr waits)
    · rw [seat?_of_other found own] at chosen
      cases chosen

-----------------------------------------------------------------------------------------
-- Runs
-----------------------------------------------------------------------------------------

/-- Time goes by for what a key sees as it does for all. -/
theorem Sound.sight_elapse (sound : session.Sound) (key : String) (millis : Nat)
    : (session.step (.elapse millis)).sight key
      = (session.sight key).step key (.elapse millis) := by
  have timer := sound.timer_onTimer (·.elapse millis)
  have agenda : seated (seat? session.keys key) (session.timer.elapse millis).agenda
      = (session.sight key).agenda.map fun entry => (entry.1 - millis, entry.2) := by
    rw [Timer.agenda_elapse, seated, List.filterMap_map]
    show _ = (seated _ _).map _
    rw [seated, List.map_filterMap]
    refine List.filterMap_congr fun entry _ => ?_
    rw [Option.map_map]
    rfl
  show Session.sight (session.onTimer _) key = _
  rw [Session.sight, timer, Sight.step, ← agenda]
  rfl

/-- What a key sees of the timer stops with it. -/
theorem Sound.sight_shutdownTimer (sound : session.Sound) (key : String)
    : (session.step .shutdownTimer).sight key = (session.sight key).step key .shutdownTimer := by
  show Session.sight (session.onTimer Timer.shutdown) key = _
  rw [Session.sight, sound.timer_onTimer, Timer.agenda_shutdown]
  rfl

/-- A key whose dependency is forgotten sees its old ones still. -/
theorem sight_forget (session : Session α) (key : String)
    : (session.forget key).sight key = { session.sight key with current := none } := by
  have forgotten : (session.forget key).registry.get? key = none :=
    (lookup_remove key _ key).trans (if_pos rfl)
  rw [Session.sight, forgotten]
  rfl

/-- A key sees nothing of another one whose dependency is forgotten. -/
theorem sight_forget_of_other {other : String} (apart : other ≠ key)
    : (session.forget other).sight key = session.sight key := by
  have kept : (session.forget other).registry.get? key = session.registry.get? key :=
    (lookup_remove other _ key).trans (if_neg apart.symm)
  rw [Session.sight, kept]
  rfl

/-- Removing a key is, in what it sees, the same step. -/
theorem Sound.sight_remove (sound : session.Sound) (key : String)
    : (session.step (.remove key)).sight key = (session.sight key).step key (.remove key) := by
  rw [sound.remove_eq]
  cases registered : session.registry.get? key with
  | none =>
      have absent : (session.sight key).current = none := congrArg (Option.map _) registered
      simp only [Sight.step, absent]
  | some id =>
      obtain ⟨dependency, found, own⟩ := sound.current key id registered
      have present : (session.sight key).current = some (session.keys.countBefore key id) :=
        congrArg (Option.map _) registered
      have isLocal : (Gateway.Step.shutdownPool : Gateway.Step α).isLocal := rfl
      simp only [Sight.step, present]
      rw [← sound.sight_act_of_not_submit found own isLocal nofun, sight_forget]

/-- A key sees nothing of another one that is removed. -/
theorem Sound.sight_remove_of_other (sound : session.Sound) {other : String} (apart : other ≠ key)
    : (session.step (.remove other)).sight key = session.sight key := by
  rw [sound.remove_eq]
  cases registered : session.registry.get? other with
  | none => rfl
  | some id =>
      obtain ⟨dependency, found, own⟩ := sound.current other id registered
      have isOwn : (Gateway.Step.shutdownPool : Gateway.Step α).isOwn := rfl
      simp only
      rw [sight_forget_of_other apart, sound.sight_act_of_other found (own.symm ▸ apart) isOwn]

/-- A step of the key's, or of what is shared, shows as if there were no other keys. -/
theorem Sound.sight_step (sound : session.Sound) {step : Step α}
    (ours : session.concerns key step)
    : ((session.step step).sight key).Agrees ((session.sight key).step key step) := by
  cases step with
  | advance millis => exact .inl rfl
  | setClock millis => exact .inl rfl
  | elapse millis => exact .inl (sound.sight_elapse key millis)
  | tick => exact .inl (sound.sight_tick (by simpa [concerns] using ours))
  | shutdownTimer => exact .inl (sound.sight_shutdownTimer key)
  | getOrCreate other config =>
      obtain rfl : other = key := by simpa [concerns, Step.key?] using ours
      left
      simp only [Session.step, Sight.step, sound.sight_open?]
      cases session.open? other config <;> rfl
  | remove other =>
      obtain rfl : other = key := by simpa [concerns, Step.key?] using ours
      exact .inl (sound.sight_remove other)
  | submit other config =>
      obtain rfl : other = key := by simpa [concerns, Step.key?] using ours
      simp only [Session.step, Sight.step, sound.sight_open?]
      cases answer : session.open? other config with
      | none => exact .inl rfl
      | some opened =>
          obtain ⟨dependency, found, own⟩ := sound.found_open? answer
          exact (sound.open? answer).sight_submitTo found own
  | act address step =>
      obtain ⟨name, turn⟩ := address
      obtain rfl : name = key := by simpa [concerns, Step.key?] using ours
      simp only [Session.step, Sight.step]
      split
      · exact sound.sight_act_place turn ‹_›
      · exact .inl rfl

/-- A step that only other keys have to do with does not show. -/
theorem Sound.sight_step_of_other (sound : session.Sound) {step : Step α}
    (foreign : session.concerns key step = false)
    : (session.step step).sight key = session.sight key := by
  cases step with
  | advance | setClock | elapse | shutdownTimer => cases foreign
  | tick => exact sound.sight_tick_of_elsewhere (by simpa [concerns] using foreign)
  | getOrCreate other config =>
      have apart : other ≠ key := by simpa [concerns, Step.key?] using foreign
      simp only [Session.step]
      cases answer : session.open? other config with
      | none => rfl
      | some opened => exact sound.sight_open?_of_other apart answer
  | remove other =>
      have apart : other ≠ key := by simpa [concerns, Step.key?] using foreign
      exact sound.sight_remove_of_other apart
  | submit other config =>
      have apart : other ≠ key := by simpa [concerns, Step.key?] using foreign
      simp only [Session.step]
      cases answer : session.open? other config with
      | none => rfl
      | some opened =>
          obtain ⟨dependency, found, own⟩ := sound.found_open? answer
          exact ((sound.open? answer).sight_submitTo_of_other found (own.symm ▸ apart)).trans
            (sound.sight_open?_of_other apart answer)
  | act address step =>
      have apart : address.key ≠ key := by simpa [concerns, Step.key?] using foreign
      simp only [Session.step]
      split
      · exact sound.sight_act_place_of_other apart ‹_›
      · rfl

-----------------------------------------------------------------------------------------
-- A run without the other keys
-----------------------------------------------------------------------------------------

/-- The steps of a run that concern a key. -/
def only (key : String) : Session α → List (Step α) → List (Step α)
  | _, [] => []
  | session, first :: rest =>
      if session.concerns key first then first :: only key (session.step first) rest
      else only key (session.step first) rest


/-- Dependencies are built for the key that a step names, if any are. -/
theorem Sound.keys_step (sound : session.Sound) (step : Step α)
    : (session.step step).keys = session.keys
      ∨ ∃ key, step.key? = some key ∧ (session.step step).keys = session.keys ++ [key] := by
  cases step with
  | advance | setClock | elapse | shutdownTimer => exact .inl rfl
  | tick =>
      left
      rw [Session.step, Session.tick]
      split
      · rfl
      · exact sound.keys_act _ rfl
  | getOrCreate key config =>
      simp only [Session.step]
      split
      · exact .inl rfl
      · rename_i answer
        exact (keys_open? answer).imp_right fun grown => ⟨key, rfl, grown⟩
  | remove key =>
      left
      rw [sound.remove_eq]
      split
      · rfl
      · exact sound.keys_act _ rfl
  | submit key config =>
      simp only [Session.step]
      split
      · exact .inl rfl
      · rename_i answer
        rw [(sound.open? answer).keys_submitTo]
        exact (keys_open? answer).imp_right fun grown => ⟨key, rfl, grown⟩
  | act address step =>
      left
      simp only [Session.step]
      split
      · rename_i isLocal
        exact sound.keys_act _ (Gateway.Step.isOwn_of_isLocal isLocal)
      · rfl

/-- No key was ever used but one. -/
def Sole (session : Session α) (key : String) : Prop := ∀ name ∈ session.keys, name = key

/-- A session that has one key alone keeps to it, as long as the steps name no other. -/
theorem Sound.sole_step (sound : session.Sound) (sole : session.Sole key) {step : Step α}
    (named : step.key?.all (· == key)) : (session.step step).Sole key := by
  intro name member
  rcases sound.keys_step step with same | ⟨built, names, grown⟩
  · exact sole name (same ▸ member)
  · rw [grown, List.mem_append, List.mem_singleton] at member
    rcases member with old | rfl
    · exact sole name old
    · simpa [names] using named

/-- The timer's thread has no other keys to go to. -/
theorem Sound.not_isElsewhere (sound : session.Sound) (sole : session.Sole key)
    : session.isElsewhere key = false := by
  refine Bool.or_eq_false_iff.mpr ⟨List.any_eq_false.mpr fun dependency member => ?_, ?_⟩
  · have own := sole dependency.key (List.mem_map_of_mem member)
    simp [own]
  · cases next : session.next? with
    | none => rfl
    | some listener =>
        obtain ⟨dependency, found⟩ := (sound.fires next).found
        have own := sole dependency.key (List.mem_map_of_mem (List.mem_of_getElem? found))
        simp [Session.keys, found, own]

/-- In a session that has one key alone, every step that names no other concerns it. -/
theorem Sound.concerns_of_sole (sound : session.Sound) (sole : session.Sole key) {step : Step α}
    (named : step.key?.all (· == key)) : session.concerns key step := by
  cases step with
  | tick =>
      show (!session.isElsewhere key) = true
      rw [sound.not_isElsewhere sole]
      rfl
  | _ => exact named

/-- Two registries show the same to the users of a key, one of which no other key was ever used in.
It stays so when that one leaves out what the key has no part in.
-/
theorem Sound.sight_only {whole alone : Session α} (sound : whole.Sound) (other : alone.Sound)
    (sole : alone.Sole key) (same : whole.sight key = alone.sight key) {steps : List (Step α)}
    (untied : ∀ earlier, earlier <+: steps → Untied ((whole.run earlier).sight key).agenda)
    : (whole.run steps).sight key = (alone.run (only key whole steps)).sight key := by
  induction steps generalizing whole alone with
  | nil => exact same
  | cons first rest ih =>
      have further (earlier : List (Step α)) (before : earlier <+: rest)
          : Untied (((whole.step first).run earlier).sight key).agenda :=
        untied (first :: earlier) (List.prefix_cons_inj first |>.mpr before)
      rw [only, run_past]
      cases ours : whole.concerns key first with
      | true =>
          have named := named_of_concerns ours
          have its : alone.concerns key first := other.concerns_of_sole sole named
          have here := (sound.sight_step ours).eq_of_left (further [] List.nil_prefix)
          have there := other.sight_step its
          -- The first steps end the same way, so that there are ties in both or in neither.
          rw [← same, ← here] at there
          have after := (there.eq_of_right (further [] List.nil_prefix)).symm
          exact ih (sound.step first) (other.step first) (other.sole_step sole named) after further
      | false =>
          have after := (sound.sight_step_of_other ours).trans same
          exact ih (sound.step first) other sole after further

/-- Keys are isolated, but for the timer's thread. A run shows to the users of a key what it would
show without the steps that only other keys have to do with, its timer's turns that went to them
among these. The timer knows just those of the key's timeouts that are armed, and turns enough leave
none of them behind that is due, unless they come to a fallback that does not return.

No two of the key's timeouts may be due at the same moment, for the slots that they are in decide
which is first then, and other keys have a part in that. Those that are due already have their
order.
-/
theorem keys_isolated (clock : Clock) (steps : List (Step α)) (key : String)
    (untied : ∀ earlier, earlier <+: steps → Untied (((create clock).run earlier).sight key).agenda)
    : let whole := (create clock).run steps
      let alone := (create clock).run (only key (create clock) steps)
      whole.sight key = alone.sight key
        ∧ (∀ turn number,
            (whole.sight key).isArmed turn number
              ↔ ∃ due, (due, turn, number) ∈ (whole.sight key).agenda)
        ∧ ∀ turns, whole.timer.deadlines.length ≤ turns
            → let later := whole.run (List.replicate turns .tick)
              later.isBusy = true ∨ (later.sight key).isSettled := by
  have fresh : (create clock : Session α).Sound := sound_create clock
  have sound := fresh.run steps
  refine ⟨fresh.sight_only fresh nofun rfl untied, sound.isArmed_iff key, fun turns enough => ?_⟩
  have all : dues ((create clock).run steps).timer.agenda ≤ turns :=
    List.countP_le_length.trans ((Timer.length_agenda_le _).trans enough)
  refine (sound.quiet_ticks turns all).imp_right fun quiet => ?_
  rw [Sight.isSettled, Bool.or_eq_true, beq_iff_eq]
  exact quiet.imp_right (dues_sight _ key)

/-- While the timer's thread is in a fallback of one key, the work of another one returns, although
its timeout was due.
-/
def overtaken : List (Step Nat) := [
  .submit "left" { executionTimeout := 10 },
  .submit "right" { executionTimeout := 20 },
  .elapse 20,
  .tick,
  .tick,
  .act ⟨"right", 0⟩ (.workReturned 0 (.ok 1)),
  .act ⟨"left", 0⟩ (.fallbackReturned 0 (.ok 5)),
  .tick,
  .act ⟨"right", 0⟩ (.fallbackReturned 0 (.ok 2))]

theorem keys_isolated_overtaken
    : (∀ earlier, earlier <+: overtaken
          → Untied (((create ⟨0⟩).run earlier).sight "right").agenda)
      ∧ ((create ⟨0⟩).run overtaken).sight "right"
        = ((create ⟨0⟩).run (only "right" (create ⟨0⟩) overtaken)).sight "right" := by
  have untied
      : ∀ earlier ∈ overtaken.inits, Untied (((create ⟨0⟩).run earlier).sight "right").agenda := by
    decide +kernel
  have before (earlier : List (Step Nat)) (start : earlier <+: overtaken) :=
    untied earlier ((List.mem_inits _ _).mpr start)
  exact ⟨before, (keys_isolated ⟨0⟩ overtaken "right" before).1⟩

/-- If the turns that went to the other key are not left out with its other steps, the timeout fires
earlier than it did, and the command ends with its fallback.
-/
theorem overtaken_without_left
    : let alone := overtaken.filter fun step => step.key?.all (· == "right")
      let ends (steps : List (Step Nat)) :=
        (((create ⟨0⟩).run steps).sight "right").dependencies.map (·.commands.map (·.completion))
      ends overtaken = [[.ready (.ok 1)]] ∧ ends alone = [[.ready (.ok 2)]] := by
  decide +kernel

end Session

end Registry

end Breakwater
