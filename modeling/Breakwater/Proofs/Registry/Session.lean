import Breakwater.Proofs.Dependency.Accepted
import Breakwater.Proofs.Gateway.Agenda
import Breakwater.Registry

/-! Runs of a registry: all that the users of its keys do, in any order, while one clock and one
timer serve the dependencies of all of them.
-/

namespace Breakwater

variable {α : Type}

/-- Whether the timer's thread runs a fallback. -/
def FallbackPhase.onTimer : FallbackPhase → Bool
  | running _ .timer => true
  | _ => false

/-- Whether the timer's thread runs the fallback of one of the commands. -/
def Dependency.occupiesTimer (dependency : Dependency α) : Bool :=
  dependency.commands.any (·.fallback.onTimer)

namespace Registry

/-- A dependency as its users know it: by its key, and by how many were built for that before. -/
structure Address where
  key : String
  turn : Nat
  deriving DecidableEq, Repr

/-- A registry in use, with its dependencies. -/
structure Session (α : Type) where
  registry : Registry
  fleet : Fleet α

namespace Session

/-- A new registry on a clock of its own. -/
def create (clock : Clock) : Session α :=
  let (registry, fleet) := Registry.create (Fleet.create clock)
  ⟨registry, fleet⟩

/-- One thing that can happen. -/
inductive Step (α : Type) where
  | advance (millis : Nat)
  | setClock (millis : Nat)
  /-- Real time passes, by which the timer counts. -/
  | elapse (millis : Nat)
  /-- The timer's thread has a turn. -/
  | tick
  | shutdownTimer
  | getOrCreate (key : String) (config : CommandConfig)
  | remove (key : String)
  | submit (key : String) (config : CommandConfig)
  /-- Somebody who has a dependency goes on with it. -/
  | act (address : Address) (step : Gateway.Step α)

variable (session : Session α)

/-- The timer that all dependencies share. -/
def timer : Timer CommandRef := (session.fleet.timers[session.registry.timer]?).getD default

/-- The keys of all dependencies that were built, in order. -/
def keys : List String := session.fleet.dependencies.map (·.key)

/-- The dependency at an address; a number that none has if there is none. -/
def place (address : Address) : Nat := session.keys.idxOfNth address.key address.turn

/-- Do something to the timer. -/
def onTimer (change : Timer CommandRef → Timer CommandRef) : Session α :=
  { session with fleet.timers := session.fleet.timers.modify session.registry.timer change }

/-- Take a step at one dependency. -/
def act (id : Nat) (step : Gateway.Step α) : Session α :=
  { session with fleet := (session.fleet.atDependency id fun gateway => ((), gateway.step step)).2 }

/-- The dependency of a key, built from the settings if there is none yet. -/
def open? (key : String) (config : CommandConfig) : Option (Nat × Session α) :=
  match session.registry.getOrCreate session.fleet key config with
  | .error _ => none
  | .ok (id, registry, fleet) => some (id, ⟨registry, fleet⟩)

/-- Submit a new command to a dependency. -/
def submitTo (id : Nat) : Session α :=
  match session.fleet.dependencies[id]? with
  | none => session
  | some dependency =>
      (session.act id (.create true)).act id (.submit dependency.commands.length)

/-- Whether the timer's thread is in the middle of a fallback. -/
def isBusy : Bool := session.fleet.dependencies.any Dependency.occupiesTimer

/-- The timeout that fires if the timer's thread has a turn now. -/
def next? : Option CommandRef :=
  if session.isBusy then none else (session.timer.fireNext? 1).map (·.1)

/-- The timer's thread has a turn: unless it is in the middle of a fallback, it fires the timeout
that is due first. A fallback that this starts goes on until somebody says what it returned.
-/
def tick : Session α :=
  match session.next? with
  | none => session
  | some listener => session.act listener.dependency (.timeoutFired listener.command)

/-- Take one step; one that does not apply changes nothing. -/
def step : Step α → Session α
  | .advance millis => { session with fleet := session.fleet.advance millis }
  | .setClock millis => { session with fleet := session.fleet.setClock millis }
  | .elapse millis => session.onTimer (·.elapse millis)
  | .tick => session.tick
  | .shutdownTimer => { session with fleet := session.fleet.shutdownTimer session.registry.timer }
  | .getOrCreate key config =>
      match session.open? key config with
      | none => session
      | some (_, opened) => opened
  | .remove key =>
      let (_, registry, fleet) := session.registry.remove session.fleet key
      ⟨registry, fleet⟩
  | .submit key config =>
      match session.open? key config with
      | none => session
      | some (id, opened) => opened.submitTo id
  | .act address step =>
      if step.isLocal then session.act (session.place address) step else session

/-- Take steps in order. -/
def run (steps : List (Step α)) : Session α := steps.foldl step session

theorem run_past (first : Step α) (rest : List (Step α))
    : session.run (first :: rest) = (session.step first).run rest := rfl

-----------------------------------------------------------------------------------------
-- Order
-----------------------------------------------------------------------------------------

/-- A dependency with the clock and the timer that it shares with the others. -/
def gateway (dependency : Dependency α) : Gateway α where
  clock := session.fleet.clock
  timer := session.timer
  dependency := dependency

/-- The dependencies of a registry have one timer, which keeps the timeouts of all of them. -/
structure Sound : Prop where
  timers : session.fleet.timers = [session.timer]
  shared : session.registry.timer = 0
  placed
    : ∀ (id : Nat) dependency, session.fleet.dependencies[id]? = some dependency
        → dependency.id = id ∧ dependency.timer = 0
  kempt
    : ∀ (id : Nat) dependency, session.fleet.dependencies[id]? = some dependency
        → (session.gateway dependency).Kempt
  timed
    : ∀ (id : Nat) dependency, session.fleet.dependencies[id]? = some dependency
        → (session.gateway dependency).Timed
  /-- Timeouts are never due at once. -/
  patient
    : ∀ (id : Nat) dependency, session.fleet.dependencies[id]? = some dependency
        → dependency.config.timeoutEnabled = true → 0 < dependency.config.executionTimeout
  listed : session.timer.Listed
  /-- Only dependencies wait. -/
  bounded
    : ∀ listener handle, session.timer.Holds listener handle
        → listener.dependency < session.fleet.dependencies.length
  /-- What is registered for a key was built for it. -/
  current
    : ∀ key id, session.registry.get? key = some id
        → ∃ dependency, session.fleet.dependencies[id]? = some dependency ∧ dependency.key = key

/-- A registry that nobody has used is sound. -/
theorem sound_create (clock : Clock) : (create clock : Session α).Sound where
  timers := rfl
  shared := rfl
  placed id dependency found := by cases found
  kempt id dependency found := by cases found
  timed id dependency found := by cases found
  patient id dependency found := by cases found
  listed := Timer.listed_create timerName
  bounded listener handle holds := by cases holds
  current key id found := by cases found

/-- The dependency and the timer are put back after a step. -/
def put (id : Nat) (gateway : Gateway α) : Session α :=
  { session with fleet := session.fleet.store id gateway }

variable {session} {id : Nat} {dependency : Dependency α}

/-- Nothing happens where no dependency is. -/
theorem act_of_none (absent : session.fleet.dependencies[id]? = none) (step : Gateway.Step α)
    : session.act id step = session := by
  rw [act, Fleet.atDependency, Fleet.gateway?, absent]
  rfl

/-- What happens at a dependency happens to its part of the session, and is put back. -/
theorem Sound.act_eq (sound : session.Sound)
    (found : session.fleet.dependencies[id]? = some dependency) (step : Gateway.Step α)
    : session.act id step = session.put id ((session.gateway dependency).step step) := by
  have place : dependency.timer = 0 := (sound.placed id dependency found).2
  have there : session.fleet.gateway? id = some (session.gateway dependency) := by
    simp [Fleet.gateway?, found, place, sound.timers]
    rfl
  rw [act, Fleet.atDependency, there]
  rfl

/-- The dependencies once one of them was put back. -/
theorem found_put {other : Nat} {new : Dependency α} {after : Gateway α}
    (found : session.fleet.dependencies[id]? = some dependency)
    (there : (session.put id after).fleet.dependencies[other]? = some new)
    : other = id ∧ new = after.dependency
      ∨ other ≠ id ∧ session.fleet.dependencies[other]? = some new := by
  have there : (session.fleet.dependencies.set id after.dependency)[other]? = some new := there
  rw [getElem?_set_of_found found] at there
  split at there
  · rename_i same
    exact .inl ⟨same, (Option.some.inj there).symm⟩
  · rename_i apart
    exact .inr ⟨apart, there⟩

section

variable (sound : session.Sound) {step : Gateway.Step α} {number : Nat}
  (found : session.fleet.dependencies[id]? = some dependency) {after : Gateway α}
  (onward : Gateway.Onward (session.gateway dependency) step number after)
include sound found onward

/-- The timer that a dependency leaves is the one that all share. -/
theorem Sound.timer_put : (session.put id after).timer = after.timer := by
  have place : after.dependency.timer = 0 :=
    (congrArg Settings.timer onward.settings).trans (sound.placed id dependency found).2
  show ((session.fleet.timers.set after.dependency.timer after.timer)[session.registry.timer]?).getD
    default = _
  rw [place, sound.timers, sound.shared]
  rfl

/-- Putting a dependency back after a step keeps a session sound, since all others kept out of its
part of the timer.
-/
theorem Sound.put : (session.put id after).Sound := by
  have timer := sound.timer_put found onward
  obtain ⟨own, place⟩ := sound.placed id dependency found
  have newId : after.dependency.id = id := onward.id.trans own
  have newPlace : after.dependency.timer = 0 :=
    (congrArg Settings.timer onward.settings).trans place
  constructor
  · show session.fleet.timers.set after.dependency.timer after.timer = _
    rw [timer, newPlace, sound.timers]
    rfl
  · exact sound.shared
  · intro other new there
    rcases found_put found there with ⟨rfl, rfl⟩ | ⟨apart, there⟩
    · exact ⟨newId, newPlace⟩
    · exact sound.placed other new there
  · intro other new there
    rcases found_put found there with ⟨rfl, rfl⟩ | ⟨apart, there⟩
    · exact { onward.kempt with }
    · exact { sound.kempt other new there with }
  · intro other new there
    rcases found_put found there with ⟨rfl, rfl⟩ | ⟨apart, there⟩
    · show (session.put other after).timer.Keeps _ _
      rw [timer]
      exact onward.timed
    · -- The step touches no registration but those of the dependency that took it.
      have foreign : new.id ≠ (session.gateway dependency).dependency.id := by
        rw [(sound.placed other new there).1]
        exact own.symm ▸ apart
      show (session.put id after).timer.Keeps _ _
      rw [timer]
      exact onward.retimes.keeps foreign (sound.timed other new there)
  · intro other new there
    rcases found_put found there with ⟨rfl, rfl⟩ | ⟨apart, there⟩
    · rw [show after.dependency.config = dependency.config
        from congrArg Settings.config onward.settings]
      exact sound.patient other dependency found
    · exact sound.patient other new there
  · rw [timer]
    exact onward.retimes.listed sound.listed
  · intro listener handle holds
    rw [timer] at holds
    have inside := (List.getElem?_eq_some_iff.mp found).1
    show _ < (session.fleet.dependencies.set id _).length
    rw [List.length_set]
    rcases onward.retimes.holds_of sound.listed.sound holds with before | rfl
    · exact sound.bounded listener handle before
    · exact own ▸ inside
  · intro key other registered
    obtain ⟨old, there, named⟩ := sound.current key other registered
    show ∃ dependency, (session.fleet.dependencies.set id _)[other]? = some dependency ∧ _
    rw [getElem?_set_of_found found]
    split
    · rename_i same
      subst same
      obtain rfl := Option.some.inj (found.symm.trans there)
      exact ⟨_, rfl, (congrArg Settings.key onward.settings).trans named⟩
    · exact ⟨old, there, named⟩

end

/-- A dependency takes a step of its own. -/
theorem Sound.onward (sound : session.Sound)
    (found : session.fleet.dependencies[id]? = some dependency) {step : Gateway.Step α}
    (own : step.isOwn)
    : Gateway.Onward (session.gateway dependency) step
        (step.subject (session.gateway dependency)) ((session.gateway dependency).step step) :=
  Gateway.onward_step (sound.kempt id dependency found) (sound.timed id dependency found) own

/-- What happens at a dependency keeps a session sound. -/
theorem Sound.act (sound : session.Sound) (id : Nat) {step : Gateway.Step α} (own : step.isOwn)
    : (session.act id step).Sound := by
  cases found : session.fleet.dependencies[id]? with
  | none =>
      rw [act_of_none found]
      exact sound
  | some dependency =>
      rw [sound.act_eq found]
      exact sound.put found (sound.onward found own)

-----------------------------------------------------------------------------------------
-- The dependencies of the keys
-----------------------------------------------------------------------------------------

/-- What a dependency of a registry is built from. -/
def builder (key : String) (config : CommandConfig) : DependencyBuilder :=
  { key, config, driven := some false }

/-- The registry once a dependency was built for a key. -/
def grow (before : Session α) (key : String) (dependency : Dependency α) : Session α where
  registry :=
    { before.registry with
      entries := insertEntry key before.fleet.dependencies.length before.registry.entries }
  fleet := { before.fleet with dependencies := before.fleet.dependencies ++ [dependency] }

/-- A key has a dependency, or one is built for it unless its settings are refused. -/
inductive Opened (before : Session α) (key : String) (config : CommandConfig)
    : Option (Nat × Session α) → Prop
  | there {id : Nat} (registered : before.registry.get? key = some id)
    : Opened before key config (some (id, before))
  | refused {fault} (absent : before.registry.get? key = none)
    (built
      : ((builder key config).build before.fleet.dependencies.length before.registry.timer
            before.fleet.clock.now
          : Except _ (Dependency α))
        = .error fault)
    : Opened before key config none
  | built {dependency : Dependency α} (absent : before.registry.get? key = none)
    (built
      : (builder key config).build before.fleet.dependencies.length before.registry.timer
          before.fleet.clock.now
        = .ok dependency)
    : Opened before key config
        (some (before.fleet.dependencies.length, before.grow key dependency))

/-- What a look-up can come to. -/
theorem opened (session : Session α) (key : String) (config : CommandConfig)
    : Opened session key config (session.open? key config) := by
  have same : ({ key, config, driven := some false } : DependencyBuilder)
      = builder key config := rfl
  simp only [open?, getOrCreate_eq, atEntry, Fleet.build, same]
  cases registered : session.registry.get? key with
  | some id => exact .there registered
  | none =>
      cases built : ((builder key config).build session.fleet.dependencies.length
          session.registry.timer session.fleet.clock.now : Except _ (Dependency α)) with
      | error fault => exact .refused registered built
      | ok dependency => exact .built registered built

/-- A dependency carries the key that it was built for. -/
theorem key_of_build {key : String} {config : CommandConfig} {timer now : Nat}
    (built : (builder key config).build id timer now = .ok dependency) : dependency.key = key := by
  obtain ⟨_, _, parts⟩ :=
    DependencyBuilder.assemble_eq_ok (DependencyBuilder.assemble_of_build built)
  rw [parts]
  rfl

/-- Settings that are accepted leave a command some time until it times out. -/
theorem patient_of_build {key : String} {config : CommandConfig} {timer now : Nat}
    (built : (builder key config).build id timer now = .ok dependency)
    : dependency.config.timeoutEnabled = true → 0 < dependency.config.executionTimeout := by
  obtain ⟨accepted, assembled⟩ := DependencyBuilder.build_eq_ok_iff.mp built
  obtain ⟨_, _, parts⟩ := DependencyBuilder.assemble_eq_ok assembled
  rw [parts]
  exact (CommandConfig.usable_of_accepted accepted).patient

/-- The first entry of a key is the one that counts. -/
theorem lookup_cons_eq (name : String) (held : Nat) (rest : List (String × Nat)) (other : String)
    : ((name, held) :: rest).lookup other
      = if other = name then some held else rest.lookup other := by
  rw [List.lookup_cons]
  by_cases same : other = name
  · rw [if_pos same, beq_iff_eq.mpr same]
  · rw [if_neg same, beq_eq_false_iff_ne.mpr same]

/-- Entries by their keys, once there is one more. -/
theorem lookup_insertEntry (key : String) (id : Nat) (entries : List (String × Nat))
    (other : String)
    : (insertEntry key id entries).lookup other
      = if other = key then some id else entries.lookup other := by
  induction entries with
  | nil => exact lookup_cons_eq key id [] other
  | cons first rest ih =>
      obtain ⟨name, held⟩ := first
      rw [insertEntry]
      split
      · exact lookup_cons_eq key id _ other
      · split
        · rename_i same
          rw [lookup_cons_eq, lookup_cons_eq, ← same]
          by_cases own : other = key
          · rw [if_pos own, if_pos own]
          · simp only [if_neg own]
        · rename_i apart
          rw [lookup_cons_eq, lookup_cons_eq, ih]
          by_cases own : other = key
          · rw [if_pos own, if_neg (own ▸ apart), if_pos own]
          · simp only [if_neg own]

/-- Entries by their keys, once one was taken out. -/
theorem lookup_remove (key : String) (entries : List (String × Nat)) (other : String)
    : (entries.filter (·.1 != key)).lookup other
      = if other = key then none else entries.lookup other := by
  induction entries with
  | nil => simp
  | cons first rest ih =>
      obtain ⟨name, held⟩ := first
      by_cases own : name = key
      · subst own
        rw [List.filter_cons_of_neg (by simp), ih, lookup_cons_eq]
        by_cases same : other = name
        · rw [if_pos same, if_pos same]
        · simp only [if_neg same]
      · rw [List.filter_cons_of_pos (by simpa using own), lookup_cons_eq, lookup_cons_eq, ih]
        by_cases same : other = name
        · rw [if_pos same, if_neg (same ▸ own), if_pos same]
        · simp only [if_neg same]

/-- The dependencies once one more was built. -/
theorem found_grow {key : String} {other : Nat} {new : Dependency α}
    (there : (session.grow key dependency).fleet.dependencies[other]? = some new)
    : session.fleet.dependencies[other]? = some new
      ∨ other = session.fleet.dependencies.length ∧ new = dependency := by
  have there : (session.fleet.dependencies ++ [dependency])[other]? = some new := there
  rw [List.getElem?_append] at there
  split at there
  · exact .inl there
  · rw [List.getElem?_singleton] at there
    split at there
    · exact .inr ⟨by omega, (Option.some.inj there).symm⟩
    · cases there

section

variable (sound : session.Sound) {key : String} {config : CommandConfig}
  (built
    : (builder key config).build session.fleet.dependencies.length session.registry.timer
        session.fleet.clock.now
      = .ok dependency)
include sound built

/-- A dependency that is built for a key is new among the others, and just built. -/
theorem Sound.fresh
    : dependency.id = session.fleet.dependencies.length ∧ dependency.timer = 0
      ∧ (session.gateway dependency).JustBuilt := by
  have assembled := DependencyBuilder.assemble_of_build built
  obtain ⟨_, _, parts⟩ := DependencyBuilder.assemble_eq_ok assembled
  have id : dependency.id = session.fleet.dependencies.length := by rw [parts]
  have place : dependency.timer = 0 := by rw [parts]; exact sound.shared
  refine ⟨id, place, builder key config, ?_⟩
  show (builder key config).assemble dependency.id dependency.timer _ = .ok dependency
  rw [id, place, ← sound.shared]
  exact assembled

/-- A dependency that was just built waits for nothing yet. -/
theorem Sound.timed_of_built : (session.gateway dependency).Timed := by
  obtain ⟨id, _, fresh⟩ := sound.fresh built
  refine ⟨sound.listed.sound, fun number handle => ?_, fun number handle => ?_⟩
  · rw [fresh.commands]
    refine iff_of_false (fun holds => ?_) nofun
    exact Nat.lt_irrefl _ (id ▸ sound.bounded _ _ holds)
  · rw [fresh.commands]
    rintro ⟨⟩

/-- A new dependency keeps a session sound. -/
theorem Sound.grow : (session.grow key dependency).Sound := by
  obtain ⟨id, place, fresh⟩ := sound.fresh built
  constructor
  · exact sound.timers
  · exact sound.shared
  · intro other new there
    rcases found_grow there with before | ⟨rfl, rfl⟩
    · exact sound.placed other new before
    · exact ⟨id, place⟩
  · intro other new there
    rcases found_grow there with before | ⟨rfl, rfl⟩
    · exact sound.kempt other new before
    · exact Gateway.kempt_of_justBuilt fresh
  · intro other new there
    rcases found_grow there with before | ⟨rfl, rfl⟩
    · exact sound.timed other new before
    · exact sound.timed_of_built built
  · intro other new there
    rcases found_grow there with before | ⟨rfl, rfl⟩
    · exact sound.patient other new before
    · exact patient_of_build built
  · exact sound.listed
  · intro listener handle holds
    have before := sound.bounded listener handle holds
    show _ < (session.fleet.dependencies ++ [dependency]).length
    rw [List.length_append]
    exact Nat.lt_add_right _ before
  · intro other number registered
    have registered : (insertEntry key session.fleet.dependencies.length
        session.registry.entries).lookup other = some number := registered
    rw [lookup_insertEntry] at registered
    show ∃ new, (session.fleet.dependencies ++ [dependency])[number]? = some new ∧ _
    split at registered
    · rename_i same
      obtain rfl := Option.some.inj registered
      exact ⟨dependency, List.getElem?_concat_length, (key_of_build built).trans same.symm⟩
    · obtain ⟨old, there, its⟩ := sound.current other number registered
      refine ⟨old, ?_, its⟩
      rw [List.getElem?_append_left (List.getElem?_eq_some_iff.mp there).1]
      exact there

end

/-- A key is forgotten. -/
def forget (before : Session α) (key : String) : Session α :=
  { before with
    registry.entries := before.registry.entries.filter (·.1 != key) }

/-- Forgetting a key keeps a session sound, as its dependency stays among the others. -/
theorem Sound.forget (sound : session.Sound) (key : String) : (session.forget key).Sound := by
  refine ⟨sound.timers, sound.shared, sound.placed, sound.kempt, sound.timed, sound.patient,
    sound.listed, sound.bounded, fun other id registered => ?_⟩
  have registered : (session.registry.entries.filter (·.1 != key)).lookup other = some id :=
    registered
  rw [lookup_remove] at registered
  split at registered
  · cases registered
  · exact sound.current other id registered

/-- Removing a key stops its dependency and forgets it. -/
theorem Sound.remove_eq (sound : session.Sound) (key : String)
    : session.step (.remove key)
      = match session.registry.get? key with
        | none => session
        | some id => (session.act id .shutdownPool).forget key := by
  simp only [step, Registry.remove]
  cases registered : session.registry.get? key with
  | none => rfl
  | some id =>
      obtain ⟨dependency, found, named⟩ := sound.current key id registered
      have stopped : session.fleet.dependencies.modify id Dependency.shutdown
          = session.fleet.dependencies.set id dependency.shutdown := by
        rw [List.modify_eq_set_getElem?, found]
        rfl
      have same : session.fleet.timers.set dependency.timer session.timer
          = session.fleet.timers := by
        rw [(sound.placed id dependency found).2, sound.timers]
        rfl
      simp only [sound.act_eq found]
      show Session.mk _ ⟨_, _, session.fleet.dependencies.modify id Dependency.shutdown⟩
        = Session.mk _ ⟨_, session.fleet.timers.set dependency.timer session.timer, _⟩
      rw [stopped, same]
      rfl

-----------------------------------------------------------------------------------------
-- Time
-----------------------------------------------------------------------------------------

/-- A change of the shared timer is seen by all who share it. -/
theorem Sound.timer_onTimer (sound : session.Sound) (change : Timer CommandRef → Timer CommandRef)
    : (session.onTimer change).timer = change session.timer := by
  show ((session.fleet.timers.modify session.registry.timer change)[session.registry.timer]?).getD
    default = _
  rw [sound.timers, sound.shared]
  rfl

/-- Something happens to the timer that leaves all registrations as they are. -/
theorem Sound.onTimer (sound : session.Sound) {change : Timer CommandRef → Timer CommandRef}
    (slots : (change session.timer).slots = session.timer.slots)
    (free : (change session.timer).free = session.timer.free)
    (registrations : (change session.timer).registrations = session.timer.registrations)
    (listed : (change session.timer).Listed) : (session.onTimer change).Sound := by
  have timer := sound.timer_onTimer change
  constructor
  · show session.fleet.timers.modify session.registry.timer change = _
    rw [timer, sound.timers, sound.shared]
    rfl
  · exact sound.shared
  · exact sound.placed
  · intro id dependency found
    exact { sound.kempt id dependency found with }
  · intro id dependency found
    show (session.onTimer change).timer.Keeps _ _
    rw [timer]
    exact Timer.Keeps.congr (sound.timed id dependency found) slots free registrations
  · exact sound.patient
  · rw [timer]
    exact listed
  · intro listener handle holds
    rw [timer, Timer.Holds, slots] at holds
    exact sound.bounded listener handle holds
  · exact sound.current

/-- The clock is of no account for the order of the dependencies. -/
theorem Sound.onClock (sound : session.Sound) (clock : Clock)
    : Sound { session with fleet.clock := clock } where
  timers := sound.timers
  shared := sound.shared
  placed := sound.placed
  kempt id dependency found := { sound.kempt id dependency found with }
  timed := sound.timed
  patient := sound.patient
  listed := sound.listed
  bounded := sound.bounded
  current := sound.current

-----------------------------------------------------------------------------------------
-- Runs
-----------------------------------------------------------------------------------------

/-- A turn of the timer's thread keeps a session sound, whatever it fires. -/
theorem Sound.tick (sound : session.Sound) : session.tick.Sound := by
  rw [Session.tick]
  split
  · exact sound
  · exact sound.act _ rfl

/-- A look-up keeps a session sound, by cases on what it comes to. -/
theorem Sound.open? (sound : session.Sound) {key : String} {config : CommandConfig}
    {after : Session α} (answer : session.open? key config = some (id, after)) : after.Sound := by
  have opened := session.opened key config
  rw [answer] at opened
  cases opened with
  | there registered => exact sound
  | built absent built => exact sound.grow built

/-- A submission keeps a session sound. -/
theorem Sound.submitTo (sound : session.Sound) (id : Nat) : (session.submitTo id).Sound := by
  simp only [Session.submitTo]
  split
  · exact sound
  · exact (sound.act id rfl).act id rfl

/-- Every step keeps a session sound. -/
theorem Sound.step (sound : session.Sound) (step : Step α) : (session.step step).Sound := by
  cases step with
  | advance millis => exact sound.onClock _
  | setClock millis => exact sound.onClock _
  | elapse millis => exact sound.onTimer rfl rfl rfl (sound.listed.elapse millis)
  | tick => exact sound.tick
  | shutdownTimer => exact sound.onTimer rfl rfl rfl sound.listed.shutdown
  | getOrCreate key config =>
      simp only [Session.step]
      split
      · exact sound
      · rename_i answer
        exact sound.open? answer
  | remove key =>
      rw [sound.remove_eq]
      split
      · exact sound
      · exact (sound.act _ rfl).forget key
  | submit key config =>
      simp only [Session.step]
      split
      · exact sound
      · rename_i answer
        exact (sound.open? answer).submitTo _
  | act address step =>
      simp only [Session.step]
      split
      · rename_i own
        exact sound.act _ (Gateway.Step.isOwn_of_isLocal own)
      · exact sound

/-- Every run keeps a session sound, by induction on its steps. -/
theorem Sound.run (sound : session.Sound) (steps : List (Step α)) : (session.run steps).Sound := by
  induction steps generalizing session with
  | nil => exact sound
  | cons first rest ih => exact ih (sound.step first)

end Session

end Registry

end Breakwater
