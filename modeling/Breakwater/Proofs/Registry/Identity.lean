import Mathlib.Data.String.Basic
import Breakwater.Proofs.Gateway.Arithmetic
import Breakwater.Proofs.Registry.Session

/-! One dependency per key. From the moment a key gets a dependency until it is removed, everybody
who uses the key gets that one; the one that is built after the removal is new in all respects.
-/

namespace Breakwater

variable {α : Type}

-----------------------------------------------------------------------------------------
-- Dependencies that are new
-----------------------------------------------------------------------------------------

/-- Nothing has happened at a dependency yet. Its circuit has never opened; it only looks open if
the settings force it to.
-/
structure Dependency.Unused (dependency : Dependency α) (config : CommandConfig) (now : Nat)
    : Prop where
  settings : dependency.config = config
  unopened : dependency.circuit.opened = false ∧ dependency.circuit.probing = false
  state
    : dependency.circuit.state = if config.breaker.forceOpen then .isOpen else .closed
  metrics : Metrics.create dependency.key config.metrics now = .ok dependency.metrics
  health : dependency.metrics.healthCounts = .empty
  rolling : dependency.metrics.rollingCounts = .empty
  totals : dependency.metrics.totalCounts = .empty
  concurrent : dependency.metrics.concurrent = 0
  semaphores
    : dependency.semaphore.acquired = 0 ∧ dependency.fallbackSemaphore.acquired = 0
  pool
    : ∀ pool, dependency.pool = some pool
        → pool.isShutdown = false
          ∧ pool.outstanding = 0
          ∧ pool.completed = 0
          ∧ pool.rejected = 0
  commands : dependency.commands = []

/-- A dependency that was just put together has no history. -/
theorem Dependency.unused_of_assemble {builder : DependencyBuilder} {id timer now : Nat}
    {dependency : Dependency α} (assembled : builder.assemble id timer now = .ok dependency)
    : dependency.Unused builder.config now := by
  obtain ⟨metrics, created, parts⟩ := DependencyBuilder.assemble_eq_ok assembled
  obtain ⟨_, _, _, fresh⟩ := Metrics.create_eq_ok created
  subst parts
  constructor
  case state =>
    cases forced : builder.config.breaker.forceOpen <;> simp [Breaker.state, Breaker.create, forced]
  case metrics => exact created
  case health =>
    show metrics.healthCounts = _
    rw [fresh]
    rfl
  case rolling =>
    show metrics.rollingCounts = _
    rw [fresh]
    rfl
  case concurrent =>
    show metrics.concurrent = 0
    rw [fresh]
  case totals =>
    show metrics.totalCounts = _
    rw [fresh]
    rfl
  case pool =>
    intro pool given
    replace given : builder.freshPool = some pool := given
    unfold DependencyBuilder.freshPool at given
    split at given
    · cases given
    · cases given
      exact ⟨rfl, rfl, rfl, rfl⟩
  all_goals first | rfl | exact ⟨rfl, rfl⟩

-----------------------------------------------------------------------------------------
-- Entries in order of their keys
-----------------------------------------------------------------------------------------

namespace Registry

/-- Entering a key adds that one and loses none, by induction on the entries. -/
theorem mem_keys_insertEntry {key other : String} {id : Nat} {entries : List (String × Nat)}
    : other ∈ (insertEntry key id entries).map (·.1)
      ↔ other = key ∨ other ∈ entries.map (·.1) := by
  induction entries with
  | nil => simp [insertEntry]
  | cons first rest ih =>
      obtain ⟨name, held⟩ := first
      rw [insertEntry]
      split
      · simp
      · split
        · rename_i same
          simp [same]
        · rw [List.map_cons, List.mem_cons, ih, List.map_cons, List.mem_cons]
          exact or_left_comm

/-- A new entry comes to stand where its key belongs. -/
theorem sorted_insertEntry (key : String) (id : Nat) {entries : List (String × Nat)}
    (sorted : (entries.map (·.1)).Pairwise (· < ·))
    : ((insertEntry key id entries).map (·.1)).Pairwise (· < ·) := by
  induction entries with
  | nil => exact List.pairwise_singleton _ _
  | cons first rest ih =>
      obtain ⟨name, held⟩ := first
      obtain ⟨least, ordered⟩ := List.pairwise_cons.mp sorted
      rw [insertEntry]
      split
      · rename_i before
        refine List.pairwise_cons.mpr ⟨fun other listed => ?_, sorted⟩
        rcases List.mem_cons.mp listed with rfl | later
        · exact before
        · exact String.lt_trans before (least other later)
      · split
        · rename_i same
          exact List.pairwise_cons.mpr ⟨same ▸ least, ordered⟩
        · rename_i notBefore apart
          refine List.pairwise_cons.mpr ⟨fun other listed => ?_, ih ordered⟩
          rcases mem_keys_insertEntry.mp listed with rfl | later
          · exact (lt_trichotomy other name).resolve_left notBefore |>.resolve_left apart
          · exact least other later

/-- The keys of a registry are those that it has an entry for. -/
theorem mem_keys_iff {registry : Registry} {key : String}
    : key ∈ registry.keys ↔ (registry.get? key).isSome := by
  rw [get?, List.lookup_isSome_iff, keys, List.mem_map]
  constructor
  · rintro ⟨entry, member, rfl⟩
    exact ⟨entry, member, beq_self_eq_true _⟩
  · rintro ⟨entry, member, same⟩
    exact ⟨entry, member, (beq_iff_eq.mp same).symm⟩

namespace Session

-----------------------------------------------------------------------------------------
-- What a step does to the entries
-----------------------------------------------------------------------------------------

/-- The key that a step asks a dependency for, with the settings it brings. -/
def Step.opens? : Step α → Option (String × CommandConfig)
  | .getOrCreate key config | .submit key config => some (key, config)
  | _ => none

/-- The key that a step removes. -/
def Step.removes? : Step α → Option String
  | .remove key => some key
  | _ => none

/-- What a step can do to the entries of a registry. -/
inductive Edits (session : Session α) (step : Step α) : List (String × Nat) → Prop
  | kept
    (known
      : ∀ key config, step.opens? = some (key, config) → config.validate = .ok ()
          → (session.registry.get? key).isSome)
    (gone : ∀ key, step.removes? = some key → session.registry.get? key = none)
    : Edits session step session.registry.entries
  | added {key : String} {config : CommandConfig} (opens : step.opens? = some (key, config))
    (stays : step.removes? = none)
    (accepted : config.validate = .ok ()) (absent : session.registry.get? key = none)
    : Edits session step
        (insertEntry key session.fleet.dependencies.length session.registry.entries)
  | removed {key : String} {id : Nat} (removes : step.removes? = some key)
    (closes : step.opens? = none) (registered : session.registry.get? key = some id)
    : Edits session step (session.registry.entries.filter (·.1 != key))

variable {session : Session α} {key : String} {id : Nat} {config : CommandConfig}

/-- No step both asks for a key and removes one. -/
theorem Step.removes?_of_opens? {step : Step α} (opens : step.opens? = some (key, config))
    : step.removes? = none := by
  cases step <;> first | rfl | cases opens

/-- Nothing was registered or removed, and no dependency built, between two moments. -/
structure Rests (before after : Session α) : Prop where
  registry : after.registry = before.registry
  length : after.fleet.dependencies.length = before.fleet.dependencies.length

theorem Rests.refl (session : Session α) : session.Rests session := ⟨rfl, rfl⟩

/-- What rests through two stretches of a run rests through both. -/
theorem Rests.trans {middle after : Session α} (first : session.Rests middle)
    (second : middle.Rests after) : session.Rests after :=
  ⟨second.registry.trans first.registry, second.length.trans first.length⟩

/-- What a dependency does leaves the registry and the dependencies there are. -/
theorem rests_act (session : Session α) (id : Nat) (step : Gateway.Step α)
    : session.Rests (session.act id step) := by
  refine ⟨rfl, ?_⟩
  rw [act, Fleet.atDependency]
  split
  · rfl
  · exact List.length_set

/-- A submission leaves the registry and the dependencies there are. -/
theorem rests_submitTo (session : Session α) (id : Nat) : session.Rests (session.submitTo id) := by
  simp only [submitTo]
  split
  · exact .refl session
  · exact (rests_act _ _ _).trans (rests_act _ _ _)

/-- A turn of the timer's thread leaves the registry and the dependencies there are. -/
theorem rests_tick (session : Session α) : session.Rests session.tick := by
  rw [tick]
  split
  · exact .refl session
  · exact rests_act _ _ _

/-- The registry can build a dependency for any settings that are accepted. -/
theorem build_of_accepted (session : Session α) (key : String)
    (accepted : config.validate = .ok ())
    : ∃ dependency : Dependency α,
        (builder key config).build session.fleet.dependencies.length session.registry.timer
          session.fleet.clock.now = .ok dependency := by
  have usable : (builder key config).config.validate = .ok () := accepted
  exact DependencyBuilder.build_of_accepted usable _ _ _

/-- What a step that asks for a key does is what the answer to that does. -/
theorem edits_of_opens (session : Session α) (step : Step α)
    (opens : step.opens? = some (key, config))
    : session.Edits step
        (((session.open? key config).map (·.2)).getD session).registry.entries := by
  have stays := Step.removes?_of_opens? opens
  have none_removed (other : String) (removes : step.removes? = some other)
      : session.registry.get? other = none := by
    rw [stays] at removes
    cases removes
  have asked (other : String) (brought : CommandConfig)
      (also : step.opens? = some (other, brought)) : other = key ∧ brought = config := by
    rw [opens] at also
    cases also
    exact ⟨rfl, rfl⟩
  have opened := session.opened key config
  generalize session.open? key config = answer at opened
  cases opened with
  | there registered =>
      refine .kept (fun other brought also _ => ?_) none_removed
      rw [(asked other brought also).1, registered]
      rfl
  | refused absent fault =>
      refine .kept (fun other brought also accepted => ?_) none_removed
      rw [(asked other brought also).2] at accepted
      obtain ⟨dependency, built⟩ := session.build_of_accepted key accepted
      rw [fault] at built
      cases built
  | built absent built =>
      exact .added opens stays (DependencyBuilder.build_eq_ok_iff.mp built).1 absent

/-- A step that neither asks for a key nor removes one leaves the registry alone. -/
theorem edits_nothing (session : Session α) {step : Step α} (opens : step.opens? = none)
    (removes : step.removes? = none) : session.Edits step session.registry.entries := by
  refine .kept (fun key config asked _ => ?_) fun key asked => ?_
  · rw [opens] at asked
    cases asked
  · rw [removes] at asked
    cases asked

/-- A step edits the entries as its kind says: it asks for a key, removes one or leaves them. -/
theorem edits (session : Session α) (step : Step α)
    : session.Edits step (session.step step).registry.entries := by
  cases step with
  | advance | setClock | elapse | shutdownTimer => exact session.edits_nothing rfl rfl
  | tick =>
      rw [Session.step, (rests_tick session).registry]
      exact session.edits_nothing rfl rfl
  | getOrCreate key config =>
      have edits := session.edits_of_opens (.getOrCreate key config) rfl
      simp only [Session.step]
      cases answer : session.open? key config with
      | none | some _ =>
          rw [answer] at edits
          exact edits
  | submit key config =>
      have edits := session.edits_of_opens (.submit key config) rfl
      simp only [Session.step]
      cases answer : session.open? key config with
      | none =>
          rw [answer] at edits
          exact edits
      | some opened =>
          rw [answer] at edits
          show session.Edits _ (opened.2.submitTo opened.1).registry.entries
          rw [(rests_submitTo opened.2 opened.1).registry]
          exact edits
  | remove key =>
      simp only [Session.step, Registry.remove]
      cases registered : session.registry.get? key with
      | none =>
          refine .kept (fun other config opens _ => ?_) fun other removes => ?_
          · cases opens
          · obtain rfl := Option.some.inj removes
            exact registered
      | some id => exact .removed rfl rfl registered
  | act address step =>
      simp only [Session.step]
      split
      · exact session.edits_nothing rfl rfl
      · exact session.edits_nothing rfl rfl

/-- No look-up takes a dependency away. -/
theorem length_open? {opened : Session α} (answer : session.open? key config = some (id, opened))
    : session.fleet.dependencies.length ≤ opened.fleet.dependencies.length := by
  have all := session.opened key config
  rw [answer] at all
  cases all with
  | there => exact Nat.le_refl _
  | built =>
      show _ ≤ (session.fleet.dependencies ++ [_]).length
      rw [List.length_append]
      exact Nat.le_add_right _ _

/-- No dependency ever leaves the fleet. -/
theorem length_step (session : Session α) (step : Step α)
    : session.fleet.dependencies.length ≤ (session.step step).fleet.dependencies.length := by
  cases step with
  | advance | setClock | elapse | shutdownTimer => exact Nat.le_refl _
  | tick => exact Nat.le_of_eq (rests_tick session).length.symm
  | getOrCreate key config =>
      simp only [Session.step]
      split
      · exact Nat.le_refl _
      · rename_i answer
        exact length_open? answer
  | submit key config =>
      simp only [Session.step]
      split
      · exact Nat.le_refl _
      · rename_i answer
        rw [(rests_submitTo _ _).length]
        exact length_open? answer
  | remove key =>
      simp only [Session.step, Registry.remove]
      split
      · exact Nat.le_refl _
      · exact Nat.le_of_eq (List.length_modify _ _ _).symm
  | act address step =>
      simp only [Session.step]
      split
      · exact Nat.le_of_eq (rests_act _ _ _).length.symm
      · exact Nat.le_refl _

/-- Dependencies are never taken away, by induction on the steps. -/
theorem length_run (session : Session α) (steps : List (Step α))
    : session.fleet.dependencies.length ≤ (session.run steps).fleet.dependencies.length := by
  induction steps generalizing session with
  | nil => exact Nat.le_refl _
  | cons first rest ih => exact Nat.le_trans (length_step session first) (ih _)

-----------------------------------------------------------------------------------------
-- Keys through a run
-----------------------------------------------------------------------------------------

theorem get?_eq_of_entries {after : Registry} {entries : List (String × Nat)}
    (same : after.entries = entries) (key : String) : after.get? key = entries.lookup key := by
  rw [get?, same]

/-- Whoever has not removed a key finds its dependency where it was. -/
theorem get?_step {step : Step α} (registered : session.registry.get? key = some id)
    (stays : step.removes? ≠ some key) : (session.step step).registry.get? key = some id := by
  have edits := session.edits step
  generalize after : (session.step step).registry.entries = entries at edits
  rw [get?_eq_of_entries after]
  cases edits with
  | kept => exact registered
  | @added other _ opens _ _ absent =>
      have apart : key ≠ other := by
        rintro rfl
        rw [registered] at absent
        cases absent
      rw [lookup_insertEntry, if_neg apart]
      exact registered
  | @removed other _ removes =>
      have apart : key ≠ other := fun same => stays (same ▸ removes)
      rw [lookup_remove, if_neg apart]
      exact registered

/-- A key keeps its dependency while nobody removes it. -/
theorem get?_run {steps : List (Step α)} (registered : session.registry.get? key = some id)
    (stays : ∀ step ∈ steps, step.removes? ≠ some key)
    : (session.run steps).registry.get? key = some id := by
  induction steps generalizing session with
  | nil => exact registered
  | cons first rest ih =>
      obtain ⟨here, later⟩ := List.forall_mem_cons.mp stays
      exact ih (get?_step registered here) later

/-- The dependency of a key is of no account to what is done with other keys. -/
theorem get?_step_of_other {step : Step α} (unasked : ∀ config, step.opens? ≠ some (key, config))
    (stays : step.removes? ≠ some key)
    : (session.step step).registry.get? key = session.registry.get? key := by
  have edits := session.edits step
  generalize after : (session.step step).registry.entries = entries at edits
  rw [get?_eq_of_entries after]
  cases edits with
  | kept => rfl
  | @added other config opens =>
      have apart : key ≠ other := fun same => unasked config (same ▸ opens)
      rw [lookup_insertEntry, if_neg apart]
      rfl
  | @removed other _ removes =>
      have apart : key ≠ other := fun same => stays (same ▸ removes)
      rw [lookup_remove, if_neg apart]
      rfl

/-- A step asks for a key with settings that are accepted. -/
def Step.Grants (step : Step α) (key : String) : Prop :=
  ∃ config, step.opens? = some (key, config) ∧ config.validate = .ok ()

/-- Keys that have a dependency after a step are those that had one and keep it, and the one that a
dependency is built for.
-/
theorem isSome_step (session : Session α) (step : Step α) (key : String)
    : ((session.step step).registry.get? key).isSome
      ↔ step.Grants key
        ∨ (session.registry.get? key).isSome ∧ step.removes? ≠ some key := by
  have edits := session.edits step
  generalize after : (session.step step).registry.entries = entries at edits
  rw [get?_eq_of_entries after]
  cases edits with
  | kept known gone =>
      constructor
      · intro there
        replace there : (session.registry.get? key).isSome := there
        refine .inr ⟨there, fun removes => ?_⟩
        rw [gone key removes] at there
        cases there
      · rintro (⟨config, opens, accepted⟩ | ⟨there, _⟩)
        · exact known key config opens accepted
        · exact there
  | @added other config opens stays accepted absent =>
      rw [lookup_insertEntry]
      by_cases same : key = other
      · subst same
        rw [if_pos rfl]
        exact iff_of_true rfl (.inl ⟨config, opens, accepted⟩)
      · rw [if_neg same, stays]
        constructor
        · exact fun there => .inr ⟨there, nofun⟩
        · rintro (⟨brought, also, _⟩ | ⟨there, _⟩)
          · rw [opens] at also
            cases also
            exact absurd rfl same
          · exact there
  | @removed other _ removes closes =>
      rw [lookup_remove]
      by_cases same : key = other
      · subst same
        rw [if_pos rfl]
        refine iff_of_false nofun ?_
        rintro (⟨config, opens, _⟩ | ⟨_, stays⟩)
        · rw [closes] at opens
          cases opens
        · exact stays removes
      · rw [if_neg same]
        constructor
        · refine fun there => .inr ⟨there, fun also => ?_⟩
          rw [removes] at also
          exact same (Option.some.inj also).symm
        · rintro (⟨config, opens, _⟩ | ⟨there, _⟩)
          · rw [closes] at opens
            cases opens
          · exact there

/-- A key was asked for with settings that are accepted, and not removed since. -/
def Lasts (steps : List (Step α)) (key : String) : Prop :=
  ∃ earlier step later,
    steps = earlier ++ step :: later
    ∧ step.Grants key
    ∧ ∀ other ∈ later, other.removes? ≠ some key

/-- A key lasts to the end of a run if it was granted later, or at the first step and not removed
since.
-/
theorem lasts_cons {first : Step α} {rest : List (Step α)}
    : Lasts (first :: rest) key
      ↔ Lasts rest key ∨ first.Grants key ∧ ∀ other ∈ rest, other.removes? ≠ some key := by
  constructor
  · rintro ⟨earlier, step, later, split, grants, stays⟩
    cases earlier with
    | nil =>
        obtain ⟨rfl, rfl⟩ := List.cons.inj split
        exact .inr ⟨grants, stays⟩
    | cons _ earlier =>
        obtain ⟨_, rest⟩ := List.cons.inj split
        exact .inl ⟨earlier, step, later, rest, grants, stays⟩
  · rintro (⟨earlier, step, later, rfl, grants, stays⟩ | ⟨grants, stays⟩)
    · exact ⟨first :: earlier, step, later, rfl, grants, stays⟩
    · exact ⟨[], first, rest, rfl, grants, stays⟩

/-- Keys that have a dependency after a run. -/
theorem isSome_run (session : Session α) (steps : List (Step α)) (key : String)
    : ((session.run steps).registry.get? key).isSome
      ↔ Lasts steps key
        ∨ (session.registry.get? key).isSome
          ∧ ∀ step ∈ steps, step.removes? ≠ some key := by
  induction steps generalizing session with
  | nil => simp [run, Lasts]
  | cons first rest ih =>
      rw [run_past, ih, isSome_step, lasts_cons, List.forall_mem_cons]
      constructor
      · rintro (lasts | ⟨grants | ⟨there, here⟩, later⟩)
        · exact .inl (.inl lasts)
        · exact .inl (.inr ⟨grants, later⟩)
        · exact .inr ⟨there, here, later⟩
      · rintro ((lasts | ⟨grants, later⟩) | ⟨there, here, later⟩)
        · exact .inl lasts
        · exact .inr ⟨.inl grants, later⟩
        · exact .inr ⟨.inr ⟨there, here⟩, later⟩

/-- A step keeps the entries in the order of their keys. -/
theorem sorted_step (sorted : session.registry.keys.Pairwise (· < ·)) (step : Step α)
    : (session.step step).registry.keys.Pairwise (· < ·) := by
  have edits := session.edits step
  rw [Registry.keys]
  generalize (session.step step).registry.entries = entries at edits
  cases edits with
  | kept => exact sorted
  | added => exact sorted_insertEntry _ _ sorted
  | removed => exact sorted.sublist (List.filter_sublist.map _)

/-- The entries are in the order of their keys after every run, by induction on the steps. -/
theorem sorted_run (sorted : session.registry.keys.Pairwise (· < ·)) (steps : List (Step α))
    : (session.run steps).registry.keys.Pairwise (· < ·) := by
  induction steps generalizing session with
  | nil => exact sorted
  | cons first rest ih => exact ih (sorted_step sorted first)

-----------------------------------------------------------------------------------------
-- Who gets which dependency
-----------------------------------------------------------------------------------------

/-- Everybody who uses a key gets the same dependency, whatever settings they bring. -/
structure Serves (session : Session α) (key : String) (id : Nat) : Prop where
  get : session.registry.get? key = some id
  named
    : ∃ dependency,
        session.fleet.dependencies[id]? = some dependency ∧ dependency.key = key
  getOrCreate
    : ∀ config,
        session.registry.getOrCreate session.fleet key config
        = .ok (id, session.registry, session.fleet)
  /-- Whoever looked the key up before it was registered, and comes to its entry only now, does so
  too.
  -/
  entry
    : ∀ config,
        session.registry.atEntry session.fleet key config
        = .ok (id, session.registry, session.fleet)
  submit : ∀ config, session.step (.submit key config) = session.submitTo id

/-- Whoever asks for a key that has a dependency gets that one, whatever settings they bring. -/
theorem Sound.serves (sound : session.Sound) (registered : session.registry.get? key = some id)
    : session.Serves key id := by
  have answer (config : CommandConfig)
      : session.registry.getOrCreate session.fleet key config
        = .ok (id, session.registry, session.fleet) := by
    rw [Registry.getOrCreate, registered]
  have entry (config : CommandConfig) := (getOrCreate_eq _ _ _ _).symm.trans (answer config)
  refine ⟨registered, sound.current key id registered, answer, entry, fun config => ?_⟩
  simp only [Session.step, Session.open?, answer]

/-- Settings that are refused leave no trace. -/
structure Refuses (session : Session α) (key : String) (config : CommandConfig)
    (error : ConfigError) : Prop where
  getOrCreate
    : session.registry.getOrCreate session.fleet key config
      = .error (.refused (.config error))
  unopened : session.step (.getOrCreate key config) = session
  unsubmitted : session.step (.submit key config) = session

/-- Whoever asks for a key that has none with settings that are not accepted gets none either. -/
theorem refuses (absent : session.registry.get? key = none) {error : ConfigError}
    (refusal : config.validate = .error error) : session.Refuses key config error := by
  have answer : session.registry.getOrCreate session.fleet key config
      = .error (.refused (.config error)) := by
    simp only [getOrCreate_eq, atEntry, absent, Fleet.build, DependencyBuilder.build, refusal]
    rfl
  constructor
  case getOrCreate => exact answer
  all_goals simp only [Session.step, Session.open?, answer]

/-- A dependency is removed: the key has none any more, and the one it had is stopped. -/
structure Removes (session : Session α) (key : String) (id : Nat) : Prop where
  answer : (session.registry.remove session.fleet key).1 = some id
  stopped
    : ∃ dependency,
        session.fleet.dependencies[id]? = some dependency
        ∧ (session.step (.remove key)).fleet.dependencies
          = session.fleet.dependencies.set id dependency.shutdown
        ∧ ∀ pool, dependency.shutdown.pool = some pool → pool.isShutdown = true
  absent : (session.step (.remove key)).registry.get? key = none

/-- Removing a key takes its entry away and nothing else. -/
theorem Sound.removes (sound : session.Sound) (registered : session.registry.get? key = some id)
    : session.Removes key id := by
  obtain ⟨dependency, found, _⟩ := sound.current key id registered
  refine ⟨by rw [Registry.remove, registered], ⟨dependency, found, ?_, ?_⟩, ?_⟩
  · simp only [Session.step, Registry.remove, registered]
    show session.fleet.dependencies.modify id Dependency.shutdown = _
    rw [List.modify_eq_set_getElem?, found]
    rfl
  · intro pool stopped
    obtain ⟨_, _, rfl⟩ := Option.map_eq_some_iff.mp stopped
    rfl
  · simp only [Session.step, Registry.remove, registered]
    exact (lookup_remove key session.registry.entries key).trans (if_pos rfl)

/-- A dependency is built for a key: the next one of the fleet, on which nothing has happened. -/
structure Builds (session : Session α) (key : String) (config : CommandConfig) (id : Nat)
    (after : Session α) : Prop where
  answer
    : session.registry.getOrCreate session.fleet key config
      = .ok (id, after.registry, after.fleet)
  opened : session.step (.getOrCreate key config) = after
  submitted : session.step (.submit key config) = after.submitTo id
  serves : after.Serves key id
  new
    : ∃ dependency,
        after.fleet.dependencies = session.fleet.dependencies ++ [dependency]
        ∧ after.fleet.dependencies[id]? = some dependency
        ∧ dependency.Unused config session.fleet.clock.now

/-- Whoever asks for a key that has none, with settings that are accepted, gets a new one. -/
theorem Sound.builds (sound : session.Sound) (absent : session.registry.get? key = none)
    (accepted : config.validate = .ok ())
    : ∃ after, session.Builds key config session.fleet.dependencies.length after := by
  obtain ⟨dependency, built⟩ := session.build_of_accepted key accepted
  have answer : session.registry.getOrCreate session.fleet key config
      = .ok (session.fleet.dependencies.length, (session.grow key dependency).registry,
          (session.grow key dependency).fleet) := by
    have same : ({ key, config, driven := some false } : DependencyBuilder)
        = builder key config := rfl
    simp only [getOrCreate_eq, atEntry, absent, Fleet.build, same, built]
    rfl
  have registered : (session.grow key dependency).registry.get? key
      = some session.fleet.dependencies.length :=
    (lookup_insertEntry key _ session.registry.entries key).trans (if_pos rfl)
  refine ⟨session.grow key dependency, answer, ?_, ?_, (sound.grow built).serves registered,
    dependency, rfl, List.getElem?_concat_length, ?_⟩
  · simp only [Session.step, Session.open?, answer]
  · simp only [Session.step, Session.open?, answer]
  · exact Dependency.unused_of_assemble (DependencyBuilder.assemble_of_build built)

-----------------------------------------------------------------------------------------
-- All of it together
-----------------------------------------------------------------------------------------

/-- How the keys of a registry and its dependencies belong together after a run. -/
structure OnePerKey (start : Session α) (steps : List (Step α)) : Prop where
  /-- While a key is not removed, its dependency is the one that everybody gets. -/
  kept
    : ∀ key id, (start.run steps).registry.get? key = some id
        → ∀ later : List (Step α), (∀ step ∈ later, step.removes? ≠ some key)
        → (start.run (steps ++ later)).Serves key id
  /-- Without one, settings that are not accepted are refused and nothing changes, -/
  refused
    : ∀ key config error, (start.run steps).registry.get? key = none
        → config.validate = .error error
        → (start.run steps).Refuses key config error
  /-- and settings that are accepted bring a new one, which nobody ever got under any key. -/
  built
    : ∀ key config, (start.run steps).registry.get? key = none → config.validate = .ok ()
        → ∃ id after,
            (start.run steps).Builds key config id after
            ∧ ∀ earlier rest, steps = earlier ++ rest
                → ∀ other old, (start.run earlier).registry.get? other = some old → old ≠ id
  /-- What is removed is what everybody got until then. -/
  removed
    : ∀ key id, (start.run steps).registry.get? key = some id
        → (start.run steps).Removes key id
  unremoved
    : ∀ key, (start.run steps).registry.get? key = none
        → (start.run steps).registry.remove (start.run steps).fleet key
          = (none, (start.run steps).registry, (start.run steps).fleet)
  /-- What is done with a key leaves the dependencies of other keys in place. -/
  others
    : ∀ step key,
        (∀ config, step.opens? ≠ some (key, config)) → step.removes? ≠ some key
        → ((start.run steps).step step).registry.get? key = (start.run steps).registry.get? key
  /-- The keys are listed in order, each once, as long as they last. -/
  sorted : (start.run steps).registry.keys.Pairwise (· < ·)
  listed : ∀ key, key ∈ (start.run steps).registry.keys ↔ Lasts steps key
  size : (start.run steps).registry.size = (start.run steps).registry.keys.length

/-- Whatever is asked for, submitted and removed, with whatever settings: a key has one dependency
from the first use that brings settings which are accepted until it is removed.
-/
theorem one_dependency_per_key (clock : Clock) (steps : List (Step α))
    : (create clock).OnePerKey steps := by
  have sound := (sound_create (α := α) clock).run steps
  constructor
  case kept =>
    intro key id registered later stays
    have onward : ((create clock).run (steps ++ later) : Session α)
        = ((create clock).run steps).run later := List.foldl_append
    rw [onward]
    exact (sound.run later).serves (get?_run registered stays)
  case refused => exact fun key config error absent refusal => refuses absent refusal
  case built =>
    intro key config absent accepted
    obtain ⟨after, builds⟩ := sound.builds absent accepted
    refine ⟨_, after, builds, ?_⟩
    rintro earlier rest rfl other old registered
    have before := (sound_create (α := α) clock).run earlier
    obtain ⟨dependency, found, _⟩ := before.current other old registered
    have onward : ((create clock).run (earlier ++ rest) : Session α)
        = ((create clock).run earlier).run rest := List.foldl_append
    rw [onward]
    have inside := (List.getElem?_eq_some_iff.mp found).1
    exact Nat.ne_of_lt (Nat.lt_of_lt_of_le inside (length_run _ rest))
  case removed => exact fun key id registered => sound.removes registered
  case unremoved =>
    intro key absent
    rw [Registry.remove, absent]
  case others => exact fun step key unasked stays => get?_step_of_other unasked stays
  case sorted => exact sorted_run List.Pairwise.nil steps
  case listed =>
    intro key
    rw [mem_keys_iff, isSome_run]
    refine ⟨fun lasts => lasts.resolve_right ?_, .inl⟩
    rintro ⟨there, _⟩
    cases there
  case size => exact (List.length_map _).symm

/-- The circuit of a new dependency does not look closed if the settings force it open. -/
theorem forced_open_when_new
    : let config : CommandConfig := { breaker := { forceOpen := true } }
      let session : Session Nat :=
        (create ⟨0⟩).run [.getOrCreate "sample" {}, .remove "sample"]
      ∃ (id : Nat) (registry : Registry) (fleet : Fleet Nat) (dependency : Dependency Nat),
        session.registry.getOrCreate session.fleet "sample" config = .ok (id, registry, fleet)
        ∧ fleet.dependencies[id]? = some dependency
        ∧ dependency.circuit.state ≠ .closed := by
  refine ⟨_, _, _, _, rfl, rfl, ?_⟩
  decide

end Session

end Registry

end Breakwater
