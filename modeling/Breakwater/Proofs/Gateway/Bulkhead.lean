import Breakwater.Proofs.Call.Places
import Breakwater.Proofs.Gateway.ExactlyOnce

/-! How many commands run their work at a time. A place in the semaphore is held until the command
has ended, which a timeout can bring about while the work still runs; a worker of the pool is busy
until the work returns.
-/

namespace Breakwater

variable {α : Type}

-----------------------------------------------------------------------------------------
-- Counting
-----------------------------------------------------------------------------------------

/-- What one place of a list adds to a count, whatever is written there. -/
theorem countP_set_split {β : Type} {list : List β} {place : Nat} {old : β}
    (found : list[place]? = some old) (counts : β → Bool)
    : ∃ others,
        list.countP counts = others + (counts old).toNat
          ∧ ∀ new, (list.set place new).countP counts = others + (counts new).toNat := by
  obtain ⟨inside, same⟩ := List.getElem?_eq_some_iff.mp found
  have counted (new : β) := List.countP_set (p := counts) (a := new) inside
  have own : (counts old).toNat ≤ list.countP counts := by
    cases value : counts old with
    | false => exact Nat.zero_le _
    | true => exact List.countP_pos_iff.mpr ⟨old, same ▸ List.getElem_mem inside, value⟩
  refine ⟨list.countP counts - (counts old).toNat, by omega, fun new => ?_⟩
  rw [counted new, same]
  cases counts old <;> cases counts new <;> rfl

/-- Whether a permit takes a place in the main semaphore. -/
def OutsidePermit.takesPlace (held : OutsidePermit) : Bool :=
  held.bulkhead == .main && !held.permit.released

/-- The places that are taken in the main semaphore, and the workers that are at a task, are those
that the commands and the permits outside of them account for.
-/
structure Loans.Accounted (loans : Loans) (config : CommandConfig) (commands : List (Command α))
    : Prop where
  placed : ∀ command ∈ commands, command.Placed loans.crew.isSome
  unreleased : ∀ command ∈ commands, command.permit ≠ some ⟨true⟩
  limited : loans.semaphore.limit = config.maxConcurrent
  acquired
    : loans.semaphore.acquired
      = loans.outside.countP OutsidePermit.takesPlace + commands.countP (·.permit.isSome)
  within : loans.semaphore.acquired ≤ config.maxConcurrent
  pooled : loans.crew.isSome = (config.isolation == .threadPool)
  staffed : Staffed loans.crew config.pool.coreSize (commands.countP Command.occupiesWorker)

-----------------------------------------------------------------------------------------
-- Permits outside of commands
-----------------------------------------------------------------------------------------

/-- Taking or giving back a place outside of commands shows in the semaphore. -/
theorem Loans.Accounted.outside {loans : Loans} {config : CommandConfig}
    {commands : List (Command α)} (accounted : loans.Accounted config commands)
    {semaphore fallbackSemaphore : Semaphore} {outside : List OutsidePermit}
    (limited : semaphore.limit = loans.semaphore.limit)
    (acquired
      : semaphore.acquired + loans.outside.countP OutsidePermit.takesPlace
        = loans.semaphore.acquired + outside.countP OutsidePermit.takesPlace)
    (within : semaphore.acquired ≤ config.maxConcurrent)
    : Loans.Accounted { loans with semaphore, fallbackSemaphore, outside } config commands := by
  have before := accounted.acquired
  refine { accounted with limited := limited.trans accounted.limited, acquired := ?_, within }
  show semaphore.acquired = outside.countP _ + _
  omega

theorem accounted_acquireOutside {dependency : Dependency α} {config : CommandConfig}
    {commands : List (Command α)} (accounted : dependency.loans.Accounted config commands)
    (bulkhead : Bulkhead)
    : (dependency.acquireOutside bulkhead).2.loans.Accounted config commands := by
  simp only [Dependency.acquireOutside]
  split
  · exact accounted
  · rename_i permit semaphore acquired
    unfold Semaphore.tryAcquire at acquired
    split at acquired
    · rename_i room
      cases acquired
      let taken : OutsidePermit := ⟨bulkhead, ⟨false⟩⟩
      have counted : (dependency.outside ++ [taken]).countP OutsidePermit.takesPlace
          = dependency.outside.countP OutsidePermit.takesPlace + taken.takesPlace.toNat := by
        rw [List.countP_append]
        cases bulkhead <;> rfl
      cases bulkhead with
      | main =>
          refine accounted.outside rfl ?_ (accounted.limited ▸ room)
          exact (Nat.succ_add_eq_add_succ _ _).trans (congrArg _ counted.symm)
      | fallback =>
          refine accounted.outside rfl ?_ accounted.within
          exact congrArg _ counted.symm
    · cases acquired

theorem accounted_releaseOutside {dependency : Dependency α} {config : CommandConfig}
    {commands : List (Command α)} (accounted : dependency.loans.Accounted config commands)
    (number : Nat) : (dependency.releaseOutside number).loans.Accounted config commands := by
  simp only [Dependency.releaseOutside]
  split
  · exact accounted
  · rename_i held found
    obtain ⟨others, counted, written⟩ := countP_set_split found OutsidePermit.takesPlace
    obtain ⟨bulkhead, ⟨released⟩⟩ := held
    cases bulkhead with
    | fallback =>
        let left := (dependency.fallbackSemaphore.release ⟨released⟩).1
        have same := counted.trans (written ⟨.fallback, left⟩).symm
        exact accounted.outside rfl (congrArg _ same) accounted.within
    | main =>
        cases released with
        | true =>
            have same := counted.trans (written ⟨.main, ⟨true⟩⟩).symm
            exact accounted.outside rfl (congrArg _ same) accounted.within
        | false =>
            refine accounted.outside rfl ?_ (Nat.le_trans (Nat.sub_le _ _) accounted.within)
            have before : dependency.semaphore.acquired = dependency.outside.countP _ + _ :=
              accounted.acquired
            show dependency.semaphore.acquired - 1 + dependency.outside.countP _
              = dependency.semaphore.acquired
                + (dependency.outside.set number ⟨.main, ⟨true⟩⟩).countP _
            rw [counted] at before ⊢
            rw [written, before]
            show others + 1 + _ - 1 + (others + 1) = others + 1 + _ + others
            omega

-----------------------------------------------------------------------------------------
-- Steps
-----------------------------------------------------------------------------------------

/-- A step that ends nothing worked on a command that had not ended. -/
theorem Call.Turn.was_isOver {before after : Call α} {step : Gateway.Step α}
    (turn : Call.Turn before step after) (onwards : after.command.lifecycle.isOver = false)
    : before.command.lifecycle.isOver = false := by
  cases turn with
  | goesOn stage lifecycle completion ledger =>
      rcases lifecycle with same | ⟨running, _⟩
      · exact same ▸ onwards
      · exact running
  | ends running pending ending ended => exact running

theorem Draws.isSome {pool drawn : Option (WorkerPool Nat)} {number : Nat} {step : Gateway.Step α}
    (draws : Draws pool number step drawn) : drawn.isSome = pool.isSome := by
  cases draws with
  | nothing other => rfl
  | task some_pool picked => rw [some_pool]; rfl

theorem Draws.isSome_of_pickUp {dependency : Dependency α} {drawn : Option (WorkerPool Nat)}
    {number : Nat} {step : Gateway.Step α} (draws : Draws dependency.pool number step drawn)
    (asked : step = .pickUp) : dependency.loans.crew.isSome = true := by
  cases draws with
  | nothing other => exact absurd asked other
  | task some_pool picked =>
      show (dependency.pool.map WorkerPool.crew).isSome = true
      rw [some_pool]
      rfl

/-- A worker that takes a task was idle. -/
theorem Draws.staffed {pool drawn : Option (WorkerPool Nat)} {number size others : Nat}
    {step : Gateway.Step α} {busy : Bool} (draws : Draws pool number step drawn)
    (free : step = .pickUp → busy = false)
    (staffed : Staffed (pool.map WorkerPool.crew) size (others + busy.toNat))
    : Staffed (drawn.map WorkerPool.crew) size (others + (step.hires || busy).toNat) := by
  cases draws with
  | nothing other =>
      have idle : step.hires = false := by
        cases step with
        | pickUp => exact absurd rfl other
        | _ => rfl
      rw [idle]
      exact staffed
  | @task held rest some_pool picked =>
      obtain rfl := free rfl
      obtain ⟨active, all⟩ := staffed held.crew (congrArg (Option.map _) some_pool)
      obtain ⟨waiting, _, idle, rfl⟩ := WorkerPool.pickUp?_eq_some picked
      rintro crew ⟨⟩
      refine ⟨congrArg (· + 1) active, ?_⟩
      have manned : held.idle + others = size := all
      show held.idle - 1 + (others + 1) = size
      omega

/-- Nothing is lent to a new command. -/
theorem Loans.Accounted.created {loans : Loans} {config : CommandConfig}
    {commands : List (Command α)} (accounted : loans.Accounted config commands)
    (hasFallback : Bool) : loans.Accounted config (commands ++ [.create hasFallback]) := by
  have idle : (Command.create hasFallback : Command α).occupiesWorker = false := by
    cases hasFallback <;> rfl
  refine { accounted with placed := ?_, unreleased := ?_, acquired := ?_, staffed := ?_ }
  · intro command member
    rcases List.mem_append.mp member with member | new
    · exact accounted.placed command member
    · obtain rfl : command = .create hasFallback := by simpa using new
      exact Command.placed_create _ hasFallback
  · intro command member
    rcases List.mem_append.mp member with member | new
    · exact accounted.unreleased command member
    · obtain rfl : command = .create hasFallback := by simpa using new
      exact nofun
  · rw [List.countP_append]
    exact accounted.acquired
  · rw [List.countP_append, List.countP_singleton, idle]
    exact accounted.staffed

/-- Handing an outcome out leaves what the command holds. -/
theorem Loans.Accounted.taken {loans : Loans} {config : CommandConfig}
    {commands : List (Command α)} (accounted : loans.Accounted config commands) {number : Nat}
    {command : Command α} (found : commands[number]? = some command)
    : loans.Accounted config (commands.set number { command with completion := .consumed }) := by
  have listed := List.mem_of_getElem? found
  obtain ⟨permits, permitsBefore, permitsAfter⟩ :=
    countP_set_split found (fun command => command.permit.isSome)
  obtain ⟨workers, workersBefore, workersAfter⟩ :=
    countP_set_split found Command.occupiesWorker
  refine { accounted with placed := ?_, unreleased := ?_, acquired := ?_, staffed := ?_ }
  · intro other member
    rcases List.mem_or_eq_of_mem_set member with member | rfl
    · exact accounted.placed other member
    · exact { accounted.placed command listed with }
  · intro other member
    rcases List.mem_or_eq_of_mem_set member with member | rfl
    · exact accounted.unreleased other member
    · exact accounted.unreleased command listed
  · rw [permitsAfter]
    exact permitsBefore ▸ accounted.acquired
  · rw [workersAfter]
    exact workersBefore ▸ accounted.staffed

/-- What is lent out stays accounted for when a command goes on. -/
theorem Loans.Accounted.turned {dependency : Dependency α} {config : CommandConfig}
    (accounted : dependency.loans.Accounted config dependency.commands) {number : Nat}
    {before after : Call α} {step : Gateway.Step α}
    (found : dependency.commands[number]? = some before.command)
    (semaphore : before.hold.semaphore = dependency.loans.semaphore)
    (draws : Draws dependency.pool number step before.dependency.pool)
    (free : step = .pickUp → before.command.work = .queued)
    (effect : Call.Effect before step after) (turn : Call.Turn before step after)
    (outside : after.dependency.outside = dependency.outside)
    : after.dependency.loans.Accounted config
        (dependency.commands.set number after.command) := by
  have listed := List.mem_of_getElem? found
  have placed := accounted.placed before.command listed
  have pool : before.dependency.pool.isSome = dependency.loans.crew.isSome :=
    draws.isSome.trans Option.isSome_map.symm
  have crew : after.dependency.loans.crew.isSome = dependency.loans.crew.isSome :=
    effect.isSome_crew.trans (Option.isSome_map.trans pool)
  obtain ⟨permits, permitsBefore, permitsAfter⟩ :=
    countP_set_split found (fun command => command.permit.isSome)
  obtain ⟨workers, workersBefore, workersAfter⟩ :=
    countP_set_split found Command.occupiesWorker
  have counted : after.hold.Counted config.maxConcurrent
      (dependency.outside.countP OutsidePermit.takesPlace + permits) := by
    have acquired := accounted.acquired
    rw [permitsBefore, ← Nat.add_assoc] at acquired
    exact effect.counted placed.spare
      ⟨semaphore ▸ accounted.limited, semaphore ▸ acquired, semaphore ▸ accounted.within,
        accounted.unreleased _ listed⟩
  have staffed : Staffed after.hold.crew config.pool.coreSize
      (workers + after.command.occupiesWorker.toNat) := by
    refine effect.staffed (draws.staffed (fun asked => ?_) (workersBefore ▸ accounted.staffed))
    have queued := free asked
    rw [Command.occupiesWorker, Call.not_onWorker placed.rescued (by simp [queued]), queued]
    rfl
  refine ⟨?_, ?_, counted.limited, ?_, counted.within, crew.trans accounted.pooled, ?_⟩
  · intro command member
    rw [crew]
    rcases List.mem_or_eq_of_mem_set member with member | rfl
    · exact accounted.placed command member
    · exact effect.placed placed pool (fun asked => draws.isSome_of_pickUp asked) turn.was_isOver
  · intro command member
    rcases List.mem_or_eq_of_mem_set member with member | rfl
    · exact accounted.unreleased command member
    · exact counted.unreleased
  · show _ = after.dependency.outside.countP _ + _
    rw [outside, permitsAfter, ← Nat.add_assoc]
    exact counted.acquired
  · rw [workersAfter]
    exact staffed

namespace Gateway

variable {before after start : Gateway α} {step : Step α}

/-- What is lent out is accounted for. -/
def Accounted (gateway : Gateway α) : Prop :=
  gateway.dependency.loans.Accounted gateway.dependency.config gateway.dependency.commands

theorem Change.accounted (change : Change before step after)
    (orderly : before.dependency.account.Orderly) (accounted : before.Accounted)
    : after.Accounted := by
  have config : after.dependency.config = before.dependency.config :=
    congrArg Settings.config change.settings
  unfold Accounted at accounted ⊢
  rw [config]
  cases change with
  | moved dependency clock => rw [dependency]; exact accounted
  | quiet account clock lends =>
      have commands : after.dependency.commands = before.dependency.commands :=
        congrArg Account.commands account
      rw [commands]
      cases lends with
      | kept loans => rw [loans]; exact accounted
      | acquired bulkhead => exact accounted_acquireOutside accounted bulkhead
      | released permit => exact accounted_releaseOutside accounted permit
  | pumped asked clock account metrics loans =>
      have commands : after.dependency.commands = before.dependency.commands :=
        congrArg Account.commands account
      rw [commands, loans]
      exact accounted
  | @created hasFallback asked clock account loans =>
      have commands : after.dependency.commands
          = before.dependency.commands ++ [.create hasFallback] :=
        congrArg Account.commands account
      rw [commands, loans]
      exact accounted.created hasFallback
  | @taken number command outcome asked found ready clock account loans =>
      have commands : after.dependency.commands
          = before.dependency.commands.set number { command with completion := .consumed } :=
        congrArg Account.commands account
      rw [commands, loans]
      exact accounted.taken found
  | @turned timer pool number command call found suffix op turn queues fixed stored draws =>
      have commands : after.dependency.commands
          = before.dependency.commands.set number call.command :=
        stored ▸ Call.commands_store fixed
      have loans : after.dependency.loans = call.dependency.loans := by
        rw [stored]
        rfl
      have placed := accounted.placed command (List.mem_of_getElem? found)
      have effect := op.effect (orderly.stage found) placed.rescued
      rw [commands, loans]
      refine accounted.turned found rfl draws ?_ effect turn (congrArg Fixed.outside fixed)
      rintro rfl
      cases op with
      | pickUp queued => exact queued

theorem accounted_of_justBuilt (built : start.JustBuilt) : start.Accounted := by
  obtain ⟨builder, assembled⟩ := built
  obtain ⟨metrics, _, same⟩ := DependencyBuilder.assemble_eq_ok assembled
  have config : start.dependency.config = builder.config := by rw [same]
  have commands : start.dependency.commands = [] := by rw [same]
  have semaphore : start.dependency.loans.semaphore
      = ⟨builder.key, builder.config.maxConcurrent, 0⟩ := by
    rw [same]
    rfl
  have outside : start.dependency.loans.outside = [] := by
    rw [same]
    rfl
  have crew : start.dependency.loans.crew = builder.freshPool.map WorkerPool.crew := by
    rw [same]
    rfl
  unfold Accounted
  rw [config, commands]
  refine ⟨?_, ?_, ?_, ?_, ?_, ?_, ?_⟩
  · rintro command ⟨⟩
  · rintro command ⟨⟩
  · rw [semaphore]
  · rw [semaphore, outside]
    rfl
  · rw [semaphore]
    exact Nat.zero_le _
  · rw [crew, DependencyBuilder.freshPool]
    cases builder.config.isolation <;> rfl
  · rw [crew, DependencyBuilder.freshPool]
    cases builder.config.isolation with
    | semaphore => rintro crew ⟨⟩
    | threadPool =>
        rintro crew ⟨⟩
        exact ⟨rfl, rfl⟩

theorem accounted_run (built : start.JustBuilt) (steps : List (Step α))
    : (start.run steps).Accounted := by
  have sound := sound_of_justBuilt built
  induction steps using run_induction with
  | nil => exact accounted_of_justBuilt built
  | snoc steps last ih =>
      have orderly := (sound_run sound steps).orderly
      rw [run_snoc]
      exact (change_step orderly last).accounted orderly ih

-----------------------------------------------------------------------------------------
-- How many run at a time
-----------------------------------------------------------------------------------------

/-- Under semaphore isolation so many commands at most run their work and have not ended; under
thread-pool isolation so many at most run their work at all.
-/
theorem running_le_bulkhead (built : start.JustBuilt) (steps : List (Step α))
    : let commands := (start.run steps).dependency.commands
      (start.dependency.config.isolation = .semaphore
        → commands.countP (fun command => command.work.isRunning && !command.lifecycle.isOver)
            ≤ start.dependency.config.maxConcurrent)
      ∧ (start.dependency.config.isolation = .threadPool
        → commands.countP (fun command => command.work.isRunning)
            ≤ start.dependency.config.pool.coreSize) := by
  intro commands
  have accounted := accounted_run built steps
  have config : (start.run steps).dependency.config = start.dependency.config :=
    congrArg Settings.config (settings_run (sound_of_justBuilt built).orderly steps)
  unfold Accounted at accounted
  rw [config] at accounted
  constructor
  · intro isolation
    have noPool : (start.run steps).dependency.loans.crew.isSome = false := by
      rw [accounted.pooled, isolation]
      rfl
    calc commands.countP (fun command => command.work.isRunning && !command.lifecycle.isOver)
        ≤ commands.countP (fun command => command.permit.isSome) := by
          refine List.countP_mono_left fun command member runs => ?_
          rw [Bool.and_eq_true, Bool.not_eq_true'] at runs
          exact (accounted.placed command member).permitted noPool runs.1 runs.2
      _ ≤ (start.run steps).dependency.loans.semaphore.acquired := by
          rw [accounted.acquired]
          exact Nat.le_add_left _ _
      _ ≤ start.dependency.config.maxConcurrent := accounted.within
  · intro isolation
    have pooled : (start.run steps).dependency.loans.crew.isSome = true := by
      rw [accounted.pooled, isolation]
      rfl
    obtain ⟨crew, held⟩ := Option.isSome_iff_exists.mp pooled
    obtain ⟨_, all⟩ := accounted.staffed crew held
    calc commands.countP (fun command => command.work.isRunning)
        ≤ commands.countP Command.occupiesWorker := by
          refine List.countP_mono_left fun command member runs => ?_
          rw [Command.occupiesWorker, (accounted.placed command member).employed runs, pooled]
          rfl
      _ ≤ start.dependency.config.pool.coreSize := all ▸ Nat.le_add_left _ _

/-- Of two commands that are submitted to a bulkhead for one, one runs its work. -/
theorem running_le_bulkhead_full
    : let start (isolation : Isolation) : Gateway Nat :=
        ofBuilder
          { key := "sample"
            config := {
              isolation, maxConcurrent := 1
              pool := { coreSize := 1, maxQueueSize := 1 }
            } } (by cases isolation <;> rfl)
      let steps : List (Step Nat) :=
        [.create false, .submit 0, .handOff 0, .pickUp, .create false, .submit 1, .handOff 1,
          .pickUp]
      let running (command : Command Nat) : Bool := command.work.isRunning
      (start .semaphore).JustBuilt ∧ (start .threadPool).JustBuilt
        ∧ ((start .semaphore).run steps).dependency.commands.countP running = 1
        ∧ ((start .threadPool).run steps).dependency.commands.countP running = 1
        ∧ ((start .semaphore).run steps).dependency.commands.countP
            (fun command => running command && !command.lifecycle.isOver) ≤ 1
        ∧ ((start .threadPool).run steps).dependency.commands.countP running ≤ 1 := by
  intro start steps running
  have built (isolation : Isolation) : (start isolation).JustBuilt := justBuilt_ofBuilder _ _
  exact ⟨built _, built _, by decide +kernel, by decide +kernel,
    (running_le_bulkhead (built .semaphore) steps).1 rfl,
    (running_le_bulkhead (built .threadPool) steps).2 rfl⟩

/-- A command that a timeout has ended leaves its place to another, though its work still runs. -/
theorem timed_out_work_runs_beyond_bulkhead
    : let start : Gateway Nat :=
        ofBuilder { key := "sample", config := { maxConcurrent := 1 } } rfl
      let steps : List (Step Nat) :=
        [.create false, .submit 0, .advance 1000, .timeoutFired 0, .create false, .submit 1]
      start.JustBuilt ∧ start.dependency.config.isolation = .semaphore
        ∧ start.dependency.config.maxConcurrent = 1
        ∧ (start.run steps).dependency.commands.countP (fun command => command.work.isRunning)
          = 2 := by
  intro start steps
  exact ⟨justBuilt_ofBuilder _ _, rfl, rfl, by decide +kernel⟩

end Gateway

end Breakwater
