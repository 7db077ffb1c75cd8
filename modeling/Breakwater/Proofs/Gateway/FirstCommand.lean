import Breakwater.Proofs.Bus.Session
import Breakwater.Proofs.Dependency.Accepted
import Breakwater.Proofs.Gateway.Order
import Breakwater.Proofs.Metrics.Collected
import Breakwater.Proofs.WorkerPool.Delivery

/-! The first command of a dependency. Settings that are accepted and do not force the circuit open
let it do its work, whatever went on around the dependency before, except for three kinds of them: a
circuit that trips on no requests at all, a queue whose threshold turns every task away, and a pool
whose two sizes are so large that their sum starts again at zero.
-/

namespace Breakwater

variable {α : Type}

-----------------------------------------------------------------------------------------
-- Settings under which nobody is served
-----------------------------------------------------------------------------------------

/-- Whether a circuit with these settings opens before there was any request, and turns requests
away for that.
-/
def BreakerConfig.tripsUnused (config : BreakerConfig) : Bool :=
  config.enabled && !config.forceClosed
    && config.volumeThreshold == 0 && config.errorThresholdPercentage == 0

/-- Whether the threshold of a queue turns every task away. -/
def PoolConfig.refusesAll (config : PoolConfig) : Bool :=
  config.maxQueueSize != 0 && config.queueRejectionThreshold == 0

/-- Whether a pool is left without a place for any task, since the sum of its sizes starts again at
zero.
-/
def PoolConfig.hasNoPlace (config : PoolConfig) : Bool := config.capacity == 0

/-- Whether a command can be turned away before anything was ever run. -/
def CommandConfig.turnsFirstAway (config : CommandConfig) : Bool :=
  config.breaker.tripsUnused
    || (config.isolation == .threadPool && (config.pool.refusesAll || config.pool.hasNoPlace))

/-- Of the sizes that a pool with workers can have, only those have no place that add up to the
first number too large for a size.
-/
theorem PoolConfig.hasNoPlace_iff {config : PoolConfig} (staffed : 1 ≤ config.coreSize)
    (workers : config.coreSize < sizeLimit) (queue : config.maxQueueSize < sizeLimit)
    : config.hasNoPlace = true ↔ config.coreSize + config.maxQueueSize = sizeLimit := by
  rw [hasNoPlace, beq_iff_eq]
  by_cases fits : config.coreSize + config.maxQueueSize < sizeLimit
  · rw [capacity_eq fits]
    omega
  · rw [capacity, Nat.mod_eq_sub_mod (Nat.le_of_not_lt fits), Nat.mod_eq_of_lt (by omega)]
    omega

example : PoolConfig.hasNoPlace { coreSize := 1, maxQueueSize := sizeLimit - 1 } = true := rfl

-----------------------------------------------------------------------------------------
-- Metrics of nothing
-----------------------------------------------------------------------------------------

/-- What a window holds was there before or was pushed into it. -/
theorem RollingWindow.mem_window_pushAll {β γ : Type} {rule : SummaryRule β γ}
    {rolling : RollingWindow β γ} {slices : List β} {slice : β}
    (member : slice ∈ (slices.foldl (push rule) rolling).window)
    : slice ∈ rolling.window ∨ slice ∈ slices := by
  induction slices generalizing rolling with
  | nil => exact .inl member
  | cons first rest ih =>
      rcases ih member with held | later
      · have slid : (rolling.push rule first).window = (rolling.slide first).window := by
          simp only [push]
          split <;> rfl
        rw [slid, slide] at held
        have grown : slice ∈ rolling.window ++ [first] := by
          dsimp only at held
          split at held
          · exact List.mem_of_mem_drop held
          · exact held
        rcases List.mem_append.mp grown with old | new
        · exact .inl old
        · exact .inr (List.mem_cons.mpr (.inl (List.mem_singleton.mp new)))
      · exact .inr (List.mem_cons_of_mem _ later)

/-- No completion has reached the metrics since the health started afresh. -/
structure Metrics.Blank (metrics : Metrics) : Prop where
  pending : metrics.bus.pending metrics.source = []
  current : metrics.slices.current = .empty
  window : ∀ slice ∈ metrics.health.window, slice = .empty
  upToDate : metrics.health.UpToDate healthSummary

namespace Metrics.Blank

variable {metrics : Metrics}

/-- New metrics are blank. -/
theorem of_created {key : String} {config : MetricsConfig} {now : Nat}
    (created : Metrics.create key config now = .ok metrics) : metrics.Blank := by
  obtain ⟨_, several, _, rfl⟩ := Metrics.create_eq_ok created
  exact ⟨rfl, rfl, nofun, RollingWindow.upToDate_empty _ (Nat.pos_of_ne_zero several)⟩

/-- Nothing at all is no bad health. -/
theorem healthCounts (blank : metrics.Blank) : metrics.healthCounts = .empty := by
  have summed (slices : List Tally) (empty : ∀ slice ∈ slices, slice = .empty)
      : healthSummary.summary slices = .empty := by
    induction slices with
    | nil => rfl
    | cons first rest ih =>
        obtain rfl := empty first List.mem_cons_self
        exact ih fun slice member => empty slice (List.mem_cons_of_mem _ member)
  rw [Metrics.healthCounts, RollingWindow.latestOrBlank, RollingWindow.latest, blank.upToDate.last]
  split
  · exact summed _ blank.window
  · rfl

/-- Blank metrics stay so when their health starts afresh. -/
theorem resetHealth (blank : metrics.Blank) : metrics.resetHealth.Blank :=
  ⟨blank.pending, blank.current, nofun, blank.upToDate.reset⟩

/-- A pump finds nothing and hands on blank slices only. -/
theorem pump (blank : metrics.Blank) (now : Nat) : (metrics.pump now).2.Blank := by
  let drained := (metrics.bus.drain metrics.source).2
  let rolled := metrics.slices.rollForward completionSlices now
  have pumped : (metrics.pump now).2
      = rolled.2.foldl pushSlice { metrics with bus := drained, slices := rolled.1 } := by
    show ((metrics.slices.pump completionSlices (metrics.bus.pending metrics.source) now).2).foldl
      pushSlice _ = _
    rw [blank.pending]
    rfl
  have emitted : ∀ slice ∈ rolled.2, slice = .empty := by
    intro slice member
    simp only [rolled, SliceStream.rollForward] at member
    split at member
    · cases member
    · rcases List.mem_cons.mp member with rfl | gap
      · exact blank.current
      · exact List.eq_of_mem_replicate gap
  have current : rolled.1.current = .empty := by
    simp only [rolled, SliceStream.rollForward]
    split
    · exact blank.current
    · rfl
  rw [pumped, foldl_pushSlice]
  refine ⟨?_, current, ?_, blank.upToDate.pushAll _⟩
  · show (metrics.bus.setPending metrics.source []).pending metrics.source = []
    rw [Bus.pending_setPending _ _ _ _ fun _ => rfl, if_pos rfl]
  · intro slice member
    rcases RollingWindow.mem_window_pushAll member with held | handedOn
    · exact blank.window slice held
    · exact emitted slice handedOn

end Metrics.Blank

/-- On no requests a circuit trips only if both its thresholds are zero. -/
theorem Breaker.warrantsTrip_of_empty {σ : Type} [HealthSource σ] {breaker : Breaker σ}
    (nothing : breaker.health = .empty)
    : breaker.warrantsTrip
      = (breaker.config.volumeThreshold == 0 && breaker.config.errorThresholdPercentage == 0) := by
  rw [warrantsTrip, nothing, Bool.eq_iff_iff]
  simp [Health.empty]

namespace Gateway

-----------------------------------------------------------------------------------------
-- Steps of the surroundings
-----------------------------------------------------------------------------------------

/-- Whether a step works on no command, and leaves the pool to its work. -/
def Step.isAround : Step α → Bool
  | .advance _ | .setClock _ | .create _ | .pump | .askCircuit | .drawWindow _ | .resetHealth
  | .acquireOutside _ | .releaseOutside _ | .timerUsed _ => true
  | _ => false

/-- What a dependency has that a permit outside of its commands does not touch. -/
structure Untouched (before after : Dependency α) : Prop where
  circuit : after.circuit = before.circuit
  commands : after.commands = before.commands
  limit : after.semaphore.limit = before.semaphore.limit
  pool : after.pool = before.pool

/-- A permit for somebody else touches neither the circuit nor the pool nor a command. -/
theorem untouched_acquireOutside (dependency : Dependency α) (bulkhead : Bulkhead)
    : Untouched dependency (dependency.acquireOutside bulkhead).2 := by
  have limit {semaphore left : Semaphore} {permit : Permit}
      (acquired : semaphore.tryAcquire = some (permit, left)) : left.limit = semaphore.limit := by
    unfold Semaphore.tryAcquire at acquired
    split at acquired <;> cases acquired
    rfl
  simp only [Dependency.acquireOutside]
  split
  · exact ⟨rfl, rfl, rfl, rfl⟩
  · rename_i permit semaphore acquired
    cases bulkhead with
    | main => exact ⟨rfl, rfl, limit acquired, rfl⟩
    | fallback => exact ⟨rfl, rfl, rfl, rfl⟩

/-- Giving back a permit of somebody else touches neither the circuit nor the pool nor a command. -/
theorem untouched_releaseOutside (dependency : Dependency α) (number : Nat)
    : Untouched dependency (dependency.releaseOutside number) := by
  simp only [Dependency.releaseOutside]
  split
  · exact ⟨rfl, rfl, rfl, rfl⟩
  · rename_i held found
    obtain ⟨bulkhead, permit⟩ := held
    cases bulkhead with
    | main =>
        refine ⟨rfl, rfl, ?_, rfl⟩
        show (dependency.semaphore.release permit).2.limit = _
        simp only [Semaphore.release]
        split <;> rfl
    | fallback => exact ⟨rfl, rfl, rfl, rfl⟩

/-- Asking the circuit touches only that and the journal. -/
theorem isCircuitOpen_eq (dependency : Dependency α) (now : Nat)
    : ∃ journal,
        (dependency.isCircuitOpen now).2
          = { dependency with circuit := (dependency.circuit.isOpen now).2.1, journal } :=
  ⟨_, Dependency.noteAll_eq _ _⟩

/-- Asking the circuit for a request touches only that and the journal. -/
theorem allowRequest_eq (dependency : Dependency α) (now : Nat)
    : ∃ journal,
        (dependency.allowRequest now).2
          = { dependency with circuit := (dependency.circuit.allowRequest now).2.1, journal } :=
  ⟨_, Dependency.noteAll_eq _ _⟩

variable {gateway : Gateway α} {builder : DependencyBuilder}

/-- Steps of the surroundings leave the pool and the commands that there are. -/
theorem around_step (gateway : Gateway α) {step : Step α} (around : step.isAround)
    : (gateway.step step).dependency.pool = gateway.dependency.pool
      ∧ ∃ more,
          (gateway.step step).dependency.commands = gateway.dependency.commands ++ more := by
  cases step with
  | advance | setClock | pump | drawWindow | resetHealth | timerUsed =>
      exact ⟨rfl, [], (List.append_nil _).symm⟩
  | create hasFallback => exact ⟨rfl, [.create hasFallback], rfl⟩
  | askCircuit =>
      obtain ⟨journal, same⟩ := isCircuitOpen_eq gateway.dependency gateway.clock.now
      show (gateway.dependency.isCircuitOpen gateway.clock.now).2.pool = _
        ∧ ∃ more, (gateway.dependency.isCircuitOpen gateway.clock.now).2.commands = _ ++ more
      rw [same]
      exact ⟨rfl, [], (List.append_nil _).symm⟩
  | acquireOutside bulkhead =>
      have untouched := untouched_acquireOutside gateway.dependency bulkhead
      exact ⟨untouched.pool, [], untouched.commands.trans (List.append_nil _).symm⟩
  | releaseOutside permit =>
      have untouched := untouched_releaseOutside gateway.dependency permit
      exact ⟨untouched.pool, [], untouched.commands.trans (List.append_nil _).symm⟩
  | _ => cases around

/-- What steps of the surroundings keep one by one, they keep together. -/
theorem around_run_keeps {holds : Gateway α → Prop}
    (kept : ∀ gateway (step : Step α), step.isAround → holds gateway → holds (gateway.step step))
    {gateway : Gateway α} (start : holds gateway) {steps : List (Step α)}
    (around : ∀ step ∈ steps, step.isAround) : holds (gateway.run steps) := by
  induction steps generalizing gateway with
  | nil => exact start
  | cons first rest ih =>
      exact ih (kept gateway first (around first List.mem_cons_self) start)
        fun step member => around step (List.mem_cons_of_mem _ member)

-----------------------------------------------------------------------------------------
-- Before the first command
-----------------------------------------------------------------------------------------

/-- No command was submitted to a dependency that was built so. -/
structure Vacant (builder : DependencyBuilder) (gateway : Gateway α) : Prop where
  breaker : gateway.dependency.circuit.config = builder.config.breaker
  /-- Only a circuit that trips on no requests can have tripped. -/
  tripped
    : gateway.dependency.circuit.opened = true
        → builder.config.breaker.volumeThreshold = 0
          ∧ builder.config.breaker.errorThresholdPercentage = 0
  blank : gateway.dependency.metrics.Blank
  idle : ∀ command ∈ gateway.dependency.commands, command.Idle
  limit : gateway.dependency.semaphore.limit = builder.config.maxConcurrent
  pool : gateway.dependency.pool = builder.freshPool

/-- A dependency that was just built is vacant. -/
theorem vacant_of_build
    (built
      : builder.build gateway.dependency.id gateway.dependency.timer gateway.clock.now
        = .ok gateway.dependency)
    : gateway.Vacant builder := by
  obtain ⟨metrics, created, same⟩ :=
    DependencyBuilder.assemble_eq_ok (DependencyBuilder.assemble_of_build built)
  have circuit : gateway.dependency.circuit
      = .create builder.key builder.config.breaker builder.listeners metrics := by rw [same]
  have commands : gateway.dependency.commands = [] := by rw [same]
  constructor
  case breaker =>
    rw [circuit]
    rfl
  case tripped =>
    intro opened
    rw [circuit] at opened
    exact absurd opened Bool.false_ne_true
  case blank =>
    have blank : metrics.Blank := .of_created created
    rw [Dependency.metrics, circuit]
    exact blank
  case idle =>
    rw [commands]
    exact fun _ member => absurd member List.not_mem_nil
  case limit => rw [same]
  case pool => rw [same]

/-- The health of a vacant dependency is that of no requests. -/
theorem Vacant.health (vacant : gateway.Vacant builder)
    : gateway.dependency.circuit.health = .empty :=
  vacant.blank.healthCounts

/-- Nothing in the surroundings of a dependency makes up for a command. -/
theorem Vacant.step (vacant : gateway.Vacant builder) {step : Step α} (around : step.isAround)
    : (gateway.step step).Vacant builder := by
  have of_untouched {dependency : Dependency α}
      (untouched : Untouched gateway.dependency dependency)
      : ({ gateway with dependency } : Gateway α).Vacant builder := by
    constructor
    case breaker => rw [untouched.circuit]; exact vacant.breaker
    case tripped => rw [untouched.circuit]; exact vacant.tripped
    case blank => rw [Dependency.metrics, untouched.circuit]; exact vacant.blank
    case idle => rw [untouched.commands]; exact vacant.idle
    case limit => exact untouched.limit.trans vacant.limit
    case pool => exact untouched.pool.trans vacant.pool
  cases step with
  | advance millis => exact { vacant with }
  | setClock millis => exact { vacant with }
  | timerUsed use => exact { vacant with }
  | create hasFallback =>
      refine { vacant with idle := ?_ }
      intro command member
      rcases List.mem_append.mp member with old | new
      · exact vacant.idle command old
      · rw [List.mem_singleton.mp new]
        exact Command.idle_create hasFallback
  | pump => exact { vacant with blank := vacant.blank.pump gateway.clock.now }
  | drawWindow millis => exact { vacant with }
  | resetHealth => exact { vacant with blank := vacant.blank.resetHealth }
  | askCircuit =>
      obtain ⟨journal, same⟩ := isCircuitOpen_eq gateway.dependency gateway.clock.now
      have asked : gateway.step .askCircuit
          = { gateway with dependency := { gateway.dependency with
                circuit := (gateway.dependency.circuit.isOpen gateway.clock.now).2.1, journal } } :=
        congrArg (fun dependency => { gateway with dependency }) same
      rw [asked]
      simp only [Breaker.isOpen]
      split
      · exact { vacant with }
      · split
        · exact { vacant with }
        · rename_i unwarranted
          have warranted : gateway.dependency.circuit.warrantsTrip = true := by
            simp only [Bool.or_eq_true, Bool.not_eq_true', not_or, Bool.not_eq_false]
              at unwarranted
            exact unwarranted.2
          rw [Breaker.warrantsTrip_of_empty vacant.health, vacant.breaker] at warranted
          exact { vacant with tripped := fun _ => by simpa using warranted }
  | acquireOutside bulkhead =>
      exact of_untouched (untouched_acquireOutside gateway.dependency bulkhead)
  | releaseOutside permit =>
      exact of_untouched (untouched_releaseOutside gateway.dependency permit)
  | _ => cases around

/-- The circuit lets the first command pass, unless it trips on no requests. -/
theorem Vacant.passes (vacant : gateway.Vacant builder)
    (unforced : builder.config.breaker.forceOpen = false)
    (fair : builder.config.breaker.tripsUnused = false) (now : Nat)
    : (gateway.dependency.circuit.allowRequest now).1 = true := by
  have warranted := Breaker.warrantsTrip_of_empty vacant.health
  have tripped := vacant.tripped
  rw [← vacant.breaker] at unforced fair tripped
  generalize gateway.dependency.circuit = breaker at warranted unforced fair tripped
  simp only [BreakerConfig.tripsUnused, Bool.and_assoc, ← warranted] at fair
  cases enabled : breaker.config.enabled with
  | false => simp [Breaker.allowRequest, enabled]
  | true =>
      cases kept : breaker.config.forceClosed with
      | true => simp [Breaker.allowRequest, enabled, unforced, kept]
      | false =>
          have calm : breaker.warrantsTrip = false := by simpa [enabled, kept] using fair
          have closed : breaker.opened = false := by
            rw [Bool.eq_false_iff]
            intro opened
            simp [warranted, tripped opened] at calm
          simp [Breaker.allowRequest, Breaker.isOpen, enabled, unforced, kept, closed, calm]

/-- A circuit that trips on no requests turns the first command away if nobody asked it before. -/
theorem Vacant.denies (vacant : gateway.Vacant builder)
    (unforced : builder.config.breaker.forceOpen = false)
    (trips : builder.config.breaker.tripsUnused = true)
    (closed : gateway.dependency.circuit.opened = false) (now : Nat)
    : (gateway.dependency.circuit.allowRequest now).1 = false := by
  have warranted := Breaker.warrantsTrip_of_empty vacant.health
  rw [← vacant.breaker] at unforced trips
  generalize gateway.dependency.circuit = breaker at warranted unforced trips closed
  simp only [BreakerConfig.tripsUnused, Bool.and_assoc, ← warranted, Bool.and_eq_true,
    Bool.not_eq_true'] at trips
  obtain ⟨enabled, kept, warranted⟩ := trips
  simp [Breaker.allowRequest, Breaker.isOpen, Breaker.allowSingleTest, Breaker.trip, enabled,
    unforced, kept, closed, warranted]

-----------------------------------------------------------------------------------------
-- The way of the first command
-----------------------------------------------------------------------------------------

/-- The work of a command was started and is running, and nothing has turned the command away. -/
structure BegunBy (gateway : Gateway α) (number : Nat) (runner : Runner) : Prop where
  running
    : ∃ command since,
        gateway.dependency.commands[number]? = some command
          ∧ command.work = .running since runner ∧ command.record.tags = .empty
  noted : .workStarted number ∈ gateway.dependency.journal

/-- Work that is started when the command enters is begun by the thread it is on. -/
theorem begunBy_startWork {before call : Call α} (runner : Runner)
    (entering : call.command.Entering) (fixed : call.fixed = before.fixed)
    (found : before.dependency.commands[before.number]? = some before.command)
    : (call.startWork runner).store.BegunBy before.number runner := by
  have inTime : call.command.timeout ≠ .timedOut := by simp [entering.timeout]
  constructor
  case running =>
    obtain ⟨thread, record, command, tags, _⟩ :=
      call.startWork_started runner entering.lifecycle inTime
    have kept := (Call.fixed_of_frame (call.frame_startWork runner)).trans fixed
    refine ⟨(call.startWork runner).command, call.now, Call.getElem?_store kept found, ?_, ?_⟩
    · rw [command]
    · rw [command]
      exact tags.trans entering.tags
  case noted =>
    have number : call.number = before.number := congrArg Fixed.number fixed
    have starts : call.takeGauge.command.lifecycle = .chainCreated
        ∧ call.takeGauge.command.timeout ≠ .timedOut := ⟨entering.lifecycle, inTime⟩
    show .workStarted before.number ∈ (call.startWork runner).dependency.journal
    rw [← number, Call.startWork]
    dsimp only
    rw [if_pos starts]
    split
    · simp only [Call.enterWorker]
      split <;> exact List.mem_cons_self
    · exact List.mem_cons_self

/-- A command that finds a place in the semaphore is run by its caller. -/
theorem begunBy_admitBySemaphore {before call : Call α} (entering : call.command.Entering)
    (fixed : call.fixed = before.fixed)
    (found : before.dependency.commands[before.number]? = some before.command)
    (room : call.dependency.semaphore.acquired < call.dependency.semaphore.limit)
    : call.admitBySemaphore.store.BegunBy before.number .caller := by
  obtain ⟨⟨permit, semaphore⟩, place⟩ :=
    Option.isSome_iff_exists.mp (Semaphore.tryAcquire_isSome.mpr room)
  simp only [Call.admitBySemaphore, place]
  let held := (call.mapDependency ({ · with semaphore })).mapCommand
    ({ · with permit := some permit })
  have begun : held.beginInvocation.command.Entering :=
    Call.entering_beginInvocation { entering with }
  have kept : held.beginInvocation.fixed = before.fixed :=
    (Call.fixed_of_frame held.frame_beginInvocation).trans fixed
  exact begunBy_startWork .caller begun kept found

/-- The pool of a dependency that was built so, with all workers idle and some tasks waiting. -/
def idlePool (builder : DependencyBuilder) (queue : List Nat) : WorkerPool Nat :=
  let fresh : WorkerPool Nat := .create builder.key builder.config.pool
  { fresh with outstanding := queue.length, channel := { fresh.channel with tasks := queue } }

/-- A command is on its way through a pool that does nothing else. -/
structure Underway (builder : DependencyBuilder) (number : Nat) (work : WorkPhase)
    (queue : List Nat) (gateway : Gateway α) : Prop where
  entering
    : ∃ command,
        gateway.dependency.commands[number]? = some command ∧ command.Entering
          ∧ command.work = work
  pool : gateway.dependency.pool = some (idlePool builder queue)

variable {number : Nat}

/-- What goes on around a command on its way does not hold it up. -/
theorem Underway.around {work : WorkPhase} {queue : List Nat}
    (underway : gateway.Underway builder number work queue) {steps : List (Step α)}
    (around : ∀ step ∈ steps, step.isAround)
    : (gateway.run steps).Underway builder number work queue := by
  refine around_run_keeps ?_ underway around
  intro gateway step around underway
  obtain ⟨pool, more, commands⟩ := gateway.around_step around
  obtain ⟨command, found, entering⟩ := underway.entering
  refine ⟨⟨command, ?_, entering⟩, pool.trans underway.pool⟩
  rw [commands, List.getElem?_append_left (List.getElem?_eq_some_iff.mp found).1, found]

/-- An empty pool takes the command that is handed over, unless its threshold refuses everything or
it has no place at all.
-/
theorem Underway.handOff (underway : gateway.Underway builder number .handingOff [])
    (staffed : 0 < builder.config.pool.coreSize)
    (fair : builder.config.pool.refusesAll = false)
    (roomy : builder.config.pool.hasNoPlace = false)
    : (gateway.step (.handOff number)).Underway builder number .queued [number] := by
  obtain ⟨⟨command, found, entering, work⟩, pool⟩ := underway
  have workers : 1 ≤ (idlePool builder []).config.coreSize := staffed
  have accepts : (idlePool builder []).refusal? = none := by
    have consistent : (idlePool builder []).Consistent :=
      WorkerPool.consistent_create builder.key builder.config.pool
    refine (consistent.refusal?_eq_none_iff workers).mpr ⟨rfl, ?_, ?_⟩
    · simp only [PoolConfig.refusesAll, Bool.and_eq_false_iff, bne_eq_false_iff_eq,
        beq_eq_false_iff_ne] at fair
      exact fair.imp_right Nat.pos_of_ne_zero
    · exact Nat.pos_of_ne_zero (beq_eq_false_iff_ne.mp roomy)
  have taken : (idlePool builder []).submit number = (.ok (), idlePool builder [number]) :=
    WorkerPool.submit_of_taken accepts
  let call : Call α := ⟨gateway, number, command⟩
  have handed : gateway.step (.handOff number)
      = ((call.setPool (idlePool builder [number])).mapCommand
          ({ · with work := .queued })).store := by
    have pool : call.dependency.pool = some (idlePool builder []) := pool
    show gateway.onCommand number Call.handOff = _
    simp only [onCommand, found, Call.handOff, work]
    simp only [call] at pool
    simp only [pool, taken]
    rfl
  rw [handed]
  refine ⟨⟨{ command with work := .queued }, ?_, { entering with }, rfl⟩, rfl⟩
  exact List.getElem?_set_self (List.getElem?_eq_some_iff.mp found).1

/-- An idle worker starts the work of the command that waits. -/
theorem Underway.pickUp (underway : gateway.Underway builder number .queued [number])
    (staffed : 0 < builder.config.pool.coreSize)
    : (gateway.step .pickUp).BegunBy number .worker := by
  obtain ⟨⟨command, found, entering, work⟩, pool⟩ := underway
  let left : WorkerPool Nat := (idlePool builder [number]).engage []
  have taken : (idlePool builder [number]).pickUp? = some (number, left) := by
    rcases (idlePool builder [number]).pickUp?_cases with ⟨_, _, waiting, _, found⟩ | ⟨_, settled⟩
    · cases waiting
      exact found
    · cases settled staffed
  let picked := gateway.mapDependency ({ · with pool := some left })
  have there : picked.dependency.commands[number]? = some command := found
  have started : gateway.step .pickUp = picked.onCommand number (·.startWork .worker) := by
    show (gateway.pickUp?.map (·.2)).getD gateway = _
    simp only [pickUp?, pool, taken, bind, Option.bind_some]
    rfl
  rw [started, onCommand, there]
  exact @begunBy_startWork _ ⟨picked, number, command⟩ _ .worker entering rfl there

-----------------------------------------------------------------------------------------
-- The submission
-----------------------------------------------------------------------------------------

/-- A command that is submitted now gets to its work: at once on the thread of its caller if there
is no pool, and else once it was handed to the pool and a worker has looked for a task, whatever
goes on around the dependency in between.
-/
structure ServesFirst (gateway : Gateway α) (number : Nat) : Prop where
  accepted : (gateway.submit number).1 = .ok ()
  atOnce
    : gateway.dependency.pool = none
        → (gateway.step (.submit number)).BegunBy number .caller
  inTurn
    : gateway.dependency.pool ≠ none
        → ∀ pause wait : List (Step α), (∀ step ∈ pause ++ wait, step.isAround)
        → (gateway.run (.submit number :: pause ++ .handOff number :: wait ++ [.pickUp])).BegunBy
            number .worker

/-- A command that was not submitted can be. -/
theorem submit_of_idle {command : Command α}
    (found : gateway.dependency.commands[number]? = some command) (idle : command.Idle)
    : gateway.submit number = (.ok (), (Call.submit ⟨gateway, number, command⟩).store) := by
  simp only [submit, found, idle.lifecycle, if_true]

/-- A command of a vacant dependency can be submitted. -/
theorem Vacant.step_submit (vacant : gateway.Vacant builder) {command : Command α}
    (found : gateway.dependency.commands[number]? = some command)
    : gateway.step (.submit number) = (Call.submit ⟨gateway, number, command⟩).store :=
  congrArg (·.2) (submit_of_idle found (vacant.idle command (List.mem_of_getElem? found)))

/-- The circuit is asked about a command, and the rest of the dependency stays as it is. -/
theorem asked_eq (call : Call α)
    : ∃ journal,
        call.asked.dependency
          = { call.dependency with
              circuit := (call.dependency.circuit.allowRequest call.now).2.1, journal } :=
  allowRequest_eq call.dependency call.now

/-- A command that the circuit lets pass and the semaphore has a place for starts at once. -/
theorem Vacant.begunBy_submit (vacant : gateway.Vacant builder) (usable : builder.config.Usable)
    {command : Command α} (found : gateway.dependency.commands[number]? = some command)
    (allowed : (⟨gateway, number, command⟩ : Call α).isAllowed = true)
    (free : gateway.dependency.semaphore.acquired = 0) (noPool : gateway.dependency.pool = none)
    : (Call.submit ⟨gateway, number, command⟩).store.BegunBy number .caller := by
  let call : Call α := ⟨gateway, number, command⟩
  have idle := vacant.idle command (List.mem_of_getElem? found)
  have admitted : call.submit = call.asked.admitBySemaphore := by
    rw [Call.submit_eq, if_pos allowed, show call.dependency.pool = none from noPool]
  have room : call.asked.dependency.semaphore.acquired
      < call.asked.dependency.semaphore.limit := by
    obtain ⟨journal, asked⟩ := asked_eq call
    rw [asked]
    show gateway.dependency.semaphore.acquired < gateway.dependency.semaphore.limit
    rw [free, vacant.limit]
    exact usable.maxConcurrent
  rw [admitted]
  exact @begunBy_admitBySemaphore _ call _ (idle.entering call.now)
    (Call.fixed_of_frame call.frame_asked) found room

/-- An idle pool has room, unless its settings leave none to anybody. -/
theorem isQueueSpaceAvailable_idlePool
    : (idlePool builder []).isQueueSpaceAvailable = !builder.config.pool.refusesAll := by
  rw [Bool.eq_iff_iff]
  simp [WorkerPool.isQueueSpaceAvailable, WorkerPool.queueSize, idlePool, WorkerPool.create,
    PoolConfig.refusesAll, Nat.pos_iff_ne_zero]

/-- A command that the circuit lets pass and the queue has room for is about to be handed over. -/
theorem Vacant.underway_submit (vacant : gateway.Vacant builder)
    {command : Command α} (found : gateway.dependency.commands[number]? = some command)
    (allowed : (⟨gateway, number, command⟩ : Call α).isAllowed = true)
    (fair : builder.config.pool.refusesAll = false)
    (pool : gateway.dependency.pool = some (idlePool builder []))
    : (Call.submit ⟨gateway, number, command⟩).store.Underway builder number .handingOff [] := by
  let call : Call α := ⟨gateway, number, command⟩
  have idle := vacant.idle command (List.mem_of_getElem? found)
  have space : (idlePool builder []).isQueueSpaceAvailable = true := by
    rw [isQueueSpaceAvailable_idlePool, fair]
    rfl
  have admitted : call.submit
      = call.asked.beginInvocation.mapCommand ({ · with work := .handingOff }) := by
    rw [Call.submit_eq, if_pos allowed,
      show call.dependency.pool = some (idlePool builder []) from pool]
    exact if_pos space
  have entering : call.asked.command.Entering := idle.entering call.now
  have stored := @Call.getElem?_store _ _ call (Call.fixed_of_frame call.frame_submit) found
  rw [admitted] at stored ⊢
  refine ⟨⟨_, stored, { Call.entering_beginInvocation entering with }, rfl⟩, ?_⟩
  obtain ⟨journal, asked⟩ := asked_eq call
  show call.asked.beginInvocation.dependency.pool = _
  rw [Call.dependency_beginInvocation, asked]
  exact pool

/-- A vacant dependency has no pool or an idle one, as its settings say. -/
theorem Vacant.pool_cases (vacant : gateway.Vacant builder)
    : (builder.config.isolation = .semaphore ∧ gateway.dependency.pool = none)
      ∨ (builder.config.isolation = .threadPool
        ∧ gateway.dependency.pool = some (idlePool builder [])) := by
  rw [vacant.pool, DependencyBuilder.freshPool]
  cases builder.config.isolation with
  | semaphore => exact .inl ⟨rfl, rfl⟩
  | threadPool => exact .inr ⟨rfl, rfl⟩

/-- Settings that do not turn the first command away let it get to its work. -/
theorem Vacant.servesFirst (vacant : gateway.Vacant builder) (usable : builder.config.Usable)
    (unforced : builder.config.breaker.forceOpen = false)
    (fair : builder.config.turnsFirstAway = false)
    (created : number < gateway.dependency.commands.length)
    (free : gateway.dependency.semaphore.acquired = 0) : gateway.ServesFirst number := by
  simp only [CommandConfig.turnsFirstAway, Bool.or_eq_false_iff] at fair
  obtain ⟨calm, takes⟩ := fair
  obtain ⟨command, found⟩ : ∃ command, gateway.dependency.commands[number]? = some command :=
    ⟨_, List.getElem?_eq_getElem created⟩
  have idle := vacant.idle command (List.mem_of_getElem? found)
  have allowed : (⟨gateway, number, command⟩ : Call α).isAllowed = true :=
    vacant.passes unforced calm gateway.clock.now
  have submitted := submit_of_idle found idle
  have stepped : gateway.step (.submit number)
      = (Call.submit ⟨gateway, number, command⟩).store := congrArg (·.2) submitted
  constructor
  case accepted => rw [submitted]
  case atOnce =>
    intro noPool
    rw [stepped]
    exact vacant.begunBy_submit usable found allowed free noPool
  case inTurn =>
    intro pooled pause wait around
    obtain ⟨_, noPool⟩ | ⟨isolation, pool⟩ := vacant.pool_cases
    · exact absurd noPool pooled
    · obtain ⟨admits, roomy⟩ : builder.config.pool.refusesAll = false
          ∧ builder.config.pool.hasNoPlace = false := by
        simpa [isolation] using takes
      have underway := vacant.underway_submit found allowed admits pool
      rw [← stepped] at underway
      have arrived := underway.around fun step member =>
        around step (List.mem_append_left _ member)
      have queued := arrived.handOff (usable.staffed isolation) admits roomy
      have waited := queued.around fun step member =>
        around step (List.mem_append_right _ member)
      have started := waited.pickUp (usable.staffed isolation)
      simpa only [run_append, run_cons, run_nil, List.cons_append, List.append_assoc] using started

-----------------------------------------------------------------------------------------
-- Being turned away
-----------------------------------------------------------------------------------------

/-- Work that is over is not begun by anybody. -/
theorem not_begunBy_of_over {command : Command α} {runner : Runner}
    (found : gateway.dependency.commands[number]? = some command) (ended : command.work = .over)
    : ¬gateway.BegunBy number runner := by
  intro started
  obtain ⟨_, _, same, running, _⟩ := started.running
  rw [found] at same
  cases same
  cases ended.symm.trans running

/-- A command that is over is not handed over. -/
theorem handOff_of_over {command : Command α}
    (found : gateway.dependency.commands[number]? = some command) (ended : command.work = .over)
    : gateway.step (.handOff number) = gateway := by
  obtain ⟨inside, there⟩ := List.getElem?_eq_some_iff.mp found
  show gateway.onCommand number Call.handOff = gateway
  simp only [onCommand, found, Call.handOff, ended]
  show { gateway with dependency := { gateway.dependency with
    commands := gateway.dependency.commands.set number command } } = gateway
  rw [← there, List.set_getElem_self]

/-- No worker picks up anything from an empty queue. -/
theorem pickUp_of_empty (empty : gateway.dependency.waiting = [])
    : gateway.step .pickUp = gateway := by
  obtain same | ⟨pool, first, rest, held, picked, _⟩ := gateway.pickUp_cases
  · exact same
  · simp [Dependency.waiting, held, queue_of_picked picked] at empty

/-- Work that the hand-over has left over is not started later either if nobody else waits. -/
theorem not_servesFirst_of_handedOver {command : Command α}
    (pooled : gateway.dependency.pool ≠ none)
    (found
      : (gateway.run [.submit number, .handOff number]).dependency.commands[number]?
        = some command)
    (ended : command.work = .over)
    (empty : (gateway.run [.submit number, .handOff number]).dependency.waiting = [])
    : ¬gateway.ServesFirst number := by
  intro serves
  have started := serves.inTurn pooled [] [] nofun
  have run : gateway.run [.submit number, .handOff number, .pickUp]
      = gateway.run [.submit number, .handOff number] :=
    (gateway.run_snoc [.submit number, .handOff number] .pickUp).trans (pickUp_of_empty empty)
  exact not_begunBy_of_over found ended (run ▸ started)

/-- Work that a submission has left over is not started later either if nobody else waits. -/
theorem not_servesFirst_of_over {command : Command α}
    (found : (gateway.step (.submit number)).dependency.commands[number]? = some command)
    (ended : command.work = .over)
    (empty : (gateway.step (.submit number)).dependency.waiting = [])
    : ¬gateway.ServesFirst number := by
  by_cases noPool : gateway.dependency.pool = none
  · exact fun serves => not_begunBy_of_over found ended (serves.atOnce noPool)
  · have run : gateway.run [.submit number, .handOff number] = gateway.step (.submit number) :=
      handOff_of_over found ended
    exact not_servesFirst_of_handedOver noPool (run ▸ found) ended (run ▸ empty)

/-- A pool without any place refuses the command that is handed over. -/
theorem Underway.not_servesFirst
    (underway : (gateway.step (.submit number)).Underway builder number .handingOff [])
    (pooled : gateway.dependency.pool ≠ none)
    (fair : builder.config.pool.refusesAll = false)
    (full : builder.config.pool.hasNoPlace = true) : ¬gateway.ServesFirst number := by
  obtain ⟨⟨command, found, entering, work⟩, pool⟩ := underway
  let call : Call α := ⟨gateway.step (.submit number), number, command⟩
  have held : call.dependency.pool = some (idlePool builder []) := pool
  have refused : (idlePool builder []).refusal? = some (.saturated builder.key) := by
    have space : (idlePool builder []).isQueueSpaceAvailable = true := by
      rw [isQueueSpaceAvailable_idlePool, fair]
      rfl
    have none : (idlePool builder []).config.capacity = 0 := beq_iff_eq.mp full
    simp only [WorkerPool.refusal?, space, none]
    rfl
  have ended : call.handOff.command.work = .over := Call.work_handOff_of_refused held work refused
  have stepped : gateway.run [.submit number, .handOff number] = call.handOff.store := by
    show (gateway.step (.submit number)).onCommand number Call.handOff = _
    rw [onCommand, found]
  have stored := @Call.getElem?_store _ _ call call.fixed_handOff found
  have empty : call.handOff.dependency.waiting = [] := by
    have nobody : call.dependency.waiting = [] := by rw [Dependency.waiting, held]; rfl
    cases call.handOff_queues with
    | stays waiting _ => exact waiting.trans nobody
    | joins _ _ queued => cases ended.symm.trans queued
  exact not_servesFirst_of_handedOver pooled (stepped ▸ stored) ended (stepped ▸ empty)

/-- A command that its submission ends is not served later. -/
theorem Vacant.not_servesFirst_of_ended (vacant : gateway.Vacant builder) {command : Command α}
    (found : gateway.dependency.commands[number]? = some command)
    (ended : (Call.submit ⟨gateway, number, command⟩).command.work = .over)
    : ¬gateway.ServesFirst number := by
  let call : Call α := ⟨gateway, number, command⟩
  have stepped : gateway.step (.submit number) = call.submit.store := vacant.step_submit found
  have stored := @Call.getElem?_store _ _ call (Call.fixed_of_frame call.frame_submit) found
  have empty : call.submit.store.dependency.waiting = [] := by
    have same : call.submit.dependency.waiting = call.dependency.waiting :=
      congrArg (·.2.2.waiting) call.frame_submit
    show call.submit.dependency.waiting = []
    rw [same]
    show gateway.dependency.waiting = []
    obtain ⟨_, pool⟩ | ⟨_, pool⟩ := vacant.pool_cases <;> rw [Dependency.waiting, pool] <;> rfl
  rw [← stepped] at stored empty
  exact not_servesFirst_of_over stored ended empty

/-- A queue that refuses everything ends a command that the circuit lets pass. -/
theorem ended_of_refusesAll {command : Command α}
    (allowed : (⟨gateway, number, command⟩ : Call α).isAllowed = true)
    (refuses : builder.config.pool.refusesAll = true)
    (pool : gateway.dependency.pool = some (idlePool builder []))
    : (Call.submit ⟨gateway, number, command⟩).command.work = .over := by
  let call : Call α := ⟨gateway, number, command⟩
  have full : (idlePool builder []).isQueueSpaceAvailable = false := by
    rw [isQueueSpaceAvailable_idlePool, refuses]
    rfl
  rw [Call.submit_eq, if_pos allowed,
    show call.dependency.pool = some (idlePool builder []) from pool]
  dsimp only
  rw [Call.admitByPool, full, if_neg Bool.false_ne_true, Call.reject, Call.work_failToFallback]
  rfl

/-- Settings that turn the first command away do so if nobody asked the circuit before. -/
theorem Vacant.not_servesFirst (vacant : gateway.Vacant builder)
    (unforced : builder.config.breaker.forceOpen = false)
    (unfair : builder.config.turnsFirstAway = true)
    (created : number < gateway.dependency.commands.length)
    (closed : gateway.dependency.circuit.opened = false) : ¬gateway.ServesFirst number := by
  obtain ⟨command, found⟩ : ∃ command, gateway.dependency.commands[number]? = some command :=
    ⟨_, List.getElem?_eq_getElem created⟩
  let call : Call α := ⟨gateway, number, command⟩
  cases trips : builder.config.breaker.tripsUnused with
  | true =>
      have denied : call.isAllowed = false :=
        vacant.denies unforced trips closed gateway.clock.now
      refine vacant.not_servesFirst_of_ended found ?_
      rw [Call.submit_eq, denied, if_neg Bool.false_ne_true, Call.shortCircuit,
        Call.work_failToFallback]
      rfl
  | false =>
      have allowed : call.isAllowed = true := vacant.passes unforced trips gateway.clock.now
      obtain ⟨isolation, refuses⟩ : builder.config.isolation = .threadPool
          ∧ (builder.config.pool.refusesAll = true ∨ builder.config.pool.hasNoPlace = true) := by
        simpa [CommandConfig.turnsFirstAway, trips] using unfair
      obtain ⟨other, _⟩ | ⟨_, pool⟩ := vacant.pool_cases
      · cases isolation.symm.trans other
      · cases fair : builder.config.pool.refusesAll with
        | true =>
            exact vacant.not_servesFirst_of_ended found (ended_of_refusesAll allowed fair pool)
        | false =>
            have full := refuses.resolve_left (by simp [fair])
            have underway := vacant.underway_submit found allowed fair pool
            rw [← vacant.step_submit found] at underway
            exact Underway.not_servesFirst underway (by simp [pool]) fair full

-----------------------------------------------------------------------------------------
-- The first command
-----------------------------------------------------------------------------------------

/-- A dependency has a command once one was created. -/
theorem exists_command_of_create (gateway : Gateway α) (hasFallback : Bool)
    : 0 < (gateway.step (.create hasFallback)).dependency.commands.length := by
  show 0 < (gateway.dependency.commands ++ [_]).length
  simp

/-- Settings that turn the first command away do so right after a dependency was built. -/
theorem not_servesFirst_of_build {start : Gateway α}
    (built
      : builder.build start.dependency.id start.dependency.timer start.clock.now
        = .ok start.dependency)
    (unforced : builder.config.breaker.forceOpen = false)
    (unfair : builder.config.turnsFirstAway = true) (hasFallback : Bool)
    : ¬(start.step (.create hasFallback)).ServesFirst 0 := by
  obtain ⟨_, _, same⟩ :=
    DependencyBuilder.assemble_eq_ok (DependencyBuilder.assemble_of_build built)
  have closed : start.dependency.circuit.opened = false := by
    rw [same]
    rfl
  have vacant : (start.step (.create hasFallback)).Vacant builder :=
    (vacant_of_build built).step rfl
  exact vacant.not_servesFirst unforced unfair (exists_command_of_create start hasFallback) closed

/-- Settings that are accepted and do not force the circuit open let the first command get to its
work, whatever goes on around the dependency before and meanwhile as long as no permit is held,
exactly if the circuit does not trip on no requests, the queue does not refuse everything and the
sizes of the pool do not add up to zero. Sizes whose sum is too large for a size build a pool here
whose capacity starts again at zero; a build that checks its additions builds none.
-/
theorem first_command_served_iff {start : Gateway α} {builder : DependencyBuilder}
    (built
      : builder.build start.dependency.id start.dependency.timer start.clock.now
        = .ok start.dependency)
    (unforced : builder.config.breaker.forceOpen = false)
    : (∀ (prelude : List (Step α)) (number : Nat),
          (∀ step ∈ prelude, step.isAround)
          → number < (start.run prelude).dependency.commands.length
          → (start.run prelude).dependency.semaphore.acquired = 0
          → (start.run prelude).ServesFirst number)
      ↔ builder.config.turnsFirstAway = false := by
  obtain ⟨accepted, assembled⟩ := DependencyBuilder.build_eq_ok_iff.mp built
  constructor
  · intro served
    obtain ⟨_, _, same⟩ := DependencyBuilder.assemble_eq_ok assembled
    have free : start.dependency.semaphore.acquired = 0 := by rw [same]
    rw [Bool.eq_false_iff]
    intro unfair
    exact not_servesFirst_of_build built unforced unfair false
      (served [.create false] 0 (by simp [Step.isAround]) (exists_command_of_create start false)
        free)
  · intro fair prelude number around created free
    have still : (start.run prelude).Vacant builder :=
      around_run_keeps (fun _ _ around vacant => vacant.step around) (vacant_of_build built) around
    exact still.servesFirst (CommandConfig.usable_of_accepted accepted) unforced fair created free

/-- A pool of one worker whose queue has a single place, with a circuit that is asked before and a
clock that moves meanwhile.
-/
theorem first_command_served_iff_pooled
    : let builder : DependencyBuilder :=
        { key := "sample"
          config := { isolation := .threadPool, pool := { coreSize := 1, maxQueueSize := 1 } } }
      let start : Gateway Nat := ofBuilder builder (by simp only [builder]; rfl)
      let prelude : List (Step Nat) := [.askCircuit, .pump, .create true, .advance 40]
      builder.build start.dependency.id start.dependency.timer start.clock.now
          = .ok start.dependency
        ∧ builder.config.breaker.forceOpen = false
        ∧ (start.run prelude).dependency.semaphore.acquired = 0
        ∧ (start.run prelude).ServesFirst 0
        ∧ ((start.run prelude).run
            [.submit 0, .advance 7, .handOff 0, .pump, .pickUp]).BegunBy 0 .worker := by
  intro builder start prelude
  have accepted : builder.config.validate = .ok () :=
    CommandConfig.validate_eq_ok_iff.mpr (by decide +kernel)
  have built : builder.build start.dependency.id start.dependency.timer start.clock.now
      = .ok start.dependency :=
    DependencyBuilder.build_eq_ok_iff.mpr ⟨accepted, assemble_ofBuilder builder _⟩
  have serves : (start.run prelude).ServesFirst 0 :=
    (first_command_served_iff built rfl).mpr rfl prelude 0 (by simp [prelude, Step.isAround])
      (by decide +kernel) (by decide +kernel)
  have pooled : (start.run prelude).dependency.pool ≠ none :=
    Option.ne_none_iff_isSome.mpr (by decide +kernel)
  exact ⟨built, rfl, by decide +kernel, serves,
    serves.inTurn pooled [.advance 7] [.pump] (by simp [Step.isAround])⟩

/-- Settings that are accepted can turn the first command away: thresholds of zero trip the circuit
on no requests at all, and a queue that refuses work from length zero on refuses everything.
-/
theorem first_command_turned_away
    : let eager : DependencyBuilder :=
        { key := "sample"
          config := { breaker := { volumeThreshold := 0, errorThresholdPercentage := 0 } } }
      let shut : DependencyBuilder :=
        { key := "sample"
          config :=
            { isolation := .threadPool
              pool := { coreSize := 1, maxQueueSize := 10, queueRejectionThreshold := 0 } } }
      let tripped : Gateway Nat := ofBuilder eager (by simp only [eager]; rfl)
      let full : Gateway Nat := ofBuilder shut (by simp only [shut]; rfl)
      eager.config.validate = .ok () ∧ eager.config.breaker.forceOpen = false
        ∧ shut.config.validate = .ok () ∧ shut.config.breaker.forceOpen = false
        ∧ (tripped.run [.create false, .submit 0]).dependency.commands.map (·.record.tags)
          = [.ofTags [.shortCircuited, .fallbackMissing]]
        ∧ (full.run [.create false, .submit 0]).dependency.commands.map (·.record.tags)
          = [.ofTags [.threadPoolRejected, .fallbackMissing]]
        ∧ ¬(tripped.run [.create false]).ServesFirst 0
        ∧ ¬(full.run [.create false]).ServesFirst 0 := by
  intro eager shut tripped full
  have accepted : eager.config.validate = .ok () ∧ shut.config.validate = .ok () :=
    ⟨CommandConfig.validate_eq_ok_iff.mpr (by decide +kernel),
      CommandConfig.validate_eq_ok_iff.mpr (by decide +kernel)⟩
  refine ⟨accepted.1, rfl, accepted.2, rfl, by decide +kernel, by decide +kernel, ?_, ?_⟩
  · refine not_servesFirst_of_build ?_ rfl (rfl : eager.config.turnsFirstAway = true) false
    exact DependencyBuilder.build_eq_ok_iff.mpr ⟨accepted.1, assemble_ofBuilder eager _⟩
  · refine not_servesFirst_of_build ?_ rfl (rfl : shut.config.turnsFirstAway = true) false
    exact DependencyBuilder.build_eq_ok_iff.mpr ⟨accepted.2, assemble_ofBuilder shut _⟩

end Gateway

end Breakwater
