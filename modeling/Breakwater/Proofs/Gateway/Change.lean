import Breakwater.Proofs.Call.Queue

/-! What one step makes of a dependency, and the order that every step keeps: each command stands
at one of its stages, and those in the queue of the pool wait there once.
-/

namespace Breakwater

variable {α : Type}

-----------------------------------------------------------------------------------------
-- What stays
-----------------------------------------------------------------------------------------

/-- What a dependency keeps for good. -/
structure Settings where
  key : String
  config : CommandConfig
  classifier : Classifier
  circuitConfig : BreakerConfig
  metricsKey : String
  source : Nat
  timer : Nat

def Frame.settings (frame : Frame α) : Settings where
  key := frame.key
  config := frame.config
  classifier := frame.classifier
  circuitConfig := frame.circuitConfig
  metricsKey := frame.metricsKey
  source := frame.source
  timer := frame.timer

def Dependency.settings (dependency : Dependency α) : Settings := dependency.frame.settings

/-- What is counted of a dependency: its commands and those that wait, their completions, and what
was made of these.
-/
structure Account (α : Type) where
  settings : Settings
  commands : List (Command α)
  waiting : List Nat
  ledger : Ledger
  meters : Meters

def Dependency.account (dependency : Dependency α) : Account α where
  settings := dependency.settings
  commands := dependency.commands
  waiting := dependency.waiting
  ledger := dependency.ledger
  meters := dependency.meters

def Account.completions (account : Account α) : List (Nat × CompletionEvent) :=
  account.ledger.completions

/-- How many events went out on the bus. -/
def Account.published (account : Account α) : Nat := account.ledger.bus.published

/-- The account is read off the frame and the ledger. -/
theorem Dependency.account_eq {left right : Dependency α} (frame : left.frame = right.frame)
    (ledger : left.ledger = right.ledger) : left.account = right.account := by
  have settings : left.settings = right.settings := congrArg Frame.settings frame
  have commands : left.commands = right.commands := congrArg Frame.commands frame
  have waiting : left.waiting = right.waiting := congrArg Frame.waiting frame
  have meters : left.meters = right.meters := congrArg Frame.meters frame
  rw [account, settings, commands, waiting, ledger, meters]
  rfl

/-- A permit for somebody else is no part of the account. -/
theorem Dependency.account_acquireOutside (dependency : Dependency α) (bulkhead : Bulkhead)
    : (dependency.acquireOutside bulkhead).2.account = dependency.account := by
  simp only [acquireOutside]
  split
  · rfl
  · cases bulkhead <;> rfl

/-- Giving back a permit of somebody else leaves the account. -/
theorem Dependency.account_releaseOutside (dependency : Dependency α) (number : Nat)
    : (dependency.releaseOutside number).account = dependency.account := by
  simp only [releaseOutside]
  split
  · rfl
  · rename_i held found
    obtain ⟨bulkhead, permit⟩ := held
    cases bulkhead <;> rfl

/-- Taking a permit leaves what commands have noted. -/
theorem Dependency.noted_acquireOutside (dependency : Dependency α) (bulkhead : Bulkhead)
    : (dependency.acquireOutside bulkhead).2.id = dependency.id
      ∧ (dependency.acquireOutside bulkhead).2.diary = dependency.diary
      ∧ (dependency.acquireOutside bulkhead).2.rescues = dependency.rescues := by
  simp only [acquireOutside]
  split
  · exact ⟨rfl, rfl, rfl⟩
  · cases bulkhead <;> exact ⟨rfl, rfl, rfl⟩

/-- Giving back a permit of somebody else is written nowhere. -/
theorem Dependency.noted_releaseOutside (dependency : Dependency α) (number : Nat)
    : (dependency.releaseOutside number).id = dependency.id
      ∧ (dependency.releaseOutside number).diary = dependency.diary
      ∧ (dependency.releaseOutside number).rescues = dependency.rescues := by
  simp only [releaseOutside]
  split
  · exact ⟨rfl, rfl, rfl⟩
  · rename_i held found
    obtain ⟨bulkhead, permit⟩ := held
    cases bulkhead <;> exact ⟨rfl, rfl, rfl⟩

/-- Shutting the pool down leaves what waits in its queue. -/
theorem Dependency.account_shutdown (dependency : Dependency α)
    : dependency.shutdown.account = dependency.account := by
  have waiting : (dependency.pool.map WorkerPool.shutdown).map (·.queue)
      = dependency.pool.map (·.queue) := by
    rw [Option.map_map]
    rfl
  simp only [account, Dependency.waiting, shutdown, waiting]
  simp only [settings, frame, Dependency.waiting, waiting]
  rfl

/-- Shutting the pool down leaves its workers to their tasks. -/
theorem Dependency.loans_shutdown (dependency : Dependency α)
    : dependency.shutdown.loans = dependency.loans := by
  have crew : (dependency.pool.map WorkerPool.shutdown).map WorkerPool.crew
      = dependency.pool.map WorkerPool.crew := by
    rw [Option.map_map]
    rfl
  simp only [loans, Dependency.crew, shutdown, crew]

/-- A pump takes what waits on the bus, and leaves the rest of the account. -/
theorem Dependency.account_pump (dependency : Dependency α) (now : Nat)
    : let pumped := dependency.mapMetrics fun _ => (dependency.metrics.pump now).2
      pumped.account
        = { dependency.account with
            ledger.bus := (dependency.metrics.bus.drain dependency.metrics.source).2
            meters := pumped.meters } := by
  have same := Metrics.foldl_pushSlice
    { dependency.metrics with
      bus := (dependency.metrics.bus.drain dependency.metrics.source).2
      slices := (dependency.metrics.slices.pump completionSlices
        (dependency.metrics.bus.drain dependency.metrics.source).1 now).1 }
    (dependency.metrics.slices.pump completionSlices
      (dependency.metrics.bus.drain dependency.metrics.source).1 now).2
  have pumped := congrArg (fun metrics => dependency.mapMetrics (fun _ => metrics)) same
  dsimp only
  rw [show (dependency.mapMetrics fun _ => (dependency.metrics.pump now).2) = _ from pumped]
  rfl

/-- A pump is written nowhere. -/
theorem Dependency.diary_pump (dependency : Dependency α) (now : Nat)
    : (dependency.mapMetrics fun _ => (dependency.metrics.pump now).2).diary
      = dependency.diary := by
  have same := Metrics.foldl_pushSlice
    { dependency.metrics with
      bus := (dependency.metrics.bus.drain dependency.metrics.source).2
      slices := (dependency.metrics.slices.pump completionSlices
        (dependency.metrics.bus.drain dependency.metrics.source).1 now).1 }
    (dependency.metrics.slices.pump completionSlices
      (dependency.metrics.bus.drain dependency.metrics.source).1 now).2
  have pumped := congrArg (fun metrics => (dependency.mapMetrics fun _ => metrics).diary) same
  exact pumped.trans rfl

-----------------------------------------------------------------------------------------
-- Order
-----------------------------------------------------------------------------------------

namespace Account

/-- Every command is at one of its stages, and those in the queue of the pool wait there once. -/
structure Orderly (account : Account α) : Prop where
  staged : ∀ command ∈ account.commands, command.Stage account.settings.config.fallbackEnabled
  distinct : account.waiting.Nodup
  queued
    : ∀ number ∈ account.waiting,
        ∃ command, account.commands[number]? = some command ∧ command.work = .queued

/-- In an account that is in order, each command is at one of the stages. -/
theorem Orderly.stage {account : Account α} (orderly : account.Orderly) {number : Nat}
    {command : Command α} (found : account.commands[number]? = some command)
    : command.Stage account.settings.config.fallbackEnabled :=
  orderly.staged command (List.mem_of_getElem? found)

end Account

-----------------------------------------------------------------------------------------
-- What a step changes
-----------------------------------------------------------------------------------------

/-- What a call works on, and what it leaves as it is. -/
structure Fixed (α : Type) where
  id : Nat
  number : Nat
  now : Nat
  commands : List (Command α)
  outside : List OutsidePermit
  settings : Settings
  meters : Meters

def Call.fixed (call : Call α) : Fixed α where
  id := call.dependency.id
  number := call.number
  now := call.now
  commands := call.dependency.commands
  outside := call.dependency.outside
  settings := call.dependency.settings
  meters := call.dependency.meters

/-- What is fixed on a command's way is part of the frame. -/
theorem Call.fixed_of_frame {left right : Call α} (frame : left.frame = right.frame)
    : left.fixed = right.fixed :=
  congrArg
    (fun view : Nat × Nat × Frame α =>
      Fixed.mk view.2.2.id view.1 view.2.1 view.2.2.commands view.2.2.outside view.2.2.settings
        view.2.2.meters) frame

/-- A hand-over changes the queue, and nothing that is fixed. -/
theorem Call.fixed_handOff (call : Call α) : call.handOff.fixed = call.fixed := by
  have handed := call.handOff_cases
  generalize call.handOff = after at handed ⊢
  cases handed with
  | skipped => rfl
  | taken pool held work => rfl
  | refused pool held work unclaimed =>
      refine fixed_of_frame ?_
      rw [frame_reject, frame_cancelTimer, frame_mapCommand, frame_setPool_refused call held]
  | dropped pool held work claimed => rfl

/-- What the steps of a dependency do to the command that they work on. -/
inductive Call.Op (before : Call α) : Gateway.Step α → Call α → Prop
  | submit (notStarted : before.command.lifecycle = .notStarted)
    : Op before (.submit before.number) before.submit
  | handOff : Op before (.handOff before.number) before.handOff
  | pickUp (queued : before.command.work = .queued) : Op before .pickUp (before.startWork .worker)
  | workReturned (result : Except WorkError α)
    : Op before (.workReturned before.number result) (before.workReturned result)
  | fallbackReturned (result : Except WorkError α)
    : Op before (.fallbackReturned before.number result) (before.fallbackReturned result)
  | timeoutFired (armed : before.command.timer ≠ none)
    : Op before (.timeoutFired before.number) before.timedOut
  | cancel (active : before.command.lifecycle.isActive) (returned : before.command.hasReturned)
    : Op before (.cancel before.number) before.abandon

/-- Whatever is done about a command is a turn of it, by cases on what it is. -/
theorem Call.Op.turn {before after : Call α} {step : Gateway.Step α} (op : Op before step after)
    (stage : before.command.Stage before.config.fallbackEnabled) : Turn before step after := by
  cases op with
  | submit notStarted => exact submit_turn before (stage.isIdle notStarted)
  | handOff => exact handOff_turn stage
  | pickUp queued => exact pickUp_turn stage queued
  | workReturned result => exact workReturned_turn result stage
  | fallbackReturned result => exact fallbackReturned_turn result stage
  | timeoutFired armed => exact timedOut_turn stage armed
  | cancel active returned => exact abandon_turn stage active

/-- Whatever is done about a command leaves what is fixed on its way. -/
theorem Call.Op.fixed {before after : Call α} {step : Gateway.Step α} (op : Op before step after)
    : after.fixed = before.fixed := by
  cases op with
  | submit notStarted => exact fixed_of_frame before.frame_submit
  | handOff => exact before.fixed_handOff
  | pickUp queued => exact fixed_of_frame (before.frame_startWork .worker)
  | workReturned result => exact fixed_of_frame (before.frame_workReturned result)
  | fallbackReturned result => exact fixed_of_frame (before.frame_fallbackReturned result)
  | timeoutFired armed => exact fixed_of_frame before.frame_timedOut
  | cancel active returned => exact fixed_of_frame before.frame_abandon

/-- What a step takes from the pool before it works on a command: only the oldest task, for a worker
that picks it up.
-/
inductive Draws (pool : Option (WorkerPool Nat)) (number : Nat)
    : Gateway.Step α → Option (WorkerPool Nat) → Prop
  | nothing {step} (other : step ≠ .pickUp) : Draws pool number step pool
  | task {held rest} (some_pool : pool = some held) (picked : held.pickUp? = some (number, rest))
    : Draws pool number .pickUp (some rest)

/-- What a step takes from the timer before it works on a command: only the registration of the
command's timeout, for a timeout that fires.
-/
inductive Fires (timer : Timer CommandRef) (held : Option TimerHandle) (number : Nat)
    : Gateway.Step α → Timer CommandRef → Prop
  | nothing {step} (other : step ≠ .timeoutFired number) : Fires timer held number step timer
  | timeout {handle listener fired} (armed : held = some handle)
    (due : timer.fire? handle.token = some (listener, fired))
    : Fires timer held number (.timeoutFired number) fired

namespace Gateway

/-- What a step that works on no command leaves alone: what is noted of the commands, and the timer
unless others use that.
-/
structure Aside (before : Gateway α) (step : Step α) (after : Gateway α) : Prop where
  id : after.dependency.id = before.dependency.id
  diary : after.dependency.diary = before.dependency.diary
  rescues : after.dependency.rescues = before.dependency.rescues
  timer
    : after.timer = before.timer
      ∨ ∃ use, step = .timerUsed use ∧ after.timer = before.timerAfter use

/-- What a step that works on no command does to what is lent out. -/
inductive Lends (before : Gateway α) : Step α → Gateway α → Prop
  | kept {step after} (loans : after.dependency.loans = before.dependency.loans)
    : Lends before step after
  | acquired (bulkhead : Bulkhead)
    : Lends before (.acquireOutside bulkhead) (before.step (.acquireOutside bulkhead))
  | released (permit : Nat)
    : Lends before (.releaseOutside permit) (before.step (.releaseOutside permit))

/-- A command taken out to be worked on, after the timer and the pool have let go of it. -/
def entered (gateway : Gateway α) (timer : Timer CommandRef) (pool : Option (WorkerPool Nat))
    (number : Nat) (command : Command α) : Call α where
  gateway := { gateway with timer, dependency := { gateway.dependency with pool } }
  number := number
  command := command

/-- What one step makes of a dependency. -/
inductive Change (before : Gateway α) (step : Step α) (after : Gateway α) : Prop
  | moved (dependency : after.dependency = before.dependency)
    (clock
      : (∃ millis, step = .advance millis ∧ after.clock = before.clock.advance millis)
        ∨ ∃ millis, step = .setClock millis ∧ after.clock = before.clock.set millis)
    (aside : Aside before step after)
  | quiet (account : after.dependency.account = before.dependency.account)
    (clock : after.clock = before.clock) (lends : Lends before step after)
    (aside : Aside before step after)
  | pumped (asked : step = .pump) (clock : after.clock = before.clock)
    (account
      : after.dependency.account
        = { before.dependency.account with
            ledger.bus := (before.dependency.metrics.bus.drain before.dependency.metrics.source).2
            meters := after.dependency.meters })
    (metrics : after.dependency.metrics = (before.dependency.metrics.pump before.clock.now).2)
    (loans : after.dependency.loans = before.dependency.loans) (aside : Aside before step after)
  | created {hasFallback} (asked : step = .create hasFallback)
    (clock : after.clock = before.clock)
    (account
      : after.dependency.account
        = { before.dependency.account with
            commands := before.dependency.commands ++ [.create hasFallback] })
    (loans : after.dependency.loans = before.dependency.loans) (aside : Aside before step after)
  | taken {number command outcome} (asked : step = .take number)
    (found : before.dependency.commands[number]? = some command)
    (ready : command.completion = .ready outcome) (clock : after.clock = before.clock)
    (account
      : after.dependency.account
        = { before.dependency.account with
            commands := before.dependency.commands.set number
              { command with completion := .consumed } })
    (loans : after.dependency.loans = before.dependency.loans) (aside : Aside before step after)
  | turned (timer : Timer CommandRef) (pool : Option (WorkerPool Nat)) {number command call}
    (found : before.dependency.commands[number]? = some command)
    (suffix
      : (before.entered timer pool number command).dependency.waiting
        <:+ before.dependency.waiting)
    (op : Call.Op (before.entered timer pool number command) step call)
    (turn : Call.Turn (before.entered timer pool number command) step call)
    (queues : Call.Queues (before.entered timer pool number command) call)
    (fixed : call.fixed = Call.fixed ⟨before, number, command⟩)
    (stored : after = call.store) (draws : Draws before.dependency.pool number step pool)
    (fires : Fires before.timer command.timer number step timer)

/-- Where nothing happens, nothing is written either. -/
theorem aside_refl (gateway : Gateway α) (step : Step α) : Aside gateway step gateway :=
  ⟨rfl, rfl, rfl, .inl rfl⟩

/-- A step that does not apply changes nothing. -/
theorem change_refl (gateway : Gateway α) (step : Step α) : Change gateway step gateway :=
  .quiet rfl rfl (.kept rfl) (gateway.aside_refl step)

/-- A call to a command that neither the timer nor the pool had to let go of. -/
theorem Change.turned_here {before : Gateway α} {step : Step α} {number : Nat}
    {command : Command α} {call : Call α} (orderly : before.dependency.account.Orderly)
    (found : before.dependency.commands[number]? = some command)
    (op : Call.Op ⟨before, number, command⟩ step call)
    (queues : Call.Queues ⟨before, number, command⟩ call) (other : step ≠ .pickUp)
    (early : step ≠ .timeoutFired number) : Change before step call.store :=
  .turned before.timer before.dependency.pool found (List.suffix_refl _) op
    (op.turn (orderly.stage found)) queues op.fixed rfl (.nothing other) (.nothing early)

/-- A step that works on one command changes the dependency by a turn of that command. -/
theorem change_onCommand {before : Gateway α} (orderly : before.dependency.account.Orderly)
    {step : Step α} {number : Nat} {change : Call α → Call α}
    (op : ∀ call, call.number = number → Call.Op call step (change call))
    (queues : ∀ call, Call.Queues call (change call)) (other : step ≠ .pickUp)
    (early : step ≠ .timeoutFired number)
    : Change before step (before.onCommand number change) := by
  simp only [onCommand]
  split
  · exact change_refl before step
  · rename_i command found
    exact .turned_here orderly found (op _ rfl) (queues _) other early

/-- A submission turns a command that was not submitted, and changes nothing otherwise. -/
theorem change_submit {before : Gateway α} (orderly : before.dependency.account.Orderly)
    (number : Nat) : Change before (.submit number) (before.submit number).2 := by
  simp only [submit]
  split
  · exact change_refl before _
  · rename_i command found
    split
    · rename_i notStarted
      have idle := (orderly.stage found).isIdle notStarted
      exact .turned_here orderly found (.submit notStarted) (Call.submit_queues _ idle) nofun nofun
    · exact change_refl before _

/-- An idle worker of the pool takes the task at the head of the queue. -/
theorem queue_of_picked {pool rest : WorkerPool Nat} {number : Nat}
    (picked : pool.pickUp? = some (number, rest)) : pool.queue = number :: rest.queue := by
  obtain ⟨waiting, queued, _, rfl⟩ := WorkerPool.pickUp?_eq_some picked
  exact queued

/-- A worker takes the command at the head of the queue, or nothing happens. -/
theorem pickUp_cases (gateway : Gateway α)
    : gateway.step .pickUp = gateway
      ∨ ∃ pool number rest,
          gateway.dependency.pool = some pool
          ∧ pool.pickUp? = some (number, rest)
          ∧ gateway.step .pickUp
            = (gateway.mapDependency ({ · with pool := some rest })).onCommand number
                (·.startWork .worker) := by
  show (gateway.pickUp?.map (·.2)).getD gateway = gateway
    ∨ ∃ pool number rest, _ ∧ _ ∧ (gateway.pickUp?.map (·.2)).getD gateway = _
  simp only [pickUp?]
  cases held : gateway.dependency.pool with
  | none => exact .inl rfl
  | some pool =>
      cases picked : pool.pickUp? with
      | none => exact .inl (by simp [picked])
      | some answer =>
          obtain ⟨number, rest⟩ := answer
          refine .inr ⟨pool, number, rest, rfl, picked, ?_⟩
          simp [picked]

/-- A worker that is idle turns the command at the head of the queue. -/
theorem change_pickUp {before : Gateway α} (orderly : before.dependency.account.Orderly)
    : Change before .pickUp (before.step .pickUp) := by
  obtain none | ⟨pool, number, rest, held, picked, taken⟩ := pickUp_cases before
  · rw [none]
    exact change_refl before _
  · have waiting : before.dependency.account.waiting = number :: rest.queue := by
      show before.dependency.waiting = number :: rest.queue
      simp only [Dependency.waiting, held, Option.map_some, Option.getD_some,
        queue_of_picked picked]
    obtain ⟨command, found, queued⟩ := orderly.queued number (waiting ▸ List.mem_cons_self)
    have distinct := orderly.distinct
    rw [waiting, List.nodup_cons] at distinct
    have there
        : (before.mapDependency ({ · with pool := some rest })).dependency.commands[number]?
          = some command := found
    rw [taken, onCommand, there]
    refine .turned before.timer (some rest) found ?_ (.pickUp queued)
      (Call.pickUp_turn (orderly.stage found) queued) ?_ ?_ rfl (.task held picked)
      (.nothing fun asked => by cases asked)
    · show rest.queue <:+ before.dependency.account.waiting
      rw [waiting]
      exact List.suffix_cons number rest.queue
    · exact Call.startWork_queues distinct.1
    · exact (Call.fixed_of_frame (Call.frame_startWork _ _)).trans rfl

/-- A timeout that is armed turns its command. -/
theorem change_timeoutFired {before : Gateway α} (orderly : before.dependency.account.Orderly)
    (number : Nat)
    : Change before (.timeoutFired number) (before.timeoutFired number) := by
  simp only [timeoutFired]
  split
  · exact change_refl before _
  · rename_i command found
    split
    · exact change_refl before _
    · rename_i listener timer fired
      obtain ⟨handle, held, due⟩ := Option.bind_eq_some_iff.mp fired
      have armed : command.timer ≠ none := by simp [held]
      exact .turned timer before.dependency.pool found (List.suffix_refl _) (.timeoutFired armed)
        (Call.timedOut_turn (orderly.stage found) armed) (Call.timedOut_queues _)
        (Call.fixed_of_frame (Call.frame_timedOut _)) rfl (.nothing nofun) (.timeout held due)

/-- A cancellation turns a command that is under way and whose caller has its hands free. -/
theorem change_cancel {before : Gateway α} (orderly : before.dependency.account.Orderly)
    (number : Nat)
    : Change before (.cancel number) (before.cancel number).2 := by
  simp only [cancel]
  split
  · exact change_refl before _
  · rename_i command found
    split
    · rename_i allowed
      rw [Bool.and_eq_true] at allowed
      exact .turned_here orderly found (.cancel allowed.1 allowed.2) (Call.abandon_queues _)
        nofun nofun
    · exact change_refl before _

/-- Taking an outcome leaves all but the completion that held it. -/
theorem change_take (before : Gateway α) (number : Nat)
    : Change before (.take number) (before.take number).2 := by
  simp only [take]
  split
  · exact change_refl before _
  · rename_i command found
    split
    · exact change_refl before _
    · exact change_refl before _
    · rename_i outcome ready
      exact .taken rfl found ready rfl rfl rfl ⟨rfl, rfl, rfl, .inl rfl⟩

/-- Every step changes a dependency that is in order in one of the listed ways. -/
theorem change_step {before : Gateway α} (orderly : before.dependency.account.Orderly)
    (step : Step α)
    : Change before step (before.step step) := by
  cases step with
  | advance millis => exact .moved rfl (.inl ⟨millis, rfl, rfl⟩) ⟨rfl, rfl, rfl, .inl rfl⟩
  | setClock millis => exact .moved rfl (.inr ⟨millis, rfl, rfl⟩) ⟨rfl, rfl, rfl, .inl rfl⟩
  | create hasFallback => exact .created rfl rfl rfl rfl ⟨rfl, rfl, rfl, .inl rfl⟩
  | submit number => exact change_submit orderly number
  | handOff number =>
      refine change_onCommand orderly ?_ Call.handOff_queues nofun nofun
      rintro call rfl
      exact .handOff
  | pickUp => exact change_pickUp orderly
  | workReturned number result =>
      refine change_onCommand orderly ?_ (Call.workReturned_queues · result) nofun nofun
      rintro call rfl
      exact .workReturned result
  | fallbackReturned number result =>
      refine change_onCommand orderly ?_ (Call.fallbackReturned_queues · result) nofun nofun
      rintro call rfl
      exact .fallbackReturned result
  | timeoutFired number => exact change_timeoutFired orderly number
  | cancel number => exact change_cancel orderly number
  | take number => exact change_take before number
  | pump =>
      exact .pumped rfl rfl (before.dependency.account_pump before.clock.now) rfl rfl
        ⟨rfl, before.dependency.diary_pump before.clock.now, rfl, .inl rfl⟩
  | askCircuit =>
      refine .quiet (Dependency.account_eq ?_ ?_) rfl (.kept ?_) ⟨?_, ?_, ?_, .inl rfl⟩
      · exact before.dependency.frame_isCircuitOpen before.clock.now
      · exact before.dependency.ledger_isCircuitOpen before.clock.now
      · exact before.dependency.loans_isCircuitOpen before.clock.now
      · exact congrArg Frame.id (before.dependency.frame_isCircuitOpen before.clock.now)
      · exact before.dependency.diary_isCircuitOpen before.clock.now
      · exact before.dependency.rescues_isCircuitOpen before.clock.now
  | drawWindow millis => exact .quiet rfl rfl (.kept rfl) ⟨rfl, rfl, rfl, .inl rfl⟩
  | resetHealth => exact .quiet rfl rfl (.kept rfl) ⟨rfl, rfl, rfl, .inl rfl⟩
  | acquireOutside bulkhead =>
      obtain ⟨id, diary, rescues⟩ := before.dependency.noted_acquireOutside bulkhead
      exact .quiet (before.dependency.account_acquireOutside bulkhead) rfl (.acquired bulkhead)
        ⟨id, diary, rescues, .inl rfl⟩
  | releaseOutside permit =>
      obtain ⟨id, diary, rescues⟩ := before.dependency.noted_releaseOutside permit
      exact .quiet (before.dependency.account_releaseOutside permit) rfl (.released permit)
        ⟨id, diary, rescues, .inl rfl⟩
  | shutdownPool =>
      exact .quiet before.dependency.account_shutdown rfl
        (.kept before.dependency.loans_shutdown) ⟨rfl, rfl, rfl, .inl rfl⟩
  | timerUsed use => exact .quiet rfl rfl (.kept rfl) ⟨rfl, rfl, rfl, .inr ⟨use, rfl, rfl⟩⟩

end Gateway

end Breakwater
