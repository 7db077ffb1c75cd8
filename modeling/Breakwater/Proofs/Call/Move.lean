import Breakwater.Proofs.Call.Circuit
import Breakwater.Proofs.Call.Close

/-! What each step does to the command that it works on, to what is noted of that, to its place in
the fallback semaphore and to its timeout.
-/

namespace Breakwater

variable {α : Type}

-----------------------------------------------------------------------------------------
-- The start of the work
-----------------------------------------------------------------------------------------

/-- A command whose work was started. -/
def Command.working (command : Command α) (now : Nat) (runner : Runner) : Command α :=
  let hired := runner = .worker ∧ command.threadState = .notUsingThread
  let occurred := command.record.markOccurred
  { command with
    lifecycle := .userCodeExecuted
    threadState := if hired then .started else command.threadState
    record := if hired then occurred.markOnWorker else occurred
    gaugeHeld := true
    work := .running now runner }

/-- A command whose work is started tells in its record that it was executed. -/
@[simp]
theorem Command.occurred_working (command : Command α) (now : Nat) (runner : Runner)
    : (command.working now runner).record.occurred = true := by
  simp only [working]
  split <;> rfl

/-- Starting the work leaves the moment at which the execution began, stamped before. -/
@[simp]
theorem Command.startedAt_working (command : Command α) (now : Nat) (runner : Runner)
    : (command.working now runner).record.startedAt = command.record.startedAt := by
  simp only [working]
  split <;> rfl

/-- The tag for what a fallback returned. -/
def Tag.ofRescue : Except WorkError α → Tag
  | .ok _ => .fallbackSuccess
  | .error _ => .fallbackFailure

/-- The diary once the work of a command was started. -/
def Diary.start (diary : Diary) (number : Nat) : Diary where
  running := diary.running + 1
  milestones := diary.milestones ++ [.workStarted number]

namespace Call

/-- The work of a command was started, which is noted. -/
structure Begins (before : Call α) (runner : Runner) (after : Call α) : Prop where
  command : after.command = before.command.working before.now runner
  diary : after.dependency.diary = before.dependency.diary.start before.number
  fallbackSemaphore
    : after.dependency.fallbackSemaphore = before.dependency.fallbackSemaphore
  timer : after.gateway.timer = before.gateway.timer

/-- A command that is admitted gets a timeout, or goes without one. -/
inductive Arms (before after : Call α) : Prop
  | untimed (handle : after.command.timer = before.command.timer)
    (timer : after.gateway.timer = before.gateway.timer)
  | timed {handle} (enabled : before.config.timeoutEnabled = true)
    (armed : after.command.timer = some handle)
    (registered
      : before.gateway.timer.register ⟨before.dependency.id, before.number⟩
          before.config.executionTimeout
        = .ok (handle, after.gateway.timer))

/-- A timeout is armed in the same way if neither its handle nor the timer changes since. -/
theorem Arms.congr {before middle after : Call α} (arms : Arms before middle)
    (handle : after.command.timer = middle.command.timer)
    (timer : after.gateway.timer = middle.gateway.timer) : Arms before after := by
  cases arms with
  | untimed same kept => exact .untimed (handle.trans same) (timer.trans kept)
  | timed enabled armed registered =>
      exact .timed enabled (handle.trans armed) (timer ▸ registered)

variable (call : Call α)

/-- Beginning a command arms its timeout, if timeouts are enabled and the timer runs. -/
theorem beginInvocation_arms : Arms call call.beginInvocation := by
  rw [beginInvocation]
  dsimp only
  split
  · exact .untimed rfl rfl
  · rename_i enabled
    split
    · rename_i handle timer registered
      have enabled : (call.mapRecord (·.markStarted call.now)).config.timeoutEnabled = true := by
        simpa using enabled
      exact .timed enabled rfl registered
    · exact .untimed rfl rfl

/-- Work is begun if the command is still waiting for that and no timeout has claimed it. -/
theorem startWork_begins (runner : Runner) (created : call.command.lifecycle = .chainCreated)
    (inTime : call.command.timeout ≠ .timedOut) : Begins call runner (call.startWork runner) := by
  have starts : call.takeGauge.command.lifecycle = .chainCreated
      ∧ call.takeGauge.command.timeout ≠ .timedOut := ⟨created, inTime⟩
  have told : (call.takeGauge.dependency.note (.workStarted call.number)).diary
      = call.dependency.diary.start call.number := by
    rw [Dependency.diary_note_milestone _ rfl]
    rfl
  rw [startWork]
  dsimp only
  rw [if_pos starts]
  by_cases onWorker : runner = .worker
  · simp only [if_pos onWorker, enterWorker]
    split
    · rename_i idle
      have hired : runner = .worker ∧ call.command.threadState = .notUsingThread :=
        ⟨onWorker, idle⟩
      refine ⟨?_, told, rfl, rfl⟩
      simp only [Command.working, hired, and_self, if_true]
      rfl
    · rename_i busy
      have kept : ¬(runner = .worker ∧ call.command.threadState = .notUsingThread) :=
        fun hired => busy hired.2
      refine ⟨?_, told, rfl, rfl⟩
      simp only [Command.working, kept, if_false]
      rfl
  · have kept : ¬(runner = .worker ∧ call.command.threadState = .notUsingThread) :=
      fun hired => onWorker hired.1
    simp only [if_neg onWorker]
    refine ⟨?_, told, rfl, rfl⟩
    simp only [Command.working, kept, if_false]
    rfl

/-- A worker that comes too late to a command goes on to other tasks. -/
theorem startWork_late
    (late : ¬(call.command.lifecycle = .chainCreated ∧ call.command.timeout ≠ .timedOut))
    (uncounted : call.command.gaugeHeld = false)
    : call.startWork .worker = (call.mapCommand ({ · with work := .over })).releaseWorker := by
  have skips : ¬(call.takeGauge.command.lifecycle = .chainCreated
      ∧ call.takeGauge.command.timeout ≠ .timedOut) := late
  have same : call.takeGauge.releaseGauge = call := by
    show { call with command := { call.command with gaugeHeld := false } } = call
    rw [← uncounted]
  rw [startWork]
  dsimp only
  rw [if_neg skips, if_pos rfl, same]

/-- Work that returns to a command that was claimed before is dropped. -/
theorem workReturned_late {since : Nat} {runner : Runner}
    (running : call.command.work = .running since runner)
    (claimed : call.command.timeout ≠ .notExecuted) (result : Except WorkError α)
    : call.workReturned result
      = if runner = .worker ∧ !call.isFallbackOnWorker then
          (call.mapCommand ({ · with work := .over })).releaseWorker
        else call.mapCommand ({ · with work := .over }) := by
  simp only [workReturned, running, command_mapCommand, claimed, if_false]
  rfl

-----------------------------------------------------------------------------------------
-- Moves
-----------------------------------------------------------------------------------------

/-- A command that is submitted for the first time is let pass by the circuit and finds a place at
its bulkhead.
-/
structure Admits (before : Call α) (step : Gateway.Step α) (after : Call α) : Prop where
  asked : step = .submit before.number
  notStarted : before.command.lifecycle = .notStarted
  ready : before.command.work = .ready
  unclaimed : before.command.timeout = .notExecuted
  timerless : before.command.timer = none
  allowed : before.isAllowed = true
  place : before.dependency.hasPlace = true
  arms : Arms before after
  share : Share before after

/-- What a step makes of the command that it works on. -/
inductive Move (before : Call α) (step : Gateway.Step α) (after : Call α) : Prop
  /-- Nothing is decided; work may have been queued, or is over. -/
  | rests (keeps : Keeps before step after)
    (phase : after.command.fallback = before.command.fallback)
    (semaphore : after.dependency.fallbackSemaphore = before.dependency.fallbackSemaphore)
    (record : after.command.record = before.command.record)
  | parks (admits : Admits before step after) (pool : before.dependency.pool.isSome)
    (command
      : after.command
        = { before.command with
            lifecycle := .chainCreated
            invokedAt := before.now
            work := .handingOff
            record := before.command.record.markStarted before.now
            timer := after.command.timer })
    (diary : after.dependency.diary = before.dependency.diary)
  | enters (permit : Permit) (admits : Admits before step after)
    (noPool : before.dependency.pool = none)
    (command
      : after.command
        = Command.working
            { before.command with
              lifecycle := .chainCreated
              invokedAt := before.now
              permit := some permit
              record := before.command.record.markStarted before.now
              timer := after.command.timer } before.now .caller)
    (diary : after.dependency.diary = before.dependency.diary.start before.number)
  | begins (asked : step = .pickUp) (queued : before.command.work = .queued)
    (created : before.command.lifecycle = .chainCreated)
    (inTime : before.command.timeout ≠ .timedOut) (begins : Begins before .worker after)
  | rescues (running : before.command.lifecycle.isOver = false)
    (rescues : Rescues before step after)
  | ends (running : before.command.lifecycle.isOver = false) (closes : Closes before step after)
  /-- A fallback returns to a command that was cancelled meanwhile. -/
  | late {result} (asked : step = .fallbackReturned before.number result)
    (isOver : before.command.lifecycle.isOver) (running : before.command.fallback.isRunning)
    (keeps : Keeps before step after) (share : Share before after)
    (record : after.command.record = before.command.record.addTag (.ofRescue result))

variable {before after call : Call α} {step : Gateway.Step α}

/-- Whoever claims a command that is not over ends it or turns it to its fallback. -/
theorem Move.of_claim (running : before.command.lifecycle.isOver = false)
    (claimed : Closes before step after ∨ Rescues before step after) : Move before step after := by
  rcases claimed with closes | rescues
  · exact .ends running closes
  · exact .rescues running rescues

/-- A worker that is set free shows in nothing that a move tells of. -/
theorem Keeps.releaseWorker (keeps : Keeps before step after)
    : Keeps before step after.releaseWorker :=
  { keeps with
    fixed := (fixed_of_frame after.frame_releaseWorker).trans keeps.fixed
    timing := keeps.timing.congr rfl rfl rfl }

/-- A command that was ended is ended all the same once its worker is idle again. -/
theorem Closes.releaseWorker (closes : Closes before step after)
    : Closes before step after.releaseWorker :=
  { closes with timing := closes.timing.congr rfl rfl rfl, share := closes.share.congr rfl rfl }

/-- A move stays one when a worker becomes idle after it. -/
theorem Move.releaseWorker (move : Move before step after)
    (old : before.command.lifecycle ≠ .notStarted) (other : step ≠ .pickUp)
    : Move before step after.releaseWorker := by
  cases move with
  | rests keeps phase semaphore record => exact .rests keeps.releaseWorker phase semaphore record
  | parks admits pool command diary => exact absurd admits.notStarted old
  | enters permit admits noPool command diary => exact absurd admits.notStarted old
  | begins asked queued created inTime begins => exact absurd asked other
  | rescues running rescues =>
      exact .rescues running
        { rescues.toKeeps.releaseWorker with
          active := rescues.active, share := rescues.share.congr rfl rfl }
  | ends running closes => exact .ends running closes.releaseWorker
  | late asked isOver running keeps share record =>
      exact .late asked isOver running keeps.releaseWorker (share.congr rfl rfl) record

-----------------------------------------------------------------------------------------
-- Submission and hand-over
-----------------------------------------------------------------------------------------

/-- A command that a bulkhead turns away ends, or its fallback is started. -/
theorem Keeps.reject (keeps : Keeps before step call)
    (early : before.command.lifecycle.isEarly) (finished : call.command.work = .over)
    (phase : call.command.fallback = before.command.fallback)
    (semaphore : call.dependency.fallbackSemaphore = before.dependency.fallbackSemaphore)
    (unused : call.command.fallback.isUnused) (active : call.command.lifecycle.isActive)
    (claimed : before.command.timer = none ∨ call.command.timeout ≠ .notExecuted)
    (runner : Runner) (isolation : Isolation)
    : Closes before step (call.reject runner isolation)
      ∨ Rescues before step (call.reject runner isolation) := by
  have told : Keeps before step
      ((call.mapRecord (·.addTag isolation.rejectionTag)).mapDependency
        Dependency.markNonSuccess) :=
    (keeps.refused early finished _).mapDependency (fixed_of_frame (frame_markNonSuccess _))
      (Dependency.diary_markNonSuccess _)
  exact told.failToFallback phase semaphore unused active (.inr finished) claimed runner _

/-- Asking the circuit takes no place of a fallback. -/
theorem fallbackSemaphore_asked (call : Call α)
    : call.asked.dependency.fallbackSemaphore = call.dependency.fallbackSemaphore :=
  congrArg Loans.fallbackSemaphore (Dependency.loans_allowRequest _ _)

/-- The circuit was asked about a command that is submitted. -/
theorem keeps_asked (idle : before.command.Idle)
    : Keeps before (.submit before.number) before.asked where
  fixed := fixed_of_frame before.frame_asked
  lifecycle := .inr ⟨idle.lifecycle, rfl⟩
  threadState := rfl
  permit := rfl
  gauge := rfl
  origin := rfl
  diary := Dependency.diary_allowRequest _ _
  work := .inr (.inl rfl)
  turned := .inl
  claim := .inr rfl
  timing := .kept nofun rfl rfl rfl

/-- A command that begins is stamped and counted, and holds its timeout. -/
theorem command_begun (call : Call α)
    : call.beginInvocation.command
      = { call.command with
          record := call.command.record.markStarted call.now
          timer := call.beginInvocation.command.timer } := by
  obtain ⟨timer, command⟩ := call.command_beginInvocation
  rw [command]

/-- A timeout that is registered after the circuit was asked. -/
theorem Arms.of_frame {middle : Call α} (arms : Arms middle after)
    (frame : middle.frame = before.frame)
    (timer : middle.gateway.timer = before.gateway.timer)
    (handle : middle.command.timer = before.command.timer) : Arms before after := by
  have number : middle.number = before.number := congrArg (·.1) frame
  have id : middle.dependency.id = before.dependency.id := congrArg (·.2.2.id) frame
  have config : middle.config = before.config := congrArg (·.2.2.config) frame
  cases arms with
  | untimed same kept => exact .untimed (same.trans handle) (kept.trans timer)
  | timed enabled armed registered =>
      rw [timer, number, id, config] at registered
      exact .timed (config ▸ enabled) armed registered

/-- The call once its command has taken a place in the semaphore. -/
def holding (call : Call α) (permit : Permit) (left : Semaphore) : Call α :=
  (call.mapDependency ({ · with semaphore := left })).mapCommand ({ · with permit := some permit })

/-- A command that finds a place in the semaphore begins with its work. -/
theorem admitBySemaphore_begins {permit : Permit} {left : Semaphore}
    (acquired : call.dependency.semaphore.tryAcquire = some (permit, left))
    (created : call.command.lifecycle = .chainCreated)
    (inTime : call.command.timeout ≠ .timedOut)
    : Begins (call.holding permit left).beginInvocation .caller call.admitBySemaphore := by
  have command := (call.holding permit left).command_begun
  have admits : call.admitBySemaphore
      = (call.holding permit left).beginInvocation.startWork .caller := by
    simp only [admitBySemaphore, acquired]
    rfl
  rw [admits]
  refine startWork_begins _ .caller ?_ ?_
  · rw [command]
    exact created
  · rw [command]
    exact inTime

/-- A command that finds a place in the semaphore runs its work at once. -/
theorem admitBySemaphore_move (idle : before.command.Idle) (allowed : before.isAllowed = true)
    (noPool : before.dependency.pool = none) {permit : Permit} {left : Semaphore}
    (acquired : before.asked.dependency.semaphore.tryAcquire = some (permit, left))
    : Move before (.submit before.number) before.asked.admitBySemaphore := by
  let held := before.asked.holding permit left
  have frame : held.frame = before.frame := before.frame_asked
  have now : held.beginInvocation.now = before.now :=
    congrArg (·.2.1) (held.frame_beginInvocation.trans frame)
  have number : held.beginInvocation.number = before.number :=
    congrArg (·.1) (held.frame_beginInvocation.trans frame)
  have command := held.command_begun
  have inTime : before.command.timeout ≠ .timedOut := by
    rw [idle.timeout]
    decide
  have begins : Begins held.beginInvocation .caller before.asked.admitBySemaphore :=
    admitBySemaphore_begins acquired rfl inTime
  generalize before.asked.admitBySemaphore = after at begins ⊢
  have handle : after.command.timer = held.beginInvocation.command.timer := by
    rw [begins.command]
    rfl
  have place : before.dependency.hasPlace = true := by
    have empty : before.asked.dependency.pool = none :=
      (Dependency.pool_allowRequest _ _).trans noPool
    rw [← hasPlace_asked, Dependency.hasPlace, empty]
    simp only [acquired, Option.isSome_some]
  refine .enters permit ⟨rfl, idle.lifecycle, idle.work, idle.timeout, idle.timer, allowed, place,
    ?_, ?_⟩ noPool ?_ ?_
  · exact (held.beginInvocation_arms.of_frame frame rfl rfl).congr handle begins.timer
  · refine .kept ?_ ?_
    · rw [begins.command, Command.working, command]
      rfl
    · rw [begins.fallbackSemaphore, dependency_beginInvocation]
      exact before.fallbackSemaphore_asked
  · refine begins.command.trans ?_
    rw [handle, now, command]
    rfl
  · rw [begins.diary, number, dependency_beginInvocation]
    exact congrArg (·.start before.number) (Dependency.diary_allowRequest _ _)

/-- A command for which the pool has room is about to be handed over. -/
theorem admitByPool_move (idle : before.command.Idle) (allowed : before.isAllowed = true)
    {pool : WorkerPool Nat} (some_pool : before.dependency.pool = some pool)
    (room : pool.isQueueSpaceAvailable = true)
    : Move before (.submit before.number)
        (before.asked.beginInvocation.mapCommand ({ · with work := .handingOff })) := by
  have command := before.asked.command_begun
  have place : before.dependency.hasPlace = true := by
    rw [Dependency.hasPlace, some_pool]
    exact room
  refine .parks ⟨rfl, idle.lifecycle, idle.work, idle.timeout, idle.timer, allowed, place, ?_, ?_⟩
    ?_ ?_ ?_
  · exact (before.asked.beginInvocation_arms.of_frame before.frame_asked rfl rfl).congr rfl rfl
  · refine .kept ?_ ?_
    · rw [command_mapCommand, command]
      rfl
    · rw [dependency_mapCommand, dependency_beginInvocation]
      exact before.fallbackSemaphore_asked
  · rw [some_pool]
    rfl
  · rw [command_mapCommand, command]
    rfl
  · rw [dependency_mapCommand, dependency_beginInvocation]
    exact Dependency.diary_allowRequest _ _

/-- A submission moves a command from where none was submitted, by cases on who admits it. -/
theorem submit_move (idle : before.command.Idle)
    : Move before (.submit before.number) before.submit := by
  have keeps := keeps_asked idle
  have running : before.command.lifecycle.isOver = false := by rw [idle.lifecycle]; rfl
  have early : before.command.lifecycle.isEarly := by rw [idle.lifecycle]; rfl
  have semaphore := before.fallbackSemaphore_asked
  have turnedAway (isolation : Isolation)
      : Move before (.submit before.number) (before.asked.reject .caller isolation) :=
    .of_claim running (keeps.reject early rfl rfl semaphore idle.fallback rfl (.inl idle.timer) _ _)
  have submitted := before.submit_cases
  generalize before.submit = after at submitted ⊢
  cases submitted with
  | turnedAway denied =>
      have tagged := keeps.refused early rfl .shortCircuited
      exact .of_claim running (tagged.failToFallback rfl semaphore idle.fallback rfl (.inr rfl)
        (.inl idle.timer) _ _)
  | atSemaphore allowed noPool =>
      cases acquired : before.asked.dependency.semaphore.tryAcquire with
      | none =>
          simp only [admitBySemaphore, acquired]
          exact turnedAway .semaphore
      | some taken =>
          exact admitBySemaphore_move idle allowed noPool acquired
  | atPool pool allowed held =>
      simp only [admitByPool]
      split
      · rename_i room
        exact admitByPool_move idle allowed held room
      · exact turnedAway .threadPool

/-- Work that comes back to nobody leaves the rest of the command. -/
theorem keeps_work (call : Call α) (other : ∀ number, step ≠ .timeoutFired number)
    : Keeps call step (call.mapCommand ({ · with work := .over })) :=
  (keeps_refl (.kept other rfl rfl rfl)).mapWork rfl (.inr (.inl rfl))

/-- To stay as it is counts as a move of a command, unless a timeout was to fire. -/
theorem move_refl (call : Call α) (other : ∀ number, step ≠ .timeoutFired number)
    : Move call step call :=
  .rests (keeps_refl (.kept other rfl rfl rfl)) rfl rfl rfl

/-- Work that is claimed for an end before its timeout fires has that disarmed. -/
theorem Keeps.claimed (keeps : Keeps before step call)
    (unclaimed : before.command.timeout = .notExecuted)
    : Keeps before step (call.mapCommand ({ · with timeout := .completed })).cancelTimer := by
  have command := (call.mapCommand ({ · with timeout := .completed })).command_cancelTimer
  have dependency := (call.mapCommand ({ · with timeout := .completed })).dependency_cancelTimer
  have frame
      : (call.mapCommand ({ · with timeout := .completed })).cancelTimer.frame = call.frame :=
    frame_cancelTimer _
  have timer : (call.mapCommand ({ · with timeout := .completed })).cancelTimer.gateway.timer
      = before.disarmedTimer :=
    (timer_cancelTimer _).trans keeps.timing.disarmedTimer
  generalize (call.mapCommand ({ · with timeout := .completed })).cancelTimer = after
    at command dependency frame timer ⊢
  have handle : after.command.timer = none := by rw [command]
  have timeout : after.command.timeout ≠ .notExecuted := by
    rw [command]
    exact nofun
  refine ⟨(fixed_of_frame frame).trans keeps.fixed, ?_, ?_, ?_, ?_, ?_, ?_, ?_, ?_, .inl unclaimed,
    .disarmed handle timer (.inr timeout)⟩
  · rw [command]
    exact keeps.lifecycle
  · rw [command]
    exact keeps.threadState
  · rw [command]
    exact keeps.permit
  · rw [command]
    exact keeps.gauge
  · rw [command]
    exact keeps.origin
  · rw [dependency]
    exact keeps.diary
  · rw [command]
    exact keeps.work
  · rw [command]
    exact keeps.turned

/-- A hand-over queues the command, or turns it away, or drops it if it was claimed before. -/
theorem handOff_move (stage : before.command.Stage before.config.fallbackEnabled)
    : Move before (.handOff before.number) before.handOff := by
  have kept (pool : WorkerPool Nat)
      : Keeps before (.handOff before.number) (before.setPool pool) := by
    refine Keeps.mapDependency (keeps_refl (.kept ?_ rfl rfl rfl)) rfl rfl
    exact nofun
  have handed := before.handOff_cases
  generalize before.handOff = after at handed ⊢
  cases handed with
  | skipped => exact before.move_refl nofun
  | taken pool held work =>
      exact .rests ((kept _).mapWork rfl (.inr (.inr ⟨work, rfl⟩))) rfl rfl rfl
  | refused pool held work unclaimed =>
      cases stage with
      | idle idle => simp [idle.work] at work
      | undecided undecided =>
          have created : before.command.lifecycle = .chainCreated := by
            rcases undecided.place with ⟨created, _⟩ | ⟨_, _, _, running⟩
            · exact created
            · simp [running] at work
          have running : before.command.lifecycle.isOver = false := by rw [created]; rfl
          have early : before.command.lifecycle.isEarly := by rw [created]; rfl
          have keeps := ((kept pool.turnAway).mapWork rfl
            (.inr (.inl rfl))).claimed unclaimed
          refine .of_claim running (keeps.reject early ?_ ?_ ?_ ?_ ?_ (.inr ?_) _ _)
          · rw [command_cancelTimer]
            rfl
          · rw [command_cancelTimer]
            rfl
          · rw [dependency_cancelTimer]
            rfl
          · rw [command_cancelTimer]
            exact undecided.fallback
          · rw [command_cancelTimer]
            exact undecided.isActive
          · rw [command_cancelTimer]
            exact nofun
      | rescuing on rescuing =>
          have timedOut := rescuing.timedOut (by simp [work])
          simp [timedOut] at unclaimed
      | closed closed => exact absurd unclaimed (closed.claimed (by simp [work]))
  | dropped pool held work claimed =>
      exact .rests ((kept _).mapWork rfl (.inr (.inl rfl))) rfl rfl rfl

/-- A worker begins with the work of a command, or finds that claimed. -/
theorem pickUp_move (queued : before.command.work = .queued)
    (uncounted : before.command.gaugeHeld = false)
    : Move before .pickUp (before.startWork .worker) := by
  by_cases starts : before.command.lifecycle = .chainCreated ∧ before.command.timeout ≠ .timedOut
  · exact .begins rfl queued starts.1 starts.2 (before.startWork_begins .worker starts.1 starts.2)
  · rw [before.startWork_late starts uncounted]
    have kept : Keeps before .pickUp (before.mapCommand ({ · with work := .over })) :=
      before.keeps_work nofun
    exact .rests kept.releaseWorker rfl rfl rfl

-----------------------------------------------------------------------------------------
-- The end of the work
-----------------------------------------------------------------------------------------

/-- Work that returned in time ends its command, or has its fallback started. -/
theorem Keeps.settle (keeps : Keeps before step call)
    (phase : call.command.fallback = before.command.fallback)
    (semaphore : call.dependency.fallbackSemaphore = before.dependency.fallbackSemaphore)
    (unused : call.command.fallback.isUnused) (active : call.command.lifecycle.isActive)
    (finished : call.command.work = .over) (claimed : call.command.timeout ≠ .notExecuted)
    (runner : Runner) (latency : Nat) (result : Except WorkError α)
    : Closes before step (call.settle runner latency result)
      ∨ Rescues before step (call.settle runner latency result) := by
  have rests := FallbackPhase.isRunning_of_isUnused unused
  have tagged {change : ExecutionRecord → ExecutionRecord} {tag : Tag}
      (origin : (change call.command.record).origin = call.command.record.origin)
      (added : (change call.command.record).tags = call.command.record.tags.add tag)
      (mild : tag.isRefusal = false)
      : Keeps before step ((call.mapRecord change).mapDependency Dependency.markNonSuccess) :=
    (keeps.tagged origin added mild).mapDependency (fixed_of_frame (frame_markNonSuccess _))
      (Dependency.diary_markNonSuccess _)
  cases result with
  | ok value =>
      have succeeded : Keeps before step
          ((call.mapRecord (·.addTimedTag latency .success)).mapDependency
            (·.markSuccess call.now)) :=
        (keeps.tagged (ExecutionRecord.origin_addTimedTag _ _ _)
            (ExecutionRecord.tags_addTimedTag _ _ _) rfl).mapDependency
          (fixed_of_frame (frame_markSuccess _ _)) (Dependency.diary_markSuccess _ _)
      have same : (call.dependency.markSuccess call.now).fallbackSemaphore
          = call.dependency.fallbackSemaphore :=
        congrArg Loans.fallbackSemaphore (Dependency.loans_markSuccess _ _)
      exact .inl (succeeded.finish (.kept (congrArg _ phase) (same.trans semaphore)) active rests
        (.inr finished) (.inr claimed) (.ok value))
  | error error =>
      simp only [Call.settle]
      split
      · exact (tagged (ExecutionRecord.origin_addTimedTag _ _ _)
          (ExecutionRecord.tags_addTimedTag _ _ _) rfl).failToFallback phase semaphore unused active
          (.inr finished) (.inr claimed) runner _
      · left
        exact (tagged (ExecutionRecord.origin_addTimedTag _ _ _)
          (ExecutionRecord.tags_addTimedTag _ _ _) rfl).finish (.kept (congrArg _ phase) semaphore)
            active rests (.inr finished) (.inr claimed) _

/-- The return of the work claims the command, or comes too late and keeps all but the work. -/
theorem workReturned_move (result : Except WorkError α)
    (stage : before.command.Stage before.config.fallbackEnabled)
    : Move before (.workReturned before.number result) (before.workReturned result) := by
  have other (number : Nat)
      : Gateway.Step.workReturned before.number result ≠ .timeoutFired number :=
    fun asked => by cases asked
  cases work : before.command.work with
  | running since runner =>
      by_cases unclaimed : before.command.timeout = .notExecuted
      · cases stage with
        | idle idle => simp [idle.work] at work
        | undecided undecided =>
            have running := Lifecycle.isOver_of_isActive undecided.isActive
            have started : before.command.lifecycle ≠ .notStarted := by
              intro idle
              have active := undecided.isActive
              simp [idle, Lifecycle.isActive] at active
            have kept : Keeps before (.workReturned before.number result)
                (before.mapCommand ({ · with work := .over })) := before.keeps_work other
            have keeps := kept.claimed unclaimed
            have settled : Move before (.workReturned before.number result)
                (((before.mapCommand ({ · with work := .over })).mapCommand
                  ({ · with timeout := .completed })).cancelTimer.settle runner
                    (before.now - since) result) := by
              refine .of_claim running (keeps.settle ?_ ?_ ?_ ?_ ?_ ?_ _ _ _)
              · rw [command_cancelTimer]
                rfl
              · rw [dependency_cancelTimer]
                rfl
              · rw [command_cancelTimer]
                exact undecided.fallback
              · rw [command_cancelTimer]
                exact undecided.isActive
              · rw [command_cancelTimer]
                rfl
              · rw [command_cancelTimer]
                exact fun same => by cases same
            simp only [workReturned, work, command_mapCommand, unclaimed, if_true]
            split
            · exact settled.releaseWorker started fun asked => by cases asked
            · exact settled
        | rescuing on rescuing =>
            have timedOut := rescuing.timedOut (by simp [work])
            simp [timedOut] at unclaimed
        | closed closed => exact absurd unclaimed (closed.claimed (by simp [work]))
      · rw [before.workReturned_late work unclaimed]
        have kept : Keeps before (.workReturned before.number result)
            (before.mapCommand ({ · with work := .over })) := before.keeps_work other
        split
        · exact .rests kept.releaseWorker rfl rfl rfl
        · exact .rests kept rfl rfl rfl
  | _ =>
      simp only [workReturned, work]
      exact before.move_refl other

-----------------------------------------------------------------------------------------
-- Fallback, timeout and cancellation
-----------------------------------------------------------------------------------------

/-- The fallback of a command gives its place back when it returns. -/
def rescued (call : Call α) : Call α :=
  call.mapDependency fun dependency =>
    { dependency with fallbackSemaphore := dependency.fallbackSemaphore.giveBack }

/-- The return of a fallback is one sequence of pieces, with the tag and the outcome of its result.
-/
theorem fallbackReturned_eq {cause : CommandError} {runner : Runner}
    (phase : before.command.fallback = .running cause runner) (result : Except WorkError α)
    : ∃ outcome,
        before.fallbackReturned result
          = (let finished := (((before.mapCommand ({ · with fallback := .over })).mapRecord
                (·.addTag (.ofRescue result))).finish outcome).rescued
            if runner = .worker then finished.releaseWorker else finished) := by
  cases result with
  | ok value =>
      refine ⟨.ok value, ?_⟩
      simp only [fallbackReturned, phase]
      rfl
  | error error =>
      refine ⟨.error (.fallbackFailed before.key cause error), ?_⟩
      simp only [fallbackReturned, phase]
      rfl

/-- A command ends when its fallback returns, which gives its place back after that. -/
theorem Closes.givesBack
    (closes : Closes (before.mapCommand ({ · with fallback := .over })) step after)
    (running : before.command.fallback.isRunning)
    (phase : after.command.fallback = .over)
    (semaphore : after.dependency.fallbackSemaphore = before.dependency.fallbackSemaphore)
    : Closes before step after.rescued := by
  have finished : after.command.fallback.isRunning = false := by rw [phase]; rfl
  exact { closes with
    timing := by
      cases closes.timing with
      | kept other handle timer timeout => exact .kept other handle timer timeout
      | fired asked handle timer claimed => exact .fired asked handle timer claimed
      | disarmed handle timer claimed => exact .disarmed handle timer claimed
    share := .returned running finished (congrArg Semaphore.giveBack semaphore) }

/-- A fallback that returns in time ends its command. -/
theorem fallbackReturned_closes {cause : CommandError} {tag : Tag} {outcome : Outcome α}
    (result : Except WorkError α) (rescuing : before.command.Rescuing cause tag)
    : Closes before (.fallbackReturned before.number result)
        (((before.mapCommand ({ · with fallback := .over })).mapRecord
          (·.addTag (.ofRescue result))).finish outcome).rescued := by
  let returned := before.mapCommand ({ · with fallback := .over })
  let tagged := returned.mapRecord (·.addTag (.ofRescue result))
  have active : tagged.command.lifecycle.isActive = true := rescuing.lifecycle
  have mild : (Tag.ofRescue result).isRefusal = false := by cases result <;> rfl
  have running : before.command.fallback.isRunning := by
    obtain ⟨runner, phase⟩ := rescuing.running
    rw [phase]
    rfl
  have kept : Keeps returned (.fallbackReturned before.number result) returned :=
    keeps_refl (.kept nofun rfl rfl rfl)
  have keeps : Keeps returned (.fallbackReturned before.number result) tagged :=
    kept.tagged rfl rfl mild
  have closes := keeps.finish (.kept rfl rfl) active rfl (.inl rfl) rescuing.disarmed.symm outcome
  refine closes.givesBack running ?_ ?_
  · rw [command_finish, if_pos active]
    rfl
  · rw [dependency_finish, if_pos active]
    rfl

/-- A fallback that returns to a command that was ended meanwhile only leaves its tag. -/
theorem fallbackReturned_late {outcome : Outcome α} (result : Except WorkError α)
    (running : before.command.fallback.isRunning) (closed : before.command.Over)
    : Move before (.fallbackReturned before.number result)
        (((before.mapCommand ({ · with fallback := .over })).mapRecord
          (·.addTag (.ofRescue result))).finish outcome).rescued := by
  have mild : (Tag.ofRescue result).isRefusal = false := by cases result <;> rfl
  let tagged := (before.mapCommand ({ · with fallback := .over })).mapRecord
    (·.addTag (.ofRescue result))
  have dropped : tagged.finish outcome = tagged := by
    have finished : tagged.command.lifecycle.isActive = false := closed.not_isActive
    simp only [finish, finished]
    rfl
  have other (number : Nat)
      : Gateway.Step.fallbackReturned before.number result ≠ .timeoutFired number :=
    fun asked => by cases asked
  have kept : Keeps before (.fallbackReturned before.number result)
      (before.mapCommand ({ · with fallback := .over })) :=
    ⟨rfl, .inl rfl, rfl, rfl, rfl, rfl, rfl, .inl rfl, .inl, .inr rfl, .kept other rfl rfl rfl⟩
  have keeps : Keeps before (.fallbackReturned before.number result) tagged :=
    kept.tagged rfl rfl mild
  show Move before _ (tagged.finish outcome).rescued
  rw [dropped]
  exact .late rfl closed.lifecycle running (keeps.mapDependency rfl rfl)
    (.returned running rfl rfl) rfl

/-- The return of a fallback ends its command, or comes after its end. -/
theorem fallbackReturned_move (result : Except WorkError α)
    (stage : before.command.Stage before.config.fallbackEnabled)
    : Move before (.fallbackReturned before.number result) (before.fallbackReturned result) := by
  cases phase : before.command.fallback with
  | running cause runner =>
      have running : before.command.fallback.isRunning := by rw [phase]; rfl
      obtain ⟨outcome, returned⟩ := fallbackReturned_eq phase result
      have started : before.command.lifecycle ≠ .notStarted := by
        intro idle
        have unused := (stage.isIdle idle).fallback
        simp [phase, FallbackPhase.isUnused] at unused
      rw [returned]
      have settled : Move before (.fallbackReturned before.number result)
          (((before.mapCommand ({ · with fallback := .over })).mapRecord
            (·.addTag (.ofRescue result))).finish outcome).rescued := by
        cases stage with
        | idle idle => exact absurd idle.lifecycle started
        | undecided undecided =>
            have unused := undecided.fallback
            simp [phase, FallbackPhase.isUnused] at unused
        | rescuing on rescuing =>
            exact .ends (Lifecycle.isOver_of_isActive rescuing.lifecycle)
              (fallbackReturned_closes result rescuing)
        | closed closed => exact fallbackReturned_late result running closed
      dsimp only
      split
      · exact settled.releaseWorker started fun asked => by cases asked
      · exact settled
  | _ =>
      simp only [fallbackReturned, phase]
      exact before.move_refl fun number asked => by cases asked

/-- A timeout claims a command that nobody has claimed, and is spent either way. -/
theorem timedOut_move (stage : before.command.Stage before.config.fallbackEnabled)
    (armed : before.command.timer ≠ none)
    : Move before (.timeoutFired before.number) before.timedOut := by
  simp only [timedOut]
  split
  · rename_i unclaimed
    have undecided := stage.undecided_of_armed armed unclaimed
    have late : TimeoutStatus.timedOut ≠ .notExecuted := by decide
    have claimed : Keeps before (.timeoutFired before.number)
        (before.mapCommand ({ · with timeout := .timedOut })) :=
      ⟨rfl, .inl rfl, rfl, rfl, rfl, rfl, rfl, .inl rfl, .inl, .inl unclaimed,
        .fired rfl rfl rfl late⟩
    have tagged : Keeps before (.timeoutFired before.number)
        ((before.mapCommand ({ · with timeout := .timedOut })).mapRecord
          (·.addTimedTag before.sinceInvoked .timeout)) :=
      claimed.tagged (ExecutionRecord.origin_addTimedTag _ _ _)
        (ExecutionRecord.tags_addTimedTag _ _ _) rfl
    have told := tagged.mapDependency (fixed_of_frame (frame_markNonSuccess _))
      (Dependency.diary_markNonSuccess _)
    exact .of_claim (Lifecycle.isOver_of_isActive undecided.isActive)
      (told.failToFallback rfl rfl undecided.fallback undecided.isActive (.inl rfl)
        (.inr late) .timer (.timeout before.key before.config.executionTimeout))
  · rename_i claimed
    exact .rests (keeps_refl (.fired rfl rfl rfl claimed)) rfl rfl rfl

/-- A cancellation ends a command that is under way. -/
theorem abandon_move (active : before.command.lifecycle.isActive)
    : Move before (.cancel before.number) before.abandon := by
  let timeout :=
    if before.command.timeout = .notExecuted then TimeoutStatus.completed
    else before.command.timeout
  have claim : before.command.timeout = .notExecuted ∨ timeout = before.command.timeout := by
    by_cases unclaimed : before.command.timeout = .notExecuted
    · exact .inl unclaimed
    · exact .inr (if_neg unclaimed)
  have claimed : timeout ≠ .notExecuted := by
    by_cases unclaimed : before.command.timeout = .notExecuted
    · simp [timeout, unclaimed]
    · simp [timeout, unclaimed]
  have kept : Keeps before (.cancel before.number) before := keeps_refl (.kept nofun rfl rfl rfl)
  have told : Keeps before (.cancel before.number)
      ((before.mapRecord (·.addTag .cancelled)).mapDependency Dependency.markNonSuccess) :=
    (kept.tagged rfl rfl rfl).mapDependency (fixed_of_frame (frame_markNonSuccess _))
      (Dependency.diary_markNonSuccess _)
  exact .ends (Lifecycle.isOver_of_isActive active)
    (told.leave (.kept rfl rfl) rfl claim .unsubscribed (.error (.cancelled before.key)) (.inl rfl)
      (.inr claimed) (.inl rfl))

/-- Every step makes one of the listed moves. -/
theorem Op.move (op : Op before step after)
    (stage : before.command.Stage before.config.fallbackEnabled)
    (uncounted : before.command.work = .queued → before.command.gaugeHeld = false)
    : Move before step after := by
  cases op with
  | submit notStarted => exact submit_move (stage.isIdle notStarted)
  | handOff => exact handOff_move stage
  | pickUp queued => exact pickUp_move queued (uncounted queued)
  | workReturned result => exact workReturned_move result stage
  | fallbackReturned result => exact fallbackReturned_move result stage
  | timeoutFired armed => exact timedOut_move stage armed
  | cancel active returned => exact abandon_move active

-----------------------------------------------------------------------------------------
-- What every move does
-----------------------------------------------------------------------------------------

/-- On every move a command takes a place for its fallback, gives it back, or leaves the places. -/
theorem Move.share (move : Move before step after) : Share before after := by
  cases move with
  | rests keeps phase semaphore record => exact .kept (congrArg _ phase) semaphore
  | parks admits pool command diary => exact admits.share
  | enters permit admits noPool command diary => exact admits.share
  | begins asked queued created inTime begins =>
      refine .kept ?_ begins.fallbackSemaphore
      rw [begins.command]
      rfl
  | rescues running rescues => exact rescues.share
  | ends running closes => exact closes.share
  | late asked isOver running keeps share record => exact share

/-- A timeout is registered for a command that is submitted, has none and that nobody has claimed.
-/
theorem Move.timing (move : Move before step after)
    : Timing before step after
      ∨ (step = .submit before.number ∧ before.command.timer = none
          ∧ after.command.timeout = .notExecuted ∧ Arms before after) := by
  cases move with
  | rests keeps phase semaphore record => exact .inl keeps.timing
  | parks admits pool command diary =>
      refine .inr ⟨admits.asked, admits.timerless, ?_, admits.arms⟩
      rw [command]
      exact admits.unclaimed
  | enters permit admits noPool command diary =>
      refine .inr ⟨admits.asked, admits.timerless, ?_, admits.arms⟩
      rw [command]
      exact admits.unclaimed
  | begins asked queued created inTime begins =>
      refine .inl (.kept (asked ▸ nofun) ?_ begins.timer ?_)
      · rw [begins.command]
        rfl
      · rw [begins.command]
        rfl
  | rescues running rescues => exact .inl rescues.timing
  | ends running closes => exact .inl closes.timing
  | late asked isOver running keeps share record => exact .inl keeps.timing

/-- A command is claimed once. -/
theorem Move.claim (move : Move before step after)
    : before.command.timeout = .notExecuted
      ∨ after.command.timeout = before.command.timeout := by
  cases move with
  | rests keeps phase semaphore record => exact keeps.claim
  | parks admits pool command diary => exact .inl admits.unclaimed
  | enters permit admits noPool command diary => exact .inl admits.unclaimed
  | begins asked queued created inTime begins =>
      right
      rw [begins.command]
      rfl
  | rescues running rescues => exact rescues.claim
  | ends running closes => exact closes.claim
  | late asked isOver running keeps share record => exact keeps.claim

end Call

end Breakwater
