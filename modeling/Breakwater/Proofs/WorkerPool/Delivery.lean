import Mathlib.Data.List.Perm.Basic
import Breakwater.Proofs.WorkerPool.Admission

/-! What a pool accepts is delivered: every task that it has taken is begun once, in the order of
the calls, and ended once, whichever tasks panic and whenever the pool is shut down.
-/

namespace Breakwater.WorkerPool

variable {τ : Type}

/-- A pool at work, with all tasks it has ever taken. -/
structure Session (τ : Type) where
  pool : WorkerPool τ
  /-- Tasks that were accepted, in the order of the calls. -/
  accepted : List τ
  /-- Tasks that a worker has begun, the first one first. -/
  started : List τ
  /-- Tasks that workers are in the middle of. -/
  running : List τ
  ended : List τ

namespace Session

/-- One thing that can happen to a pool, at any time also from inside of a task. -/
inductive Step (τ : Type) where
  | execute (task : τ)
  /-- An idle worker looks for a task. -/
  | pickUp
  /-- One of the running tasks returns or panics. -/
  | ends (place : Nat) (panicked : Bool)
  | shutdown

/-- A new pool. -/
def create (name : String) (config : PoolConfig) : Session τ :=
  ⟨.create name config, [], [], [], []⟩

variable (session : Session τ)

/-- Take one step. -/
def step : Step τ → Session τ
  | .execute task =>
      match session.pool.submit task with
      | (.ok (), pool) => { session with pool, accepted := session.accepted ++ [task] }
      | (.error _, pool) => { session with pool }
  | .pickUp =>
      match session.pool.pickUp? with
      | none => session
      | some (task, pool) =>
          { session with
            pool, started := session.started ++ [task], running := session.running ++ [task] }
  | .ends place _ =>
      match session.running[place]? with
      | none => session
      | some task =>
          { session with
            pool := session.pool.finish
            running := session.running.eraseIdx place
            ended := session.ended ++ [task] }
  | .shutdown => { session with pool := session.pool.shutdown }

/-- Take steps in order. -/
def run (steps : List (Step τ)) : Session τ := steps.foldl step session

@[simp]
theorem run_first (first : Step τ) (rest : List (Step τ))
    : session.run (first :: rest) = (session.step first).run rest := rfl

/-- Tasks that were accepted and have not ended. -/
def outstanding : Nat := session.accepted.length - session.ended.length

/-- No worker is idle while a task waits. -/
def Settled : Prop :=
  0 < session.pool.idle → session.pool.queue = []

-----------------------------------------------------------------------------------------
-- The books of a pool
-----------------------------------------------------------------------------------------

/-- The counters of a pool agree with each other and with what became of the tasks that it has
taken.
-/
structure Accounted (config : PoolConfig) : Prop where
  settings : session.pool.config = config
  consistent : session.pool.Consistent
  inOrder : session.accepted = session.started ++ session.pool.queue
  ranOnce : session.started.Perm (session.ended ++ session.running)
  active : session.pool.active = session.running.length
  completed : session.pool.completed = session.ended.length

end Session

namespace Session

variable {session after : Session τ} {config : PoolConfig}

-----------------------------------------------------------------------------------------
-- What a step does
-----------------------------------------------------------------------------------------

/-- What a step can do to a pool and its tasks. -/
inductive Effect (session : Session τ) : Session τ → Prop where
  | idle : Effect session session
  | taken {task : τ} (free : session.pool.refusal? = none)
      : Effect session
          { session with
            pool := session.pool.take task
            accepted := session.accepted ++ [task] }
  | refused {refusal : PoolRefusal} (refused : session.pool.refusal? = some refusal)
      : Effect session
          { session with pool := session.pool.turnAway }
  | begun {task : τ} {rest : List τ} (waiting : session.pool.queue = task :: rest)
      (idle : 0 < session.pool.idle)
      : Effect session
          { session with
            pool := session.pool.engage rest
            started := session.started ++ [task]
            running := session.running ++ [task] }
  | ended {task : τ} {place : Nat} (found : session.running[place]? = some task)
      : Effect session
          { session with
            pool := session.pool.finish
            running := session.running.eraseIdx place
            ended := session.ended ++ [task] }
  | stopped : Effect session { session with pool := session.pool.shutdown }

/-- A task that is taken is listed among the accepted ones. -/
theorem step_execute_of_taken (task : τ) (taken : session.pool.refusal? = none)
    : session.step (.execute task)
      = { session with
          pool := session.pool.take task
          accepted := session.accepted ++ [task] } := by
  simp [step, submit_of_taken taken]

/-- A task that is refused leaves no trace but the count of refusals. -/
theorem step_execute_of_refused (task : τ) {refusal : PoolRefusal}
    (refused : session.pool.refusal? = some refusal)
    : session.step (.execute task) = { session with pool := session.pool.turnAway } := by
  simp [step, submit_of_refused refused]

/-- A task that ends makes its worker idle, whether or not it panicked. -/
theorem step_ends {place : Nat} {task : τ} (found : session.running[place]? = some task)
    (panicked : Bool)
    : session.step (.ends place panicked)
      = { session with
          pool := session.pool.finish
          running := session.running.eraseIdx place
          ended := session.ended ++ [task] } := by
  simp [step, found]

/-- What a step can do, as one case for each way. -/
theorem effect_step (session : Session τ) (step : Step τ)
    : session.Effect (session.step step) := by
  cases step with
  | execute task =>
      cases answer : session.pool.refusal? with
      | none =>
          rw [step_execute_of_taken task answer]
          exact .taken answer
      | some refusal =>
          rw [step_execute_of_refused task answer]
          exact .refused answer
  | pickUp =>
      rcases session.pool.pickUp?_cases with ⟨task, rest, waiting, idle, found⟩ | ⟨nothing, _⟩
      · simp only [Session.step, found]
        exact .begun waiting idle
      · simp only [Session.step, nothing]
        exact .idle
  | ends place panicked =>
      cases found : session.running[place]? with
      | none =>
          simp only [Session.step, found]
          exact .idle
      | some task =>
          rw [step_ends found]
          exact .ended found
  | shutdown => exact .stopped

/-- A new pool has nothing to account for. -/
theorem accounted_create (name : String) (config : PoolConfig)
    : (create name config : Session τ).Accounted config where
  settings := rfl
  consistent := consistent_create name config
  inOrder := rfl
  ranOnce := .nil
  active := rfl
  completed := rfl

/-- The books stay right, whatever a step does. -/
theorem Accounted.effect (accounted : session.Accounted config) (effect : session.Effect after)
    : after.Accounted config := by
  obtain ⟨settings, consistent, inOrder, ranOnce, active, completed⟩ := accounted
  cases effect with
  | idle => exact ⟨settings, consistent, inOrder, ranOnce, active, completed⟩
  | refused => exact ⟨settings, consistent.turnAway, inOrder, ranOnce, active, completed⟩
  | stopped => exact ⟨settings, consistent.shutdown, inOrder, ranOnce, active, completed⟩
  | @taken task free =>
      refine ⟨settings, consistent.take free task, ?_, ranOnce, active, completed⟩
      show session.accepted ++ [task] = session.started ++ (session.pool.queue ++ [task])
      rw [inOrder, List.append_assoc]
  | @begun task rest waiting idle =>
      refine ⟨settings, consistent.engage waiting idle, ?_, ?_, ?_, completed⟩
      · show session.accepted = session.started ++ [task] ++ rest
        rw [inOrder, waiting, List.append_assoc]
        rfl
      · show (session.started ++ [task]).Perm (session.ended ++ (session.running ++ [task]))
        rw [← List.append_assoc]
        exact ranOnce.append_right [task]
      · show session.pool.active + 1 = (session.running ++ [task]).length
        rw [active, List.length_append, List.length_singleton]
  | @ended task place found =>
      have inside := (List.getElem?_eq_some_iff.mp found).1
      have there := (List.getElem?_eq_some_iff.mp found).2
      have busy : session.pool.active ≠ 0 := by omega
      refine ⟨settings, consistent.finish busy, inOrder, ?_, ?_, ?_⟩
      · have moved : session.running.Perm (task :: session.running.eraseIdx place) :=
          there ▸ (List.getElem_cons_eraseIdx_perm inside).symm
        show session.started.Perm (session.ended ++ [task] ++ session.running.eraseIdx place)
        rw [List.append_assoc]
        exact ranOnce.trans (moved.append_left session.ended)
      · simp only [finish, List.length_eraseIdx, inside, if_true, active]
      · simp [finish, completed]

/-- Every run accounts for its tasks, by induction on the steps. -/
theorem Accounted.run (accounted : session.Accounted config) (steps : List (Step τ))
    : (session.run steps).Accounted config := by
  induction steps generalizing session with
  | nil => exact accounted
  | cons first rest ih => exact ih (accounted.effect (session.effect_step first))

-----------------------------------------------------------------------------------------
-- Tasks that are not done yet
-----------------------------------------------------------------------------------------

namespace Accounted

variable (accounted : session.Accounted config)
include accounted

/-- Every task that was accepted has ended, is running or waits. -/
theorem length_accepted
    : session.accepted.length
      = session.ended.length + session.running.length + session.pool.queue.length := by
  rw [accounted.inOrder, List.length_append, accounted.ranOnce.length_eq, List.length_append]

/-- The counter of a pool is the number of tasks that it has accepted and that have not ended. -/
theorem outstanding_eq : session.pool.outstanding = session.outstanding := by
  have total := accounted.length_accepted
  rw [outstanding, total, accounted.consistent.reserved, accounted.active]
  omega

/-- Workers are busy as far as there are tasks. -/
theorem active_of_settled (settled : session.Settled)
    : session.pool.active = min config.coreSize session.outstanding := by
  have manned := accounted.consistent.manned
  have reserved := accounted.consistent.reserved
  rw [accounted.settings] at manned
  rw [accounted.outstanding_eq] at reserved
  by_cases idle : 0 < session.pool.idle
  · rw [settled idle, List.length_nil] at reserved
    omega
  · omega

/-- Once nothing is on its way to a worker, the queue is what is outstanding and not running. -/
theorem queue_of_settled (settled : session.Settled)
    : session.pool.queueSize = session.outstanding - session.pool.active
      ∧ session.pool.queueSize ≤ config.maxQueueSize := by
  have manned := accounted.consistent.manned
  have within := Nat.le_trans accounted.consistent.within (PoolConfig.capacity_le _)
  rw [accounted.settings] at manned within
  refine ⟨by rw [queueSize, accounted.outstanding_eq], ?_⟩
  by_cases idle : 0 < session.pool.idle
  · rw [accounted.consistent.queueSize_eq, settled idle]
    exact Nat.zero_le _
  · rw [queueSize]
    omega

/-- Once no task runs and no idle worker finds one, all are done. -/
theorem ended_of_settled (staffed : 1 ≤ config.coreSize) (quiet : session.running = [])
    (settled : session.Settled) : session.ended.Perm session.accepted := by
  have manned := accounted.consistent.manned
  have active := accounted.active
  rw [accounted.settings] at manned
  rw [quiet, List.length_nil] at active
  have idle : 0 < session.pool.idle := by omega
  have order := accounted.inOrder
  have once := accounted.ranOnce
  rw [settled idle, List.append_nil] at order
  rw [quiet, List.append_nil] at once
  exact order ▸ once.symm

/-- Once nothing is outstanding, the tasks that ended are those that were accepted. -/
theorem ended_of_outstanding (staffed : 1 ≤ config.coreSize) (done : session.outstanding = 0)
    : session.ended.Perm session.accepted := by
  have total := accounted.consistent.reserved
  have active := accounted.active
  rw [accounted.outstanding_eq] at total
  have quiet : session.running = [] := List.length_eq_zero_iff.mp (by omega)
  have empty : session.pool.queue = [] := List.length_eq_zero_iff.mp (by omega)
  exact accounted.ended_of_settled staffed quiet fun _ => empty

/-- While a task is not done, some worker can take a step: an idle one finds a task or a running one
can end.
-/
theorem awake (staffed : 1 ≤ config.coreSize) (left : session.outstanding ≠ 0)
    : session.running ≠ [] ∨ session.pool.pickUp?.isSome = true := by
  rcases session.pool.pickUp?_cases with ⟨task, rest, _, _, found⟩ | ⟨_, settled⟩
  · exact .inr (by rw [found]; rfl)
  · refine .inl fun quiet => left ?_
    have done := (accounted.ended_of_settled staffed quiet settled).length_eq
    rw [outstanding, done, Nat.sub_self]

end Accounted

/-- Workers have one turn after the other: an idle one may take a task, and the oldest one that runs
ends. Some of the tasks panic.
-/
def turns (panics : List Bool) : List (Step τ) :=
  panics.flatMap fun panicked => [.pickUp, .ends 0 panicked]

/-- A turn leaves one task less to do, if there is any. -/
theorem Accounted.turn (accounted : session.Accounted config) (staffed : 1 ≤ config.coreSize)
    (panicked : Bool)
    : let after := (session.step .pickUp).step (.ends 0 panicked)
      after.accepted = session.accepted ∧ after.outstanding = session.outstanding - 1 := by
  intro after
  rcases session.pool.pickUp?_cases with ⟨task, rest, _, _, found⟩ | ⟨nothing, settled⟩
  · obtain ⟨first, there⟩ : ∃ first, (session.running ++ [task])[0]? = some first := by
      cases session.running with
      | nil => exact ⟨task, rfl⟩
      | cons first others => exact ⟨first, rfl⟩
    simp only [after, step, found, there, outstanding, List.length_append, List.length_singleton]
    exact ⟨trivial, Nat.sub_add_eq _ _ _⟩
  · cases busy : session.running with
    | nil =>
        have done := (accounted.ended_of_settled staffed busy settled).length_eq
        simp [after, step, nothing, busy, outstanding, done]
    | cons first others =>
        simp [after, step, nothing, busy, outstanding, Nat.sub_add_eq]

/-- Turns of the workers accept nothing, and each of them leaves one task less. -/
theorem Accounted.run_turns (accounted : session.Accounted config)
    (staffed : 1 ≤ config.coreSize) (panics : List Bool)
    : (session.run (turns panics)).accepted = session.accepted
      ∧ (session.run (turns panics)).outstanding = session.outstanding - panics.length := by
  induction panics generalizing session with
  | nil => exact ⟨rfl, rfl⟩
  | cons first rest ih =>
      obtain ⟨same, fewer⟩ := accounted.turn staffed first
      have later : Accounted ((session.step .pickUp).step (.ends 0 first)) config :=
        accounted.run [.pickUp, .ends 0 first]
      obtain ⟨accepted, left⟩ := ih later
      refine ⟨accepted.trans same, ?_⟩
      show (((session.step .pickUp).step (.ends 0 first)).run (turns rest)).outstanding = _
      rw [left, fewer, List.length_cons]
      omega

/-- A pool that is shut down takes nothing any more. -/
theorem Effect.closed (effect : session.Effect after) (stopped : session.pool.isShutdown = true)
    : after.pool.isShutdown = true ∧ after.accepted = session.accepted := by
  cases effect with
  | taken free => simp [refusal?, stopped] at free
  | stopped => exact ⟨rfl, rfl⟩
  | _ => exact ⟨stopped, rfl⟩

/-- A pool that is shut down accepts nothing more. -/
theorem accepted_run (stopped : session.pool.isShutdown = true) (steps : List (Step τ))
    : (session.run steps).accepted = session.accepted := by
  induction steps generalizing session with
  | nil => rfl
  | cons first rest ih =>
      obtain ⟨still, same⟩ := (session.effect_step first).closed stopped
      exact (ih still).trans same

-----------------------------------------------------------------------------------------
-- Admission and delivery
-----------------------------------------------------------------------------------------

/-- How a pool deals with the tasks that are handed to it. -/
structure Delivers (session : Session τ) (config : PoolConfig) : Prop where
  /-- A task is taken exactly if the pool is not shut down, its queue is below the threshold and
  it has a place left; -/
  accepts_iff
    : ∀ task,
        (session.pool.submit task).1 = .ok ()
        ↔ session.pool.isShutdown = false
          ∧ (config.maxQueueSize = 0
            ∨ session.pool.stats.queued < config.queueRejectionThreshold)
          ∧ session.pool.stats.active + session.pool.stats.queued < config.capacity
  /-- places are as many as workers and places in the queue, if a size can hold the sum; -/
  sized
    : config.coreSize + config.maxQueueSize < sizeLimit
        → config.capacity = config.coreSize + config.maxQueueSize
  taken
    : ∀ task, (session.pool.submit task).1 = .ok ()
        → (session.step (.execute task)).accepted = session.accepted ++ [task]
  /-- a refusal is counted and changes nothing else. -/
  refused
    : ∀ task, (session.pool.submit task).1 ≠ .ok ()
        → session.step (.execute task)
          = { session with
              pool := { session.pool with rejected := session.pool.rejected + 1 } }
  /-- A place is reserved for every task that was accepted and has not ended, -/
  reserved : session.pool.outstanding = session.outstanding
  /-- the two counters differ by the tasks in the channel, -/
  sent : session.pool.stats.queued = session.pool.channel.tasks.length
  /-- and whatever a place is reserved for, the channel takes. -/
  roomy
    : ∀ reserved task, session.pool.reserve? = some reserved
        → (reserved.channel.trySend? task).isSome = true
  /-- No worker is ever lost; -/
  manned : session.pool.idle + session.pool.stats.active = config.coreSize
  /-- as many workers are busy as there are tasks for, and the rest waits in the queue. -/
  staffed
    : session.Settled
        → session.pool.stats.active = min config.coreSize session.outstanding
          ∧ session.pool.stats.queued = session.outstanding - session.pool.stats.active
          ∧ session.pool.stats.queued ≤ config.maxQueueSize
  counted
    : session.accepted.length
      = session.pool.stats.completed + session.pool.stats.active + session.pool.stats.queued
  /-- Tasks are begun in the order in which they were accepted, and each is run once. -/
  inOrder : session.accepted = session.started ++ session.pool.queue
  ranOnce : session.started.Perm (session.ended ++ session.running)
  /-- A task that ends gives its worker and its place back, whether it panics or not. -/
  released
    : ∀ place panicked, place < session.running.length
        → (session.step (.ends place panicked)).pool.stats
            = { session.pool.stats with
                active := session.pool.stats.active - 1
                completed := session.pool.stats.completed + 1 }
          ∧ (session.step (.ends place panicked)).pool.idle = session.pool.idle + 1
          ∧ (session.step (.ends place panicked)).outstanding + 1 = session.outstanding
  /-- Once the pool is shut down, no task is accepted any more. -/
  closed
    : session.pool.isShutdown = true
        → ∀ steps, (session.run steps).accepted = session.accepted
  /-- Those that were accepted are still run: until they have ended, some worker can go on, -/
  awake
    : session.outstanding ≠ 0 → session.running ≠ [] ∨ session.pool.pickUp?.isSome = true
  drained : session.running = [] → session.Settled → session.ended.Perm session.accepted
  /-- and with as many turns of a worker as there are tasks left, all have ended. -/
  finished
    : ∀ panics : List Bool, session.outstanding ≤ panics.length
        → (session.run (turns panics)).ended.Perm session.accepted

/-- Whatever is handed to a pool, whichever tasks panic and whenever it is shut down: it takes what
it has room for, and runs all that it has taken.
-/
theorem accepted_tasks_delivered (name : String) (config : PoolConfig)
    (staffed : 1 ≤ config.coreSize) (steps : List (Step τ))
    : ((create name config).run steps).Delivers config := by
  have accounted : ((create name config : Session τ).run steps).Accounted config :=
    (accounted_create name config).run steps
  generalize (create name config : Session τ).run steps = session at accounted
  have settings := accounted.settings
  have consistent := accounted.consistent
  have queued := consistent.queueSize_eq
  have workers : 1 ≤ session.pool.config.coreSize := settings ▸ staffed
  constructor
  case accepts_iff =>
    intro task
    rw [submit_eq_ok_iff, consistent.refusal?_eq_none_iff workers, settings, ← queued]
    rfl
  case sized => exact PoolConfig.capacity_eq
  case taken =>
    intro task accepted
    rw [step_execute_of_taken task (submit_eq_ok_iff.mp accepted)]
  case refused =>
    intro task denied
    obtain ⟨refusal, answer⟩ :=
      Option.ne_none_iff_exists'.mp (mt submit_eq_ok_iff.mpr denied)
    exact step_execute_of_refused task answer
  case reserved => exact accounted.outstanding_eq
  case sent => exact queued
  case roomy => exact fun reserved task taken => consistent.isSome_trySend? workers taken task
  case manned => exact consistent.manned.trans (congrArg _ settings)
  case staffed =>
    intro settled
    exact ⟨accounted.active_of_settled settled, accounted.queue_of_settled settled⟩
  case counted =>
    show _ = session.pool.completed + session.pool.active + session.pool.queueSize
    rw [accounted.completed, accounted.active, queued]
    exact accounted.length_accepted
  case inOrder => exact accounted.inOrder
  case ranOnce => exact accounted.ranOnce
  case released =>
    intro place panicked inside
    have total := accounted.length_accepted
    have busy := accounted.active
    have left := consistent.finish (by omega)
    rw [step_ends (List.getElem?_eq_getElem inside)]
    refine ⟨?_, rfl, ?_⟩
    · have same : session.pool.finish.queueSize = session.pool.queueSize := by
        rw [left.queueSize_eq, queued, queue_finish]
      simp only [stats, same]
      rfl
    · simp only [outstanding, List.length_append, List.length_singleton]
      omega
  case closed => exact fun stopped steps => accepted_run stopped steps
  case awake => exact accounted.awake staffed
  case drained => exact accounted.ended_of_settled staffed
  case finished =>
    intro panics enough
    obtain ⟨same, left⟩ := accounted.run_turns staffed panics
    have final := accounted.run (turns panics)
    rw [← same]
    exact final.ended_of_outstanding staffed (left.trans (Nat.sub_eq_zero_of_le enough))

/-- With one worker and a queue for one, the third task is refused; the first one panics, and the
second one still runs once the pool is shut down.
-/
theorem accepted_tasks_delivered_after_panic
    : let config : PoolConfig := { coreSize := 1, maxQueueSize := 1 }
      let steps : List (Step Nat) :=
        [.execute 1, .pickUp, .execute 2, .execute 3, .ends 0 true, .shutdown, .execute 4, .pickUp,
          .ends 0 false]
      let session := (create "sample" config).run steps
      1 ≤ config.coreSize ∧ session.ended = [1, 2] ∧ session.pool.stats.rejected = 2
        ∧ session.Delivers config := by
  intro config steps session
  exact ⟨by decide, by decide, by decide,
    accepted_tasks_delivered "sample" config (by decide) steps⟩

end Session

end Breakwater.WorkerPool
