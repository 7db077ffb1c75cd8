import Breakwater.WorkerPool

/-! A pool decides from two counters and sends to a bounded channel. Both agree as long as a place
is reserved for every task in the channel or at a worker; then a place that was reserved is always
used, and the decision depends on what waits and what runs alone.
-/

namespace Breakwater

/-- Whether a task that is sent now is taken. -/
def TaskChannel.takes {τ : Type} (channel : TaskChannel τ) : Bool :=
  channel.receivers != 0 && channel.tasks.length < channel.room

/-- The channel with one more task. -/
def TaskChannel.push {τ : Type} (channel : TaskChannel τ) (task : τ) : TaskChannel τ :=
  { channel with tasks := channel.tasks ++ [task] }

/-- Sending succeeds exactly as the channel takes tasks. -/
theorem TaskChannel.trySend?_eq {τ : Type} (channel : TaskChannel τ) (task : τ)
    : channel.trySend? task = if channel.takes then some (channel.push task) else none := by
  by_cases deserted : channel.receivers = 0
  · simp [trySend?, takes, deserted]
  · by_cases full : channel.room ≤ channel.tasks.length
    · simp [trySend?, takes, full, Nat.not_lt_of_le full]
    · simp [trySend?, takes, push, deserted, full, Nat.lt_of_not_le full]

/-- Sizes that fit are added as numbers are. -/
theorem PoolConfig.capacity_eq {config : PoolConfig}
    (fits : config.coreSize + config.maxQueueSize < sizeLimit)
    : config.capacity = config.coreSize + config.maxQueueSize :=
  Nat.mod_eq_of_lt fits

/-- A capacity that wraps is smaller than the sum, and one that does not is the sum. -/
theorem PoolConfig.capacity_le (config : PoolConfig)
    : config.capacity ≤ config.coreSize + config.maxQueueSize :=
  Nat.mod_le _ _

namespace WorkerPool

variable {τ : Type}

/-- Why the pool would refuse a task now, if it would. -/
def refusal? (pool : WorkerPool τ) : Option PoolRefusal :=
  if pool.isShutdown then some (.shutdown pool.name)
  else if !pool.isQueueSpaceAvailable then
    some (.queueThreshold pool.name pool.config.queueRejectionThreshold)
  else if pool.config.capacity ≤ pool.outstanding then some (.saturated pool.name)
  else if !pool.channel.takes then some (.shutdown pool.name)
  else none

/-- The pool with one more task, and a place reserved for it. -/
def take (pool : WorkerPool τ) (task : τ) : WorkerPool τ :=
  { pool with outstanding := pool.outstanding + 1, channel := pool.channel.push task }

/-- The pool whose worker has received its oldest task, with the others left to wait. -/
def engage (pool : WorkerPool τ) (others : List τ) : WorkerPool τ :=
  { pool with
    channel := { pool.channel with tasks := others }
    idle := pool.idle - 1
    active := pool.active + 1 }

/-- The pool with one more refusal counted. -/
def turnAway (pool : WorkerPool τ) : WorkerPool τ := { pool with rejected := pool.rejected + 1 }

section

variable {pool : WorkerPool τ} {task : τ}

@[simp]
theorem queue_take : (pool.take task).queue = pool.queue ++ [task] := rfl

@[simp]
theorem queue_engage {others : List τ} : (pool.engage others).queue = others := rfl

@[simp]
theorem queue_turnAway : pool.turnAway.queue = pool.queue := rfl

@[simp]
theorem rejected_turnAway : pool.turnAway.rejected = pool.rejected + 1 := rfl

@[simp]
theorem queue_finish : pool.finish.queue = pool.queue := rfl

@[simp]
theorem queue_shutdown : pool.shutdown.queue = pool.queue := rfl

/-- A task for which there is no reason to refuse it is taken. -/
theorem submit_of_taken (taken : pool.refusal? = none)
    : pool.submit task = (.ok (), pool.take task) := by
  simp only [refusal?] at taken
  split at taken
  · cases taken
  · rename_i up
    split at taken
    · cases taken
    · rename_i space
      split at taken
      · cases taken
      · rename_i place
        split at taken
        · cases taken
        · rename_i takes
          have reserved : pool.reserve? = some { pool with outstanding := pool.outstanding + 1 } :=
            if_pos (Nat.lt_of_not_le place)
          have sent : pool.channel.trySend? task = some (pool.channel.push task) := by
            rw [TaskChannel.trySend?_eq, if_pos (by simpa using takes)]
          simp only [submit, if_neg up, if_neg space, reserved, sent]
          rfl

/-- A refusal is counted. A place that was reserved before it is given back. -/
theorem submit_of_refused {refusal : PoolRefusal} (refused : pool.refusal? = some refusal)
    : pool.submit task = (.error refusal, pool.turnAway) := by
  simp only [refusal?] at refused
  split at refused
  · rename_i down
    cases refused
    simp only [submit, if_pos down]
    rfl
  · rename_i up
    split at refused
    · rename_i full
      cases refused
      simp only [submit, if_neg up, if_pos full]
      rfl
    · rename_i space
      split at refused
      · rename_i busy
        cases refused
        have unreserved : pool.reserve? = none := if_neg (Nat.not_lt_of_le busy)
        simp only [submit, if_neg up, if_neg space, unreserved]
        rfl
      · rename_i place
        split at refused
        · rename_i blocked
          cases refused
          have reserved
              : pool.reserve? = some { pool with outstanding := pool.outstanding + 1 } :=
            if_pos (Nat.lt_of_not_le place)
          have unsent : pool.channel.trySend? task = none := by
            rw [TaskChannel.trySend?_eq, if_neg (by simpa using blocked)]
          simp only [submit, if_neg up, if_neg space, reserved, unsent]
          rfl
        · cases refused

/-- A task is taken exactly if there is no reason to refuse it. -/
theorem submit_eq_ok_iff : (pool.submit task).1 = .ok () ↔ pool.refusal? = none := by
  cases answer : pool.refusal? with
  | none => simp [submit_of_taken answer]
  | some refusal => simp [submit_of_refused answer]

/-- A pool that takes a task has a place for it. -/
theorem outstanding_lt_of_taken (taken : pool.refusal? = none)
    : pool.outstanding < pool.config.capacity := by
  refine Nat.lt_of_not_le fun busy => ?_
  simp only [refusal?, if_pos busy] at taken
  split at taken
  · cases taken
  · split at taken <;> cases taken

/-- What an idle worker receives is the oldest task that waits. -/
theorem pickUp?_cases
    : (∃ task rest,
        pool.queue = task :: rest
        ∧ 0 < pool.idle
        ∧ pool.pickUp? = some (task, pool.engage rest))
      ∨ (pool.pickUp? = none ∧ (0 < pool.idle → pool.queue = [])) := by
  cases workers : pool.idle with
  | zero => exact .inr ⟨by simp [pickUp?, workers], nofun⟩
  | succ idle =>
      cases waiting : pool.channel.tasks with
      | nil =>
          refine .inr ⟨?_, fun _ => waiting⟩
          simp [pickUp?, workers, TaskChannel.receive?, waiting]
      | cons task rest =>
          refine .inl ⟨task, rest, waiting, Nat.succ_pos idle, ?_⟩
          simp [pickUp?, workers, TaskChannel.receive?, waiting, engage]

/-- A worker picks up the task at the head of the queue, if a worker is idle. -/
theorem pickUp?_eq_some {after : WorkerPool τ} (picked : pool.pickUp? = some (task, after))
    : ∃ rest, pool.queue = task :: rest ∧ 0 < pool.idle ∧ after = pool.engage rest := by
  rcases pool.pickUp?_cases with ⟨first, rest, waiting, idle, found⟩ | ⟨nothing, _⟩
  · cases found.symm.trans picked
    exact ⟨rest, waiting, idle, rfl⟩
  · cases nothing.symm.trans picked

end

-----------------------------------------------------------------------------------------
-- The counters and the channel
-----------------------------------------------------------------------------------------

/-- The counters of a pool agree with its channel and with its workers. -/
structure Consistent (pool : WorkerPool τ) : Prop where
  /-- Every worker waits or is at a task, and holds a receiving end; -/
  manned : pool.idle + pool.active = pool.config.coreSize
  received : pool.channel.receivers = pool.config.coreSize
  /-- there is one reserved place for every task that waits or runs, -/
  reserved : pool.outstanding = pool.active + pool.queue.length
  within : pool.outstanding ≤ pool.config.capacity
  /-- and the channel has room for as many tasks as there are places. -/
  roomy : pool.config.capacity ≤ pool.channel.room

namespace Consistent

variable {pool : WorkerPool τ} (consistent : pool.Consistent)
include consistent

/-- The difference of the counters is the number of tasks in the channel. -/
theorem queueSize_eq : pool.queueSize = pool.queue.length := by
  rw [queueSize, consistent.reserved, Nat.add_sub_cancel_left]

/-- A place is left in the channel for every task that a place was reserved for. -/
theorem takes (staffed : 1 ≤ pool.config.coreSize)
    (free : pool.outstanding < pool.config.capacity) : pool.channel.takes = true := by
  have someone : pool.channel.receivers ≠ 0 := by
    rw [consistent.received]
    exact Nat.one_le_iff_ne_zero.mp staffed
  have waiting : pool.channel.tasks.length ≤ pool.outstanding := by
    rw [consistent.reserved]
    exact Nat.le_add_left _ _
  have room : pool.channel.tasks.length < pool.channel.room :=
    Nat.lt_of_le_of_lt waiting (Nat.lt_of_lt_of_le free consistent.roomy)
  simp [TaskChannel.takes, someone, room]

/-- A reservation is never given back unused. -/
theorem isSome_trySend? (staffed : 1 ≤ pool.config.coreSize) {reserved : WorkerPool τ}
    (taken : pool.reserve? = some reserved) (task : τ)
    : (reserved.channel.trySend? task).isSome = true := by
  by_cases free : pool.outstanding < pool.config.capacity
  · rw [reserve?, if_pos free] at taken
    cases taken
    simp only [TaskChannel.trySend?_eq, if_pos (consistent.takes staffed free)]
    rfl
  · rw [reserve?, if_neg free] at taken
    cases taken

/-- A pool that has workers takes a task unless it is shut down, its queue has reached the
threshold or all places are taken.
-/
theorem refusal?_eq_none_iff (staffed : 1 ≤ pool.config.coreSize)
    : pool.refusal? = none
      ↔ pool.isShutdown = false
        ∧ (pool.config.maxQueueSize = 0
          ∨ pool.queue.length < pool.config.queueRejectionThreshold)
        ∧ pool.active + pool.queue.length < pool.config.capacity := by
  have space : pool.isQueueSpaceAvailable = true
      ↔ pool.config.maxQueueSize = 0
        ∨ pool.queue.length < pool.config.queueRejectionThreshold := by
    simp [isQueueSpaceAvailable, consistent.queueSize_eq]
  rw [← space, ← consistent.reserved]
  cases stopped : pool.isShutdown with
  | true => simp [refusal?, stopped]
  | false =>
      cases available : pool.isQueueSpaceAvailable with
      | false => simp [refusal?, stopped, available]
      | true =>
          by_cases free : pool.outstanding < pool.config.capacity
          · simp [refusal?, stopped, available, free, consistent.takes staffed free]
          · simp [refusal?, stopped, available, free, Nat.le_of_not_lt free]

/-- Taking a task keeps counters and channel in agreement. -/
theorem take (taken : pool.refusal? = none) (task : τ) : (pool.take task).Consistent where
  manned := consistent.manned
  received := consistent.received
  reserved := by
    show pool.outstanding + 1 = pool.active + (pool.queue ++ [task]).length
    rw [consistent.reserved, List.length_append, List.length_singleton, Nat.add_assoc]
  within := outstanding_lt_of_taken taken
  roomy := consistent.roomy

/-- Turning a task away rolls its reservation back, and keeps counters and channel in agreement. -/
theorem turnAway : pool.turnAway.Consistent :=
  ⟨consistent.manned, consistent.received, consistent.reserved, consistent.within,
    consistent.roomy⟩

/-- Shutting down keeps counters and channel in agreement. -/
theorem shutdown : pool.shutdown.Consistent :=
  ⟨consistent.manned, consistent.received, consistent.reserved, consistent.within,
    consistent.roomy⟩

/-- A worker that picks a task up keeps counters and channel in agreement. -/
theorem engage {task : τ} {others : List τ} (waiting : pool.queue = task :: others)
    (idle : 0 < pool.idle) : (pool.engage others).Consistent where
  manned := by
    show pool.idle - 1 + (pool.active + 1) = pool.config.coreSize
    rw [← consistent.manned]
    omega
  received := consistent.received
  reserved := by
    show pool.outstanding = pool.active + 1 + others.length
    rw [consistent.reserved, waiting, List.length_cons]
    omega
  within := consistent.within
  roomy := consistent.roomy

/-- A worker that ends its task gives its place back. -/
theorem finish (busy : pool.active ≠ 0) : pool.finish.Consistent where
  manned := by
    show pool.idle + 1 + (pool.active - 1) = pool.config.coreSize
    rw [← consistent.manned]
    omega
  received := consistent.received
  reserved := by
    show pool.outstanding - 1 = pool.active - 1 + pool.queue.length
    rw [consistent.reserved]
    omega
  within := Nat.le_trans (Nat.sub_le _ _) consistent.within
  roomy := consistent.roomy

end Consistent

/-- The counters and the channel of a new pool agree. -/
theorem consistent_create (name : String) (config : PoolConfig)
    : (create name config : WorkerPool τ).Consistent where
  manned := rfl
  received := rfl
  reserved := rfl
  within := Nat.zero_le _
  roomy := Nat.le_max_left _ _

end WorkerPool

end Breakwater
