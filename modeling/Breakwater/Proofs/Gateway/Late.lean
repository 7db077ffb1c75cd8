import Breakwater.Proofs.Gateway.Stories

/-! Work that comes too late. Once a command was claimed by its timeout or by a cancellation, all
that the return of its work does, or a worker that picks it up, is to leave the work and the worker.
-/

namespace Breakwater

variable {α : Type}

/-- A dependency with everything that surrounds it, but for what its pool is at, and the work of one
command.
-/
def Gateway.besides (gateway : Gateway α) (number : Nat) : Gateway α :=
  { gateway with dependency := { gateway.dependency with
      pool := none
      commands := gateway.dependency.commands.modify number ({ · with work := .over }) } }

/-- Its work was taken from a command: by the timeout, or by a cancellation. -/
def Command.IsTakenOver (command : Command α) : Prop :=
  command.timeout = .timedOut ∨ command.lifecycle = .unsubscribed

theorem Command.IsTakenOver.spent {command : Command α} (taken : command.IsTakenOver)
    : command.IsSpent := by
  rcases taken with timedOut | left
  · exact .inl timedOut
  · exact .inr (.inl (by rw [left]; rfl))

theorem modify_set_work {commands : List (Command α)} {number : Nat} {command : Command α}
    (found : commands[number]? = some command)
    : (commands.set number { command with work := .over }).modify number
          ({ · with work := .over })
        = commands.modify number ({ · with work := .over }) := by
  refine List.ext_getElem? fun other => ?_
  rw [List.getElem?_modify, List.getElem?_modify, getElem?_set_of_found found]
  by_cases own : other = number
  · subst own
    simp [found]
  · rw [if_neg own]

namespace Call

variable (call : Call α)

/-- A command that only leaves its work behind shows in nothing else. -/
theorem besides_store_over (found : call.dependency.commands[call.number]? = some call.command)
    : (call.mapCommand ({ · with work := .over })).store.besides call.number
      = call.gateway.besides call.number := by
  have same := modify_set_work found
  simp only [Gateway.besides, store, mapCommand, dependency] at same ⊢
  rw [same]

theorem besides_releaseWorker (number : Nat)
    : call.releaseWorker.store.besides number = call.store.besides number := rfl

/-- Work that returns to a command that was taken over leaves nothing but the command and its
worker.
-/
theorem besides_workReturned {fallbacks : Bool} (stage : call.command.Stage fallbacks)
    (found : call.dependency.commands[call.number]? = some call.command)
    (taken : call.command.IsTakenOver) (result : Except WorkError α)
    : (call.workReturned result).store.besides call.number
      = call.gateway.besides call.number := by
  cases work : call.command.work with
  | running since runner =>
      have claimed : call.command.timeout ≠ .notExecuted := by
        rcases taken with timedOut | left
        · rw [timedOut]
          exact nofun
        · exact (stage.isClosed (by rw [left]; rfl)).claimed (by rw [work]; exact nofun)
      rw [call.workReturned_late work claimed]
      split
      · rw [besides_releaseWorker]
        exact call.besides_store_over found
      · exact call.besides_store_over found
  | _ =>
      have unmoved : call.workReturned result = call := by simp only [workReturned, work]
      have unwritten : call.dependency.commands.set call.number call.command
          = call.dependency.commands := by
        obtain ⟨inside, same⟩ := List.getElem?_eq_some_iff.mp found
        rw [← same]
        exact List.set_getElem_self inside
      rw [unmoved, store, unwritten]
      rfl

/-- A worker leaves a command that was taken over at once. -/
theorem besides_startWork {pooled : Bool} (tidy : call.command.Tidy pooled)
    (found : call.dependency.commands[call.number]? = some call.command)
    (taken : call.command.IsTakenOver) (queued : call.command.work = .queued)
    : (call.startWork .worker).store.besides call.number = call.gateway.besides call.number := by
  have late : ¬(call.command.lifecycle = .chainCreated ∧ call.command.timeout ≠ .timedOut) := by
    rintro ⟨created, inTime⟩
    rcases taken with timedOut | left
    · exact inTime timedOut
    · rw [created] at left
      cases left
  rw [call.startWork_late late (tidy.uncounted queued), besides_releaseWorker]
  exact call.besides_store_over found

end Call

namespace Gateway

variable {gateway start : Gateway α} {number : Nat}

/-- A command that a worker picks up was waiting in the queue. -/
theorem queued_of_pickUp? (kempt : gateway.Kempt) {after : Gateway α}
    (picked : gateway.pickUp? = some (number, after))
    : ∃ pool command,
        gateway.dependency.commands[number]? = some command
          ∧ command.work = .queued
          ∧ after
            = (Call.startWork (gateway.entered gateway.timer pool number command)
              .worker).store := by
  obtain ⟨pool, held, picked⟩ := Option.bind_eq_some_iff.mp picked
  obtain ⟨⟨waiter, rest⟩, taken, picked⟩ := Option.bind_eq_some_iff.mp picked
  cases picked
  have waiting : number ∈ gateway.dependency.account.waiting := by
    show number ∈ gateway.dependency.waiting
    simp only [Dependency.waiting, held, Option.map_some, Option.getD_some, queue_of_picked taken]
    exact List.mem_cons_self
  obtain ⟨command, found, queued⟩ := kempt.orderly.queued number waiting
  have there
      : (gateway.mapDependency ({ · with pool := some rest })).dependency.commands[number]?
        = some command := found
  refine ⟨some rest, command, found, queued, ?_⟩
  rw [onCommand, there]
  rfl

/-- Whatever steps a dependency takes, in whatever order: the work of a command that its timeout or
a cancellation has taken over shows in nothing any more, neither when it returns nor when a worker
picks it up, and if it was waiting for a worker it is never started.
-/
theorem late_work_is_inert (built : start.JustBuilt) (steps : List (Step α)) {command : Command α}
    (found : (start.run steps).dependency.commands[number]? = some command)
    (taken : command.IsTakenOver)
    : (∀ result,
          ((start.run steps).step (.workReturned number result)).besides number
            = (start.run steps).besides number)
      ∧ (∀ after, (start.run steps).pickUp? = some (number, after)
          → after.besides number = (start.run steps).besides number)
      ∧ (command.work = .handingOff ∨ command.work = .queued
          → ∀ later, (start.run (steps ++ later)).dependency.starts number = 0) := by
  have kempt := kempt_run (kempt_of_justBuilt built) steps
  have tidy := kempt.tidy.of_found found
  refine ⟨fun result => ?_, fun after picked => ?_, fun waits later => ?_⟩
  · simp only [Gateway.step, workReturned, onCommand, found]
    let call : Call α := ⟨start.run steps, number, command⟩
    have stage : call.command.Stage _ := kempt.orderly.stage found
    exact call.besides_workReturned stage found taken result
  · obtain ⟨pool, same, there, queued, rfl⟩ := queued_of_pickUp? kempt picked
    obtain rfl := Option.some.inj (found.symm.trans there)
    let call : Call α := (start.run steps).entered (start.run steps).timer pool number command
    exact call.besides_startWork tidy found taken queued
  · rw [starts_of_spent built steps found taken.spent later,
      (chronicled_run built steps).starts found, (tidy.waits waits).2.1]
    rfl

/-- Of two commands at a pool of one worker, the first times out while its work is running, and the
second is cancelled while it waits for the worker.
-/
theorem late_work_is_inert_pooled
    : let start : Gateway Nat :=
        ofBuilder
          { key := "sample"
            config := {
              isolation := .threadPool
              pool := { coreSize := 1, maxQueueSize := 10 }
            } } rfl
      let running : List (Step Nat) :=
        [.create false, .submit 0, .handOff 0, .pickUp, .create false, .submit 1, .handOff 1,
          .advance 1000, .timeoutFired 0, .cancel 1]
      let returned := running ++ [.workReturned 0 (.ok 7)]
      start.JustBuilt
        ∧ ((start.run running).step (.workReturned 0 (.ok 7))).besides 0
          = (start.run running).besides 0
        ∧ (start.run returned).pickUp?.map (·.1) = some 1
        ∧ (∀ after, (start.run returned).pickUp? = some (1, after)
            → after.besides 1 = (start.run returned).besides 1)
        ∧ ∀ later, (start.run (returned ++ later)).dependency.starts 1 = 0 := by
  intro start running returned
  have built : start.JustBuilt := justBuilt_ofBuilder _ _
  have timedOut
      : (start.run running).dependency.commands[0]?.map (·.timeout) = some .timedOut := by
    decide +kernel
  have left
      : (start.run returned).dependency.commands[1]?.map (fun command =>
          (command.lifecycle, command.work)) = some (.unsubscribed, .queued) := by
    decide +kernel
  obtain ⟨first, found, late⟩ := Option.map_eq_some_iff.mp timedOut
  obtain ⟨second, there, waits⟩ := Option.map_eq_some_iff.mp left
  obtain ⟨gone, queued⟩ := Prod.mk.inj waits
  obtain ⟨returns, _, _⟩ := late_work_is_inert built running found (.inl late)
  obtain ⟨_, skipped, unstarted⟩ := late_work_is_inert built returned there (.inr gone)
  exact ⟨built, returns (.ok 7), by decide +kernel, skipped, unstarted (.inr queued)⟩

end Gateway

end Breakwater
