import Breakwater.Proofs.Call.Refusals
import Breakwater.Proofs.Gateway.Circuit
import Breakwater.Proofs.Gateway.Tidy

/-! The pool's count of refusals against the records of the commands. Whatever the pool itself
refuses is counted once, though the record of a command tells of it only if nobody has claimed the
command before.
-/

namespace Breakwater.Gateway

variable {α : Type} {gateway before after start : Gateway α} {step : Step α}

/-- Commands whose record tells that the pool turned them away. -/
def poolRejections (gateway : Gateway α) : Nat :=
  gateway.dependency.commands.countP Command.isPoolRejected

/-- Whether something happens in a step to the command that it is about. -/
def happens (event : Call α → Step α → Bool) (gateway : Gateway α) (step : Step α) : Bool :=
  (step.command?.bind fun number =>
    gateway.dependency.commands[number]?.map fun command =>
      event ⟨gateway, number, command⟩ step).getD false

/-- At how many steps of a run something happens to the command that the step is about. -/
def occurrences (event : Call α → Step α → Bool) (start : Gateway α) : List (Step α) → Nat
  | [] => 0
  | first :: rest => (start.happens event first).toNat + occurrences event (start.step first) rest

theorem occurrences_snoc (event : Call α → Step α → Bool) (start : Gateway α)
    (steps : List (Step α)) (last : Step α)
    : start.occurrences event (steps ++ [last])
      = start.occurrences event steps + ((start.run steps).happens event last).toNat := by
  induction steps generalizing start with
  | nil => simp [occurrences]
  | cons first rest ih =>
      rw [List.cons_append, occurrences, occurrences, ih (start.step first), run_cons]
      omega

/-- Something that never happens in a run does not occur. -/
theorem occurrences_eq_zero {event : Call α → Step α → Bool} {steps : List (Step α)}
    (never : start.Throughout steps fun gateway step => gateway.happens event step = false)
    : start.occurrences event steps = 0 := by
  induction steps generalizing start with
  | nil => rfl
  | cons first rest ih =>
      obtain ⟨here, later⟩ := throughout_cons.mp never
      rw [occurrences, here, ih later]
      rfl

-----------------------------------------------------------------------------------------
-- Who can claim a command before the hand-over
-----------------------------------------------------------------------------------------

/-- Only their timeouts can claim commands that are about to be handed over. -/
def AwaitTimeouts (gateway : Gateway α) : Prop :=
  ∀ command ∈ gateway.dependency.commands, command.AwaitsTimeout

theorem Change.awaitTimeouts (change : Change before step after) (kempt : before.Kempt)
    (awaits : before.AwaitTimeouts) : after.AwaitTimeouts := by
  unfold AwaitTimeouts
  cases change with
  | moved dependency clock =>
      rw [dependency]
      exact awaits
  | quiet account clock lends =>
      rw [show after.dependency.commands = before.dependency.commands from
        congrArg Account.commands account]
      exact awaits
  | pumped asked clock account metrics loans =>
      rw [show after.dependency.commands = before.dependency.commands from
        congrArg Account.commands account]
      exact awaits
  | @created hasFallback asked clock account =>
      rw [show after.dependency.commands = before.dependency.commands ++ [.create hasFallback] from
        congrArg Account.commands account]
      intro command member
      rcases List.mem_append.mp member with member | new
      · exact awaits command member
      · obtain rfl : command = .create hasFallback := by simpa using new
        exact nofun
  | @taken number command outcome asked found ready clock account =>
      rw [show after.dependency.commands
          = before.dependency.commands.set number { command with completion := .consumed } from
        congrArg Account.commands account]
      intro other member
      rcases List.mem_or_eq_of_mem_set member with member | rfl
      · exact awaits other member
      · exact awaits command (List.mem_of_getElem? found)
  | @turned timer pool number command call found suffix op turn queues fixed stored draws fires =>
      rw [show after.dependency.commands = before.dependency.commands.set number call.command from
        stored ▸ Call.commands_store fixed]
      intro other member
      rcases List.mem_or_eq_of_mem_set member with member | rfl
      · exact awaits other member
      · exact op.awaitsTimeout (kempt.move found op) (kempt.orderly.stage found)
          (awaits command (List.mem_of_getElem? found))

-----------------------------------------------------------------------------------------
-- What a step adds to either count
-----------------------------------------------------------------------------------------

/-- What a step adds to the count of the pool goes into the record of a command, but for commands
that are turned away early or refused late.
-/
def Balance (before : Gateway α) (step : Step α) (after : Gateway α) : Prop :=
  after.dependency.refusals + before.poolRejections
      + (before.happens Call.isTurnedAwayEarly step).toNat
    = before.dependency.refusals + after.poolRejections
      + (before.happens Call.isRefusedLate step).toNat

theorem balance_of_same (refusals : after.dependency.refusals = before.dependency.refusals)
    (records : after.poolRejections = before.poolRejections)
    (early : before.happens Call.isTurnedAwayEarly step = false)
    (late : before.happens Call.isRefusedLate step = false) : before.Balance step after := by
  rw [Balance, refusals, records, early, late]

/-- A call adds to the records what it writes into that of its command. -/
theorem poolRejections_store {number : Nat} {command : Command α} {call : Call α}
    (found : before.dependency.commands[number]? = some command)
    (fixed : call.fixed = Call.fixed ⟨before, number, command⟩)
    : call.store.poolRejections + command.isPoolRejected.toNat
      = before.poolRejections + call.command.isPoolRejected.toNat := by
  have commands : call.store.dependency.commands
      = before.dependency.commands.set number call.command := Call.commands_store fixed
  obtain ⟨others, counted, written⟩ := countP_set_split found Command.isPoolRejected
  rw [poolRejections, poolRejections, commands, written, counted]
  omega

theorem happens_eq {number : Nat} {command : Command α} (event : Call α → Step α → Bool)
    (about : step.command? = some number)
    (found : before.dependency.commands[number]? = some command)
    : before.happens event step = event ⟨before, number, command⟩ step := by
  simp [happens, about, found]

theorem happens_of_absent {number : Nat} (event : Call α → Step α → Bool)
    (about : step.command? = some number) (absent : before.dependency.commands[number]? = none)
    : before.happens event step = false := by
  simp [happens, about, absent]

/-- What a call adds to either count is what its step adds. -/
theorem balance_call {number : Nat} {command : Command α} {call : Call α}
    (about : step.command? = some number)
    (found : before.dependency.commands[number]? = some command)
    (fixed : call.fixed = Call.fixed ⟨before, number, command⟩)
    (balance : Call.Balance ⟨before, number, command⟩ step call)
    : before.Balance step call.store := by
  have records := poolRejections_store found fixed
  rw [Balance, happens_eq _ about found, happens_eq _ about found]
  have total : call.dependency.refusals + command.isPoolRejected.toNat
        + (Call.isTurnedAwayEarly ⟨before, number, command⟩ step).toNat
      = before.dependency.refusals + call.command.isPoolRejected.toNat
        + (Call.isRefusedLate ⟨before, number, command⟩ step).toNat := balance
  show call.dependency.refusals + _ + _ = _
  omega

/-- A step that does not apply adds to neither count. -/
theorem balance_refl (early : before.happens Call.isTurnedAwayEarly step = false)
    (late : before.happens Call.isRefusedLate step = false) : before.Balance step before :=
  balance_of_same rfl rfl early late

/-- Nor does a step about a command that there is not. -/
theorem balance_absent {number : Nat} (about : step.command? = some number)
    (absent : before.dependency.commands[number]? = none) : before.Balance step before :=
  balance_refl (happens_of_absent _ about absent) (happens_of_absent _ about absent)

theorem balance_onCommand {number : Nat} {change : Call α → Call α}
    (about : step.command? = some number) (fixed : ∀ call, (change call).fixed = call.fixed)
    (balance
      : ∀ command, before.dependency.commands[number]? = some command
          → Call.Balance ⟨before, number, command⟩ step (change ⟨before, number, command⟩))
    : before.Balance step (before.onCommand number change) := by
  rw [onCommand]
  cases found : before.dependency.commands[number]? with
  | none => exact balance_absent about found
  | some command => exact balance_call about found (fixed _) (balance command found)

theorem balance_submit (orderly : before.dependency.account.Orderly) (number : Nat)
    : before.Balance (.submit number) (before.submit number).2 := by
  rw [submit]
  cases found : before.dependency.commands[number]? with
  | none => exact balance_absent rfl found
  | some command =>
      dsimp only
      split
      · rename_i notStarted
        have idle := (orderly.stage found).isIdle notStarted
        exact balance_call rfl found (Call.fixed_of_frame (Call.frame_submit _))
          (Call.submit_balance idle number)
      · rename_i started
        refine balance_refl ?_ ?_
        · rw [happens_eq _ rfl found]
          simp [Call.isTurnedAwayEarly, started]
        · rw [happens_eq _ rfl found]
          rfl

theorem refusals_of_picked {pool rest : WorkerPool Nat} {number : Nat}
    (picked : pool.pickUp? = some (number, rest)) : rest.rejected = pool.rejected := by
  obtain ⟨_, _, _, rfl⟩ := WorkerPool.pickUp?_eq_some picked
  rfl

/-- A call that only starts work adds to neither count. -/
theorem balance_pickUp : before.Balance .pickUp (before.step .pickUp) := by
  obtain none | ⟨pool, number, rest, held, picked, taken⟩ := pickUp_cases before
  · rw [none]
    exact balance_refl rfl rfl
  · let entered := before.mapDependency ({ · with pool := some rest })
    have refusals : entered.dependency.refusals = before.dependency.refusals := by
      simp [entered, Dependency.refusals, mapDependency, held, refusals_of_picked picked]
    rw [taken, onCommand]
    split
    · exact balance_of_same refusals rfl rfl rfl
    · rename_i command found
      have score := Call.score_startWork ⟨entered, number, command⟩ .worker
      have told
          : ((Call.mk entered number command).startWork .worker).command.isPoolRejected
            = command.isPoolRejected := congrArg Prod.snd score
      have fixed
          : ((Call.mk entered number command).startWork .worker).fixed
            = Call.fixed ⟨before, number, command⟩ :=
        (Call.fixed_of_frame (Call.frame_startWork _ _)).trans rfl
      have records := poolRejections_store found fixed
      rw [told] at records
      exact balance_of_same ((congrArg Prod.fst score).trans refusals)
        (Nat.add_right_cancel records) rfl rfl

theorem balance_timeoutFired (number : Nat)
    : before.Balance (.timeoutFired number) (before.timeoutFired number) := by
  rw [timeoutFired]
  cases found : before.dependency.commands[number]? with
  | none => exact balance_absent rfl found
  | some command =>
      dsimp only
      split
      · exact balance_refl (happens_eq _ rfl found) (happens_eq _ rfl found)
      · rename_i listener timer fired
        refine balance_call rfl found
          (Call.fixed_of_frame (Call.frame_timedOut ⟨{ before with timer }, number, command⟩)) ?_
        exact Call.balance_of_score (Call.score_timedOut _) rfl rfl

theorem balance_cancel (number : Nat)
    : before.Balance (.cancel number) (before.cancel number).2 := by
  rw [cancel]
  cases found : before.dependency.commands[number]? with
  | none => exact balance_absent rfl found
  | some command =>
      dsimp only
      split
      · exact balance_call rfl found (Call.fixed_of_frame (Call.frame_abandon _))
          (Call.balance_of_score (Call.score_abandon _) rfl rfl)
      · exact balance_refl (happens_eq _ rfl found) (happens_eq _ rfl found)

theorem balance_take (number : Nat) : before.Balance (.take number) (before.take number).2 := by
  rw [take]
  cases found : before.dependency.commands[number]? with
  | none => exact balance_absent rfl found
  | some command =>
      dsimp only
      split
      · exact balance_refl (happens_eq _ rfl found) (happens_eq _ rfl found)
      · exact balance_refl (happens_eq _ rfl found) (happens_eq _ rfl found)
      · exact balance_call rfl found rfl (Call.balance_of_score rfl rfl rfl)

/-- A step that is about no command adds to neither count. -/
theorem balance_aside (about : step.command? = none)
    (refusals : after.dependency.refusals = before.dependency.refusals)
    (commands : after.dependency.commands = before.dependency.commands)
    : before.Balance step after := by
  refine balance_of_same refusals ?_ ?_ ?_
  · rw [poolRejections, commands, poolRejections]
  · simp [happens, about]
  · simp [happens, about]

theorem balance_step (orderly : before.dependency.account.Orderly)
    (awaits : before.AwaitTimeouts) (step : Step α) : before.Balance step (before.step step) := by
  cases step with
  | create hasFallback =>
      refine balance_of_same rfl ?_ rfl rfl
      exact List.countP_append
  | submit number => exact balance_submit orderly number
  | handOff number =>
      refine balance_onCommand rfl Call.fixed_handOff fun command found => ?_
      have stage : command.Stage (Call.config ⟨before, number, command⟩).fallbackEnabled :=
        orderly.stage found
      exact Call.handOff_balance stage (awaits command (List.mem_of_getElem? found)) number
  | pickUp => exact balance_pickUp
  | workReturned number result =>
      exact balance_onCommand rfl (fun call => Call.fixed_of_frame (call.frame_workReturned result))
        fun command found => Call.balance_of_score (Call.score_workReturned _ result) rfl rfl
  | fallbackReturned number result =>
      exact balance_onCommand rfl
        (fun call => Call.fixed_of_frame (call.frame_fallbackReturned result))
        fun command found => Call.balance_of_score (Call.score_fallbackReturned _ result) rfl rfl
  | timeoutFired number => exact balance_timeoutFired number
  | cancel number => exact balance_cancel number
  | take number => exact balance_take number
  | askCircuit =>
      refine balance_aside rfl ?_ ?_
      · simp [Gateway.step, mapDependency, Dependency.refusals, Dependency.isCircuitOpen,
          Dependency.noteAll_eq]
      · exact congrArg Frame.commands (before.dependency.frame_isCircuitOpen before.clock.now)
  | acquireOutside bulkhead =>
      refine balance_aside rfl ?_ (congrArg Account.commands
        (before.dependency.account_acquireOutside bulkhead))
      show (before.dependency.acquireOutside bulkhead).2.refusals = _
      simp only [Dependency.acquireOutside]
      split
      · rfl
      · cases bulkhead <;> rfl
  | releaseOutside permit =>
      refine balance_aside rfl ?_ (congrArg Account.commands
        (before.dependency.account_releaseOutside permit))
      show (before.dependency.releaseOutside permit).refusals = _
      simp only [Dependency.releaseOutside]
      split
      · rfl
      · rename_i held found
        obtain ⟨bulkhead, permit⟩ := held
        cases bulkhead <;> rfl
  | shutdownPool =>
      refine balance_aside rfl ?_ (congrArg Account.commands before.dependency.account_shutdown)
      show (before.dependency.pool.map WorkerPool.shutdown |>.map (·.rejected)).getD 0 = _
      rw [Option.map_map]
      rfl
  | _ => exact balance_aside rfl rfl rfl

-----------------------------------------------------------------------------------------
-- Runs
-----------------------------------------------------------------------------------------

theorem awaitTimeouts_run (kempt : start.Kempt) (awaits : start.AwaitTimeouts)
    (steps : List (Step α)) : (start.run steps).AwaitTimeouts := by
  induction steps generalizing start with
  | nil => exact awaits
  | cons first rest ih =>
      exact ih (kempt_step kempt first)
        ((change_step kempt.orderly first).awaitTimeouts kempt awaits)

/-- What a run adds to the count of the pool goes into the records, but for commands that are turned
away early or refused late; by induction on the steps.
-/
theorem refusals_run (kempt : start.Kempt) (awaits : start.AwaitTimeouts) (steps : List (Step α))
    : (start.run steps).dependency.refusals + start.poolRejections
        + start.occurrences Call.isTurnedAwayEarly steps
      = start.dependency.refusals + (start.run steps).poolRejections
        + start.occurrences Call.isRefusedLate steps := by
  induction steps using run_induction with
  | nil => simp only [run_nil, occurrences]
  | snoc steps last ih =>
      have balance : Balance _ _ _ :=
        balance_step (kempt_run kempt steps).orderly (awaitTimeouts_run kempt awaits steps) last
      rw [Balance] at balance
      rw [run_snoc, occurrences_snoc, occurrences_snoc]
      omega

/-- A pool that was just built has refused nothing. -/
theorem JustBuilt.refusals (built : start.JustBuilt) : start.dependency.refusals = 0 := by
  obtain ⟨builder, assembled⟩ := built
  obtain ⟨_, _, same⟩ := DependencyBuilder.assemble_eq_ok assembled
  rw [same]
  simp only [Dependency.refusals, DependencyBuilder.freshPool]
  split <;> rfl

/-- The pool's count of refusals, against the commands whose record tells of one. -/
structure RefusalsCounted (start : Gateway α) (steps : List (Step α)) (pool : WorkerPool Nat)
    : Prop where
  /-- No refusal is counted but those that the records tell of, and those of commands that their
  timeout had claimed before the pool refused them. -/
  atMost
    : pool.rejected
      ≤ (start.run steps).poolRejections + start.occurrences Call.isRefusedLate steps
  /-- Each of these is counted, unless it was the command itself that found the queue too long. -/
  atLeast
    : (start.run steps).poolRejections + start.occurrences Call.isRefusedLate steps
      ≤ pool.rejected + start.occurrences Call.isTurnedAwayEarly steps
  /-- As long as no command is turned away before the pool is asked, the counts agree. -/
  exact
    : start.Throughout steps
        (fun gateway step => gateway.happens Call.isTurnedAwayEarly step = false)
      → pool.rejected
        = (start.run steps).poolRejections + start.occurrences Call.isRefusedLate steps

/-- The pool counts once what it refuses, whichever of its checks refuses it. -/
theorem pool_refusals_counted (built : start.JustBuilt) (steps : List (Step α))
    {pool : WorkerPool Nat} (held : (start.run steps).dependency.pool = some pool)
    : start.RefusalsCounted steps pool := by
  have kempt := kempt_of_justBuilt built
  have commands := built.commands
  have awaits : start.AwaitTimeouts := by
    rw [AwaitTimeouts, commands]
    rintro command ⟨⟩
  have total := refusals_run kempt awaits steps
  have none_yet : start.poolRejections = 0 := by
    rw [poolRejections, commands]
    rfl
  have fresh : start.dependency.refusals = 0 := built.refusals
  have counted : (start.run steps).dependency.refusals = pool.rejected := by
    simp [Dependency.refusals, held]
  rw [counted, none_yet, fresh] at total
  constructor
  case atMost => omega
  case atLeast => omega
  case exact =>
    intro never
    rw [occurrences_eq_zero never] at total
    omega

/-- A pool for one task without a queue refuses the second one, counts that, and the record of the
command tells of it.
-/
theorem pool_refusals_counted_saturated
    : let start : Gateway Nat :=
        ofBuilder
          { key := "sample", config := { isolation := .threadPool, pool := { coreSize := 1 } } } rfl
      let steps : List (Step Nat) :=
        [.create false, .submit 0, .handOff 0, .pickUp, .create false, .submit 1, .handOff 1]
      let pool : WorkerPool Nat :=
        { WorkerPool.create "sample" { coreSize := 1 } with
          idle := 0, outstanding := 1, active := 1, rejected := 1 }
      start.JustBuilt ∧ (start.run steps).dependency.pool = some pool
        ∧ (start.run steps).poolRejections = 1 ∧ start.RefusalsCounted steps pool := by
  intro start steps pool
  have built : start.JustBuilt := justBuilt_ofBuilder _ _
  have held : (start.run steps).dependency.pool = some pool := by decide +kernel
  exact ⟨built, held, by decide +kernel, pool_refusals_counted built steps held⟩

/-- The record of a command tells of a refusal that the pool has not counted, if the command was
turned away before the pool was asked; and the pool counts a refusal of which no record tells, if
the timeout had claimed the command before.
-/
theorem pool_refusals_differ_from_records
    : let start (queued : Bool) : Gateway Nat :=
        ofBuilder
          { key := "sample"
            config := {
              isolation := .threadPool
              pool := {
                coreSize := 1, maxQueueSize := if queued then 10 else 0
                queueRejectionThreshold := 1
              }
            } } (by cases queued <;> rfl)
      let busy : List (Step Nat) := [.create false, .submit 0, .handOff 0, .pickUp]
      let early := busy ++ [.create false, .submit 1, .handOff 1, .create false, .submit 2]
      let late :=
        busy
          ++ [.create false, .submit 1, .advance 1000, .timeoutFired 0, .timeoutFired 1, .handOff 1]
      (start true).JustBuilt ∧ (start false).JustBuilt
        ∧ ((start true).run early).dependency.pool.map (·.rejected) = some 0
        ∧ ((start true).run early).poolRejections = 1
        ∧ ((start false).run late).dependency.pool.map (·.rejected) = some 1
        ∧ ((start false).run late).poolRejections = 0 := by
  intro start busy early late
  exact ⟨justBuilt_ofBuilder _ _, justBuilt_ofBuilder _ _, by decide +kernel, by decide +kernel,
    by decide +kernel, by decide +kernel⟩

end Breakwater.Gateway
