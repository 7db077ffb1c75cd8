import Breakwater.Proofs.Call.Circuit

/-! What a command holds of its bulkhead: a place in the semaphore until it has ended, or a worker
of the pool until user code has left that.
-/

namespace Breakwater

variable {α : Type}

def WorkPhase.onWorker : WorkPhase → Bool
  | running _ .worker => true
  | _ => false

def FallbackPhase.onWorker : FallbackPhase → Bool
  | running _ .worker => true
  | _ => false

/-- Whether work waits to be run, or will not be run any more. -/
def WorkPhase.isAside : WorkPhase → Bool
  | .handingOff | .queued | .over => true
  | _ => false

/-- Work that nobody is at does not run. -/
theorem WorkPhase.not_isRunning_of_isAside {phase : WorkPhase} (aside : phase.isAside)
    : phase.isRunning = false := by
  cases phase with
  | running since runner => cases aside
  | _ => rfl

/-- Whether a step begins with a worker's taking a task. -/
def Gateway.Step.hires : Gateway.Step α → Bool
  | .pickUp => true
  | _ => false

/-- Whether a worker of the pool is inside user code of the command. -/
def Command.occupiesWorker (command : Command α) : Bool :=
  command.work.onWorker || command.fallback.onWorker

/-- The bulkheads as a command sees them: the semaphore with the place that the command holds in
it, and the workers.
-/
structure Hold where
  semaphore : Semaphore
  permit : Option Permit
  crew : Option Crew

namespace Hold

/-- The place was given back. -/
def left (hold : Hold) : Hold :=
  match hold.permit with
  | none => hold
  | some permit => { hold with semaphore := hold.semaphore.drop permit, permit := none }

/-- The place is kept, or given back at the end. -/
inductive Onward (ended : Bool) (before : Hold) : Hold → Prop
  | keeps : Onward ended before before
  | leaves (isOver : ended = true) : Onward ended before before.left

/-- The worker is kept, as long as the command occupies it. -/
inductive Relieved (before : Hold) : Bool → Bool → Hold → Prop
  | stays (busy : Bool) : Relieved before busy busy before
  | goes : Relieved before true false { before with crew := before.crew.map Crew.leave }

end Hold

namespace Call

variable (call : Call α)

def hold : Hold where
  semaphore := call.dependency.loans.semaphore
  permit := call.command.permit
  crew := call.dependency.loans.crew

/-- A change of the dependency that lends nothing out leaves what the command holds. -/
theorem hold_mapDependency {change : Dependency α → Dependency α}
    (same : (change call.dependency).loans = call.dependency.loans)
    : (call.mapDependency change).hold = call.hold := by
  simp only [hold, dependency_mapDependency, same, command_mapDependency]

/-- Cleaning up is to leave the bulkhead. -/
@[simp]
theorem hold_cleanup (threadState : ThreadState)
    : (call.cleanup threadState).hold = call.hold.left := by
  rw [hold, dependency_cleanup, command_cleanup, loans_closedDependency]
  cases held : call.command.permit <;>
    simp [hold, Hold.left, freedSemaphore, Command.cleaned, Dependency.loans, held]

/-- The circuit has no part in the bulkhead. -/
@[simp]
theorem hold_markSuccess (now : Nat)
    : (call.mapDependency (·.markSuccess now)).hold = call.hold :=
  call.hold_mapDependency (Dependency.loans_markSuccess _ _)

/-- Disarming a timeout gives no place back. -/
@[simp]
theorem hold_cancelTimer : call.cancelTimer.hold = call.hold := by
  rw [hold, dependency_cancelTimer, command_cancelTimer]
  rfl

/-- Beginning a command takes no place beyond the one it has. -/
@[simp]
theorem hold_beginInvocation : call.beginInvocation.hold = call.hold := by
  obtain ⟨timer, command⟩ := call.command_beginInvocation
  rw [hold, dependency_beginInvocation, command]
  rfl

-----------------------------------------------------------------------------------------
-- Steady pieces
-----------------------------------------------------------------------------------------

/-- A piece of a command's way in which its work stays where it is, and no fallback comes to be run
but by the given runner.
-/
structure Steady (runner : Runner) (before after : Call α) : Prop where
  work : after.command.work = before.command.work
  onward : before.hold.Onward after.command.lifecycle.isOver after.hold
  fallback
    : runner ≠ .worker → after.command.fallback.onWorker = before.command.fallback.onWorker

/-- An end gives the place back, and leaves the workers and what runs. -/
theorem finish_steady (runner : Runner) (outcome : Outcome α)
    : Steady runner call (call.finish outcome) := by
  refine ⟨call.work_finish outcome, ?_, fun _ => ?_⟩
  · simp only [finish]
    split
    · show call.hold.Onward _ (cleanup _ _).hold
      rw [hold_cleanup, command_mapCommand, command_cleanup]
      exact .leaves rfl
    · exact .keeps
  · rw [command_finish]
    split <;> rfl

/-- A fallback that is started takes the thread of whoever turned the command to it. -/
theorem failToFallback_steady (runner : Runner) (cause : CommandError)
    : Steady runner call (call.failToFallback runner cause) := by
  rw [failToFallback]
  dsimp only
  split
  · exact { finish_steady _ runner (.error cause) with }
  · split
    · rename_i ready
      have unused : call.command.fallback.onWorker = false := by
        rw [show call.command.fallback = .ready from ready]
        rfl
      split
      · refine ⟨rfl, .keeps, fun other => ?_⟩
        rw [unused]
        cases runner with
        | caller | timer => rfl
        | worker => exact absurd rfl other
      · obtain ⟨work, onward, fallback⟩ := finish_steady
          (((call.mapRecord (·.setCause cause.message)).mapCommand
            ({ · with fallback := .over })).mapRecord (·.addTag .fallbackRejection)) runner
          (.error (.fallbackRejected call.key cause))
        exact ⟨work, onward, fun other => (fallback other).trans unused.symm⟩
    · exact { finish_steady _ runner (.error cause) with }

/-- A command that is turned away holds no place to give back, and starts no work. -/
theorem reject_steady (runner : Runner) (isolation : Isolation)
    : Steady runner call (call.reject runner isolation) :=
  { failToFallback_steady _ runner _ with }

/-- A command that the circuit turns away starts no work. -/
theorem shortCircuit_steady : Steady .caller call call.shortCircuit :=
  { failToFallback_steady _ .caller _ with }

/-- What becomes of the work starts none. -/
theorem settle_steady (runner : Runner) (latency : Nat) (result : Except WorkError α)
    : Steady runner call (call.settle runner latency result) := by
  cases result with
  | ok value =>
      let tagged := call.mapRecord (·.addTimedTag latency .success)
      obtain ⟨work, onward, fallback⟩ :=
        finish_steady (tagged.mapDependency (·.markSuccess tagged.now)) runner (.ok value)
      rw [hold_markSuccess] at onward
      exact ⟨work, onward, fallback⟩
  | error error =>
      simp only [settle]
      split
      · exact { failToFallback_steady _ runner _ with }
      · exact { finish_steady _ runner _ with }

/-- A timeout ends the command around the work, which goes on. -/
theorem timedOut_steady : Steady .timer call call.timedOut := by
  simp only [timedOut]
  split
  · exact { failToFallback_steady _ .timer _ with }
  · exact ⟨rfl, .keeps, fun _ => rfl⟩

/-- A cancellation ends the command around the work, which goes on. -/
theorem abandon_steady : Steady .caller call call.abandon := by
  refine ⟨call.work_abandon, ?_, fun _ => ?_⟩
  · show call.hold.Onward _ (cleanup _ _).hold
    rw [hold_cleanup, abandon, command_mapCommand, command_cleanup]
    exact .leaves rfl
  · simp [abandon, Command.cleaned]

theorem isFallbackOnWorker_eq : call.isFallbackOnWorker = call.command.fallback.onWorker := rfl

/-- A worker that becomes idle is one more among the idle ones. -/
theorem hold_releaseWorker
    : call.releaseWorker.hold = { call.hold with crew := call.hold.crew.map Crew.leave } := by
  rw [hold, releaseWorker, dependency_mapDependency, Dependency.loans_finish]
  rfl

-----------------------------------------------------------------------------------------
-- Steps
-----------------------------------------------------------------------------------------

/-- What a step makes of what its command holds: the command enters the semaphore to run its work
on the caller's thread, a worker begins with the work, or the command goes on with less at most.
-/
inductive Effect (before : Call α) (step : Gateway.Step α) (after : Call α) : Prop
  | admitted {permit semaphore} (noPool : before.dependency.pool = none)
    (ready : before.command.work = .ready)
    (acquired : before.hold.semaphore.tryAcquire = some (permit, semaphore))
    (hold : after.hold = { before.hold with semaphore, permit := some permit })
    (work : ∃ since, after.command.work = .running since .caller)
    (fallback : after.command.fallback = before.command.fallback)
  | pickedUp (asked : step = .pickUp) (queued : before.command.work = .queued)
    (hold : after.hold = before.hold)
    (work : ∃ since, after.command.work = .running since .worker)
    (fallback : after.command.fallback = before.command.fallback)
  | goesOn {hold}
    (work : after.command.work = before.command.work ∨ after.command.work.isAside)
    (onward : before.hold.Onward after.command.lifecycle.isOver hold)
    (relieved
      : hold.Relieved (step.hires || before.command.occupiesWorker) after.command.occupiesWorker
          after.hold)
    (rescued : after.command.fallback.onWorker → after.command.work = .over)

/-- A steady piece is all that a step did, after it had put the work aside at most. -/
theorem Steady.effect {runner : Runner} {before middle after : Call α} {step : Gateway.Step α}
    (steady : Steady runner middle after) (other : runner ≠ .worker)
    (hold : middle.hold = before.hold)
    (work : middle.command.work = before.command.work ∨ middle.command.work.isAside)
    (busy
      : middle.command.occupiesWorker = (step.hires || before.command.occupiesWorker))
    (rescued : middle.command.fallback.onWorker → middle.command.work = .over)
    : Effect before step after := by
  have fallback := steady.fallback other
  have same : after.command.occupiesWorker = middle.command.occupiesWorker := by
    rw [Command.occupiesWorker, Command.occupiesWorker, steady.work, fallback]
  refine .goesOn ?_ (hold ▸ steady.onward) ?_ ?_
  · rw [steady.work]
    exact work
  · rw [← busy, same]
    exact .stays _
  · rw [steady.work, fallback]
    exact rescued

/-- A steady piece that ends the task of a worker, which is then set free. -/
theorem Steady.freed {runner : Runner} {before middle after : Call α} {step : Gateway.Step α}
    (steady : Steady runner middle after) (hold : middle.hold = before.hold)
    (work : middle.command.work = before.command.work ∨ middle.command.work = .over)
    (was : before.command.occupiesWorker = true) (free : after.command.occupiesWorker = false)
    (done : after.command.work = .over) : Effect before step after.releaseWorker := by
  refine .goesOn (work.imp steady.work.trans fun _ => ?_) (hold ▸ steady.onward) ?_ (fun _ => done)
  · rw [show after.releaseWorker.command.work = .over from done]
    rfl
  · show after.hold.Relieved _ after.command.occupiesWorker _
    rw [was, free, Bool.or_true, hold_releaseWorker]
    exact .goes

/-- A command to which nothing happens is steady. -/
theorem steady_refl (runner : Runner) : Steady runner call call :=
  ⟨rfl, .keeps, fun _ => rfl⟩

/-- A step that changes nothing. -/
theorem effect_refl {before : Call α} {step : Gateway.Step α} (hires : step.hires = false)
    (rescued : before.command.fallback.onWorker → before.command.work = .over)
    : Effect before step before :=
  (before.steady_refl .caller).effect (by decide) rfl (.inl rfl) (by rw [hires, Bool.false_or])
    rescued

/-- A fallback that was not started is on no worker. -/
theorem onWorker_of_isUnused {phase : FallbackPhase} (unused : phase.isUnused)
    : phase.onWorker = false := by
  cases phase with
  | running cause runner => cases unused
  | _ => rfl

/-- Asking the circuit takes no place. -/
theorem hold_asked : call.asked.hold = call.hold :=
  hold_mapDependency _ (Dependency.loans_allowRequest _ _)

/-- A command that finds a place in the semaphore runs its work on the caller's thread. -/
theorem admitBySemaphore_admits {permit : Permit} {semaphore : Semaphore}
    (entering : call.command.Entering)
    (acquired : call.hold.semaphore.tryAcquire = some (permit, semaphore))
    : call.admitBySemaphore.hold = { call.hold with semaphore, permit := some permit }
      ∧ (∃ since, call.admitBySemaphore.command.work = .running since .caller)
      ∧ call.admitBySemaphore.command.fallback = call.command.fallback := by
  let held := (call.mapDependency ({ · with semaphore })).mapCommand
    ({ · with permit := some permit })
  have admits : call.admitBySemaphore = held.beginInvocation.startWork .caller := by
    have free : call.dependency.semaphore.tryAcquire = some (permit, semaphore) := acquired
    simp only [admitBySemaphore, free]
    rfl
  have begun : held.beginInvocation.command.Entering :=
    entering_beginInvocation { entering with }
  obtain ⟨timer, command⟩ := held.command_beginInvocation
  obtain ⟨thread, record, started, _, loans, _⟩ :=
    held.beginInvocation.startWork_started .caller begun.lifecycle (by simp [begun.timeout])
  rw [admits]
  refine ⟨?_, ?_, ?_⟩
  · rw [hold, loans, started, dependency_beginInvocation, command]
    rfl
  · rw [started]
    exact ⟨_, rfl⟩
  · rw [started, command]
    rfl

/-- A submission takes a place in the semaphore, or none at a pool, where the command is parked. -/
theorem submit_effect {before : Call α} (idle : before.command.Idle)
    : Effect before (.submit before.number) before.submit := by
  have entering : before.asked.command.Entering := idle.entering before.now
  have fallback : before.command.fallback.onWorker = false := onWorker_of_isUnused idle.fallback
  have rests : before.command.occupiesWorker = false := by
    rw [Command.occupiesWorker, idle.work, fallback]
    rfl
  -- Whichever bulkhead turns the command away, its work is over by then.
  have turnedAway {after : Call α} (steady : Steady .caller before.asked after)
      : Effect before (.submit before.number) after :=
    steady.effect (by decide) before.hold_asked (.inr rfl) (rests ▸ fallback)
      (fun _ => rfl)
  have submitted := before.submit_cases
  generalize before.submit = after at submitted ⊢
  cases submitted with
  | turnedAway denied => exact turnedAway (shortCircuit_steady _)
  | atSemaphore allowed noPool =>
      cases place : before.asked.hold.semaphore.tryAcquire with
      | none =>
          have full : before.asked.dependency.semaphore.tryAcquire = none := place
          simp only [admitBySemaphore, full]
          exact turnedAway (reject_steady _ _ _)
      | some free =>
          obtain ⟨hold, work, same⟩ := before.asked.admitBySemaphore_admits entering place
          rw [hold_asked] at hold place
          exact .admitted noPool idle.work place hold work same
  | atPool pool allowed held =>
      simp only [admitByPool]
      split
      · obtain ⟨timer, command⟩ := before.asked.command_beginInvocation
        let parked := before.asked.mapCommand ({ · with work := .handingOff })
        have steady : Steady .caller parked
            (before.asked.beginInvocation.mapCommand ({ · with work := .handingOff })) := by
          refine ⟨rfl, ?_, fun _ => ?_⟩
          · show parked.hold.Onward _ (before.asked.beginInvocation.hold)
            rw [hold_beginInvocation]
            exact .keeps
          · rw [command_mapCommand, command]
            rfl
        exact steady.effect (by decide) before.hold_asked (.inr rfl) (rests ▸ fallback)
          (fun onWorker => absurd onWorker (Bool.eq_false_iff.mp fallback))
      · exact turnedAway (reject_steady _ _ _)

/-- The fallback of a command waits until its work is over, if it is to run on the same worker. -/
theorem not_onWorker {command : Command α}
    (rescued : command.fallback.onWorker → command.work = .over) (busy : command.work ≠ .over)
    : command.fallback.onWorker = false :=
  Bool.eq_false_iff.mpr fun onWorker => busy (rescued onWorker)

/-- A pool whose workers are the same lends out the same. -/
theorem hold_setPool {pool other : WorkerPool Nat} (held : call.dependency.pool = some pool)
    (crew : other.crew = pool.crew) : (call.setPool other).hold = call.hold := by
  refine hold_mapDependency _ ?_
  simp only [Dependency.loans, Dependency.crew, held, Option.map_some, crew]

/-- A hand-over takes no place: the task waits for a worker, or is not taken. -/
theorem handOff_effect {before : Call α}
    (rescued : before.command.fallback.onWorker → before.command.work = .over)
    : Effect before (.handOff before.number) before.handOff := by
  have handed := before.handOff_cases
  generalize before.handOff = after at handed ⊢
  cases handed with
  | skipped => exact effect_refl rfl rescued
  | taken pool held work =>
      have fallback := not_onWorker rescued (by simp [work])
      refine (steady_refl _ .caller).effect (by decide) (before.hold_setPool held rfl)
        (.inr rfl) ?_ (fun onWorker => absurd onWorker (Bool.eq_false_iff.mp fallback))
      simp [Command.occupiesWorker, WorkPhase.onWorker, setPool, work, Gateway.Step.hires]
  | refused pool held work unclaimed =>
      refine (reject_steady _ .caller .threadPool).effect (by decide) ?_ (.inr ?_) ?_ ?_
      · rw [hold_cancelTimer]
        exact before.hold_setPool held rfl
      · rw [command_cancelTimer]
        rfl
      · rw [command_cancelTimer]
        simp [Command.occupiesWorker, WorkPhase.onWorker, setPool, work, Gateway.Step.hires]
      · rw [command_cancelTimer]
        exact fun _ => rfl
  | dropped pool held work claimed =>
      refine (steady_refl _ .caller).effect (by decide) (before.hold_setPool held rfl)
        (.inr rfl) ?_ (fun _ => rfl)
      simp [Command.occupiesWorker, WorkPhase.onWorker, setPool, work, Gateway.Step.hires]

/-- A worker that comes to a command begins with the work, or finds it claimed and goes on. -/
theorem pickUp_effect {before : Call α} (queued : before.command.work = .queued)
    (rescued : before.command.fallback.onWorker → before.command.work = .over)
    : Effect before .pickUp (before.startWork .worker) := by
  have fallback := not_onWorker rescued (by simp [queued])
  by_cases starts : before.command.lifecycle = .chainCreated ∧ before.command.timeout ≠ .timedOut
  · obtain ⟨thread, record, started, _, loans, _⟩ :=
      before.startWork_started .worker starts.1 starts.2
    refine .pickedUp rfl queued ?_ ?_ ?_
    · rw [hold, loans, started]
      rfl
    · rw [started]
      exact ⟨_, rfl⟩
    · rw [started]
  · obtain ⟨skipped, loans, _⟩ := before.startWork_skipped .worker starts
    have held : (before.startWork .worker).hold
        = { before.hold with crew := before.hold.crew.map Crew.leave } := by
      rw [hold, loans, skipped]
      rfl
    refine .goesOn (.inr ?_) .keeps ?_ ?_
    · rw [skipped]
      rfl
    · rw [held, skipped]
      have free : ({ before.command with work := .over, gaugeHeld := false }
          : Command α).occupiesWorker = false := fallback
      rw [free]
      exact .goes
    · rw [skipped]
      exact fun _ => rfl

/-- The worker that ran the work runs the fallback too, or is set free. -/
theorem Steady.worked {before settled : Call α} {step : Gateway.Step α} {since : Nat}
    {runner : Runner}
    (steady : Steady runner (before.mapCommand ({ · with work := .over })) settled)
    (hires : step.hires = false) (work : before.command.work = .running since runner)
    : Effect before step
        (if runner = .worker ∧ !settled.isFallbackOnWorker then settled.releaseWorker
          else settled) := by
  have done : settled.command.work = .over := steady.work
  by_cases onWorker : runner = .worker
  · subst onWorker
    have was : before.command.occupiesWorker = true := by
      simp [Command.occupiesWorker, work, WorkPhase.onWorker]
    have is : settled.command.occupiesWorker = settled.command.fallback.onWorker := by
      rw [Command.occupiesWorker, done]
      rfl
    rw [isFallbackOnWorker_eq, ← is]
    cases busy : settled.command.occupiesWorker with
    | false =>
        rw [if_pos ⟨rfl, rfl⟩]
        exact steady.freed rfl (.inr rfl) was busy done
    | true =>
        rw [if_neg (by simp)]
        refine .goesOn (.inr ?_) steady.onward ?_ (fun _ => done)
        · rw [done]
          rfl
        · rw [hires, was, busy]
          exact .stays true
  · rw [if_neg (fun worker => onWorker worker.1)]
    refine steady.effect onWorker rfl (.inr rfl) ?_ (fun _ => rfl)
    have aside : before.command.work.onWorker = false := by
      cases runner with
      | caller | timer => rw [work]; rfl
      | worker => exact absurd rfl onWorker
    rw [Command.occupiesWorker, Command.occupiesWorker, aside, hires]
    rfl

/-- The return of the work gives the place or the worker back, unless a fallback keeps the worker.
-/
theorem workReturned_effect {before : Call α} (result : Except WorkError α)
    (rescued : before.command.fallback.onWorker → before.command.work = .over)
    : Effect before (.workReturned before.number result) (before.workReturned result) := by
  simp only [workReturned]
  split
  · rename_i since runner work
    let returned := before.mapCommand ({ · with work := .over })
    refine Steady.worked ?_ rfl work
    split
    · obtain ⟨work, onward, fallback⟩ := settle_steady
        (returned.mapCommand ({ · with timeout := .completed })).cancelTimer runner
        (before.now - since) result
      rw [hold_cancelTimer] at onward
      rw [command_cancelTimer] at work fallback
      exact ⟨work, onward, fallback⟩
    · exact returned.steady_refl runner
  · exact effect_refl rfl rescued

/-- The worker that ran the fallback is set free. -/
theorem Steady.fellBack {before finished : Call α} {step : Gateway.Step α} {cause : CommandError}
    {runner : Runner}
    (steady : Steady .caller (before.mapCommand ({ · with fallback := .over })) finished)
    (hires : step.hires = false) (phase : before.command.fallback = .running cause runner)
    (rescued : before.command.fallback.onWorker → before.command.work = .over)
    : Effect before step (if runner = .worker then finished.releaseWorker else finished) := by
  have idle : finished.command.fallback.onWorker = false := steady.fallback (by decide)
  by_cases onWorker : runner = .worker
  · subst onWorker
    have was : before.command.occupiesWorker = true := by
      simp [Command.occupiesWorker, phase, FallbackPhase.onWorker]
    have work : finished.command.work = .over :=
      steady.work.trans (rescued (by rw [phase]; rfl))
    have is : finished.command.occupiesWorker = false := by
      rw [Command.occupiesWorker, work, idle]
      rfl
    rw [if_pos rfl]
    exact steady.freed rfl (.inl rfl) was is work
  · rw [if_neg onWorker]
    refine steady.effect (by decide) rfl (.inl rfl) ?_ (by rintro ⟨⟩)
    have aside : before.command.fallback.onWorker = false := by
      cases runner with
      | caller | timer => rw [phase]; rfl
      | worker => exact absurd rfl onWorker
    rw [Command.occupiesWorker, Command.occupiesWorker, aside, hires]
    rfl

/-- The return of a fallback gives the worker back that it kept. -/
theorem fallbackReturned_effect {before : Call α} (result : Except WorkError α)
    (rescued : before.command.fallback.onWorker → before.command.work = .over)
    : Effect before (.fallbackReturned before.number result) (before.fallbackReturned result) := by
  simp only [fallbackReturned]
  split
  · rename_i cause runner phase
    have fellBack (finished : Call α)
        (steady : Steady .caller (before.mapCommand ({ · with fallback := .over })) finished)
        : Effect before (.fallbackReturned before.number result)
            (let released := finished.mapDependency fun dependency =>
                { dependency with
                  fallbackSemaphore := dependency.fallbackSemaphore.giveBack }
              if runner = .worker then released.releaseWorker else released) :=
      Steady.fellBack { steady with } rfl phase rescued
    refine fellBack _ ?_
    cases result with
    | ok value => exact { finish_steady _ .caller (.ok value) with }
    | error error => exact { finish_steady _ .caller (.error _) with }
  · exact effect_refl rfl rescued

/-- Every step has one of the listed effects on what its command holds. -/
theorem Op.effect {before after : Call α} {step : Gateway.Step α} (op : Op before step after)
    (stage : before.command.Stage before.config.fallbackEnabled)
    (rescued : before.command.fallback.onWorker → before.command.work = .over)
    : Effect before step after := by
  cases op with
  | submit notStarted => exact submit_effect (stage.isIdle notStarted)
  | handOff => exact handOff_effect rescued
  | pickUp queued => exact pickUp_effect queued rescued
  | workReturned result => exact workReturned_effect result rescued
  | fallbackReturned result => exact fallbackReturned_effect result rescued
  | timeoutFired armed =>
      exact before.timedOut_steady.effect (by decide) rfl (.inl rfl) rfl rescued
  | cancel active returned =>
      exact before.abandon_steady.effect (by decide) rfl (.inl rfl) rfl rescued

end Call

end Breakwater
