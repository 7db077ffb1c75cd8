import Breakwater.Proofs.Gateway.Probes

/-! No probe is forgotten: while the circuit is half open, a probe of the present open period is
still under way that nobody has claimed. Whatever ends a probe tells the circuit of it.
-/

namespace Breakwater

variable {α : Type}

-----------------------------------------------------------------------------------------
-- What makes a circuit wait for a probe
-----------------------------------------------------------------------------------------

namespace Switch

/-- A circuit that waits for a probe is open. -/
def Coherent (switch : Switch) : Prop := switch.probing = true → switch.opened = true

/-- What a circuit is told never makes it wait. -/
theorem coherent_told {switch : Switch} (coherent : switch.Coherent) (verdict : Option Verdict)
    : (switch.told verdict).Coherent := by
  intro waits
  cases opened : switch.opened with
  | true => rcases verdict with _ | _ | _ <;> simp_all [told]
  | false => rcases verdict with _ | _ | _ <;> simp_all [told, Coherent]

/-- A circuit that still waits for a probe was told nothing. -/
theorem Coherent.untold {switch : Switch} (coherent : switch.Coherent) {verdict : Option Verdict}
    (waits : (switch.told verdict).probing = true) : verdict = none := by
  cases opened : switch.opened with
  | true =>
      rcases verdict with _ | _ | _
      · rfl
      · simp [told, opened] at waits
      · simp [told, opened] at waits
  | false =>
      have waited : switch.probing = true := by
        rcases verdict with _ | _ | _ <;> simpa [told, opened] using waits
      rw [coherent waited] at opened
      cases opened

end Switch

namespace Breaker

variable {σ : Type} [HealthSource σ] {breaker : Breaker σ}

theorem coherent_isOpen (coherent : breaker.switch.Coherent) (now : Nat)
    : (breaker.isOpen now).2.1.switch.Coherent
      ∧ (breaker.isOpen now).2.1.probing = breaker.probing := by
  simp only [isOpen]
  split
  · exact ⟨coherent, rfl⟩
  · split
    · exact ⟨coherent, rfl⟩
    · exact ⟨fun _ => rfl, rfl⟩

theorem coherent_allowSingleTest (coherent : breaker.switch.Coherent) (now : Nat)
    : (breaker.allowSingleTest now).2.1.switch.Coherent
      ∧ ((breaker.allowSingleTest now).2.1.probing = true
          → breaker.probing = true ∨ (breaker.allowSingleTest now).1 = true) := by
  simp only [allowSingleTest]
  split
  · exact ⟨coherent, .inl⟩
  · rename_i opened
    split
    · exact ⟨coherent, .inl⟩
    · have still : breaker.opened = true := by simpa using opened
      exact ⟨fun _ => still, fun _ => .inr rfl⟩

/-- Whatever the settings, a request leaves the circuit waiting for a probe only if it waited
before or the request passes as a probe.
-/
theorem coherent_allowRequest (coherent : breaker.switch.Coherent) (now : Nat)
    : (breaker.allowRequest now).2.1.switch.Coherent
      ∧ ((breaker.allowRequest now).2.1.probing = true
          → breaker.probing = true ∨ breaker.admitsProbe now = true) := by
  obtain ⟨evaluated, unmoved⟩ := coherent_isOpen coherent now
  obtain ⟨tested, admitted⟩ := coherent_allowSingleTest evaluated now
  simp only [allowRequest, admitsProbe]
  split
  · exact ⟨coherent, .inl⟩
  · rename_i enabled
    split
    · exact ⟨coherent, .inl⟩
    · rename_i unforced
      split
      · exact ⟨evaluated, fun waits => .inl (unmoved ▸ waits)⟩
      · rename_i judged
        refine ⟨tested, fun waits => (admitted waits).imp (unmoved ▸ ·) ?_⟩
        intro passes
        simp only [Bool.not_eq_true, Bool.not_eq_false', Bool.or_eq_true, not_or]
          at enabled unforced judged
        simp [enabled, unforced, judged, passes]

theorem allowRequest_of_admitsProbe {now : Nat} (admits : breaker.admitsProbe now = true)
    : (breaker.allowRequest now).1 = true := by
  simp only [admitsProbe, Bool.and_eq_true, Bool.not_eq_true'] at admits
  obtain ⟨⟨⟨⟨enabled, notForcedOpen⟩, notForcedClosed⟩, isOpen⟩, passes⟩ := admits
  simp [allowRequest, enabled, notForcedOpen, notForcedClosed, isOpen, passes]

end Breaker

-----------------------------------------------------------------------------------------
-- Commands that nobody has claimed
-----------------------------------------------------------------------------------------

namespace Call

/-- A command for which there is a place is on its way once it was let pass. -/
theorem undecided_submit {call : Call α} (idle : call.command.Idle)
    (allowed : call.isAllowed = true) (place : call.dependency.hasPlace = true)
    : call.submit.command.Undecided := by
  have entering : call.asked.command.Entering := idle.entering call.now
  have room : call.asked.dependency.hasPlace = true := call.hasPlace_asked.trans place
  have submitted := call.submit_cases
  generalize call.submit = after at submitted ⊢
  cases submitted with
  | turnedAway denied => simp [allowed] at denied
  | atSemaphore _ noPool =>
      refine undecided_admitBySemaphore entering ?_
      have same : call.asked.dependency.pool = none :=
        (Dependency.pool_allowRequest _ _).trans noPool
      simpa [Dependency.hasPlace, same] using room
  | atPool pool _ held =>
      refine undecided_admitByPool entering ?_
      have same : call.asked.dependency.pool = some pool :=
        (Dependency.pool_allowRequest _ _).trans held
      simpa [Dependency.hasPlace, same] using room

/-- A step that works on a command that nobody has claimed leaves it so, or tells the circuit of
it.
-/
theorem Op.undecided {before after : Call α} {step : Gateway.Step α} (op : Op before step after)
    (undecided : before.command.Undecided) (coherent : before.switch.Coherent)
    (waits : after.switch.probing = true) : after.command.Undecided := by
  have unclaimed : before.command.timeout = .notExecuted := undecided.timeout
  have active := undecided.isActive
  -- A circuit that was told does not wait any more.
  have untold {verdict : Verdict} (told : after.pulse = before.pulse.told (some verdict))
      : False := by
    have moved : after.switch = before.switch.told (some verdict) := congrArg Pulse.switch told
    cases coherent.untold (moved ▸ waits)
  cases op with
  | submit notStarted => simp [notStarted, Lifecycle.isActive] at active
  | handOff =>
      have handed := before.handOff_cases
      generalize before.handOff = after at handed waits untold ⊢
      cases handed with
      | skipped => exact undecided
      | taken pool held work =>
          refine { undecided with place := .inl ⟨?_, .inr rfl⟩ }
          rcases undecided.place with ⟨created, _⟩ | ⟨_, _, _, running⟩
          · exact created
          · simp [running] at work
      | refused pool held work unclaimed =>
          exact (untold (by rw [pulse_reject, pulse_cancelTimer, pulse_mapCommand]; rfl)).elim
      | dropped pool held work claimed => exact absurd unclaimed claimed
  | pickUp queued =>
      have created : before.command.lifecycle = .chainCreated := by
        rcases undecided.place with ⟨created, _⟩ | ⟨_, _, _, running⟩
        · exact created
        · simp [running] at queued
      exact undecided_startWork .worker (undecided.entering created)
  | workReturned result =>
      have told := before.pulse_workReturned before.number result
      by_cases running : before.command.work.isRunning = true
      · simp only [verdict, running, unclaimed, and_self, if_true] at told
        exact (untold told).elim
      · rw [Call.workReturned]
        split
        · rename_i since runner work
          simp [work, WorkPhase.isRunning] at running
        · exact undecided
  | fallbackReturned result =>
      have unused := undecided.fallback
      rw [Call.fallbackReturned]
      split
      · rename_i cause runner phase
        simp [phase, FallbackPhase.isUnused] at unused
      · exact undecided
  | timeoutFired armed =>
      have told := before.pulse_timedOut
      rw [if_pos unclaimed] at told
      exact (untold told).elim
  | cancel active returned => exact (untold before.pulse_abandon).elim

end Call

-----------------------------------------------------------------------------------------
-- Steps
-----------------------------------------------------------------------------------------

namespace Gateway

variable {gateway : Gateway α} {known : List Nat}

/-- One of the given probes is under way, and nobody has claimed it. -/
def AwaitsProbe (gateway : Gateway α) (probes : List Nat) : Prop :=
  ∃ number ∈ probes, ∃ command,
    gateway.dependency.commands[number]? = some command ∧ command.Undecided

/-- Asking the circuit leaves it waiting for a probe only if it waited before or a probe passes. -/
theorem coherent_asked (coherent : gateway.dependency.circuit.switch.Coherent) (step : Step α)
    : (gateway.asked step).Coherent
      ∧ ((gateway.asked step).probing = true
          → gateway.dependency.circuit.probing = true ∨ (gateway.probe? step).isSome = true) := by
  unfold asked probe?
  cases asks : gateway.submits step with
  | true =>
      obtain ⟨allowed, waits⟩ := Breaker.coherent_allowRequest coherent gateway.clock.now
      have about : step.command?.isSome := by
        cases step <;> first | rfl | simp [submits] at asks
      rw [if_pos rfl, switch_allowRequest]
      refine ⟨allowed, fun probing => (waits probing).imp_right ?_⟩
      intro admits
      simpa [admits] using about
  | false =>
      rw [if_neg (by simp)]
      cases step with
      | askCircuit =>
          obtain ⟨evaluated, unmoved⟩ := Breaker.coherent_isOpen coherent gateway.clock.now
          dsimp only
          rw [switch_isCircuitOpen]
          exact ⟨evaluated, fun probing => .inl (unmoved ▸ probing)⟩
      | _ => exact ⟨coherent, .inl⟩

/-- A probe is a command that was not submitted before. -/
theorem submit_of_probe {step : Step α} {number : Nat} (probe : gateway.probe? step = some number)
    : ∃ command,
        gateway.dependency.commands[number]? = some command
        ∧ command.lifecycle = .notStarted
        ∧ step = .submit number
        ∧ gateway.dependency.circuit.admitsProbe gateway.clock.now = true := by
  simp only [probe?] at probe
  split at probe
  · rename_i admitted
    obtain ⟨submitted, admits⟩ := Bool.and_eq_true_iff.mp admitted
    cases step with
    | submit other =>
        obtain rfl : other = number := by simpa [Step.command?] using probe
        cases found : gateway.dependency.commands[other]? with
        | none => simp [submits, found] at submitted
        | some command =>
            have notStarted : command.lifecycle = .notStarted := by
              simpa [submits, found] using submitted
            exact ⟨command, rfl, notStarted, rfl, admits⟩
    | _ => simp [submits] at submitted
  · cases probe

/-- A probe that is admitted and of which the circuit is told nothing is under way. -/
theorem undecided_of_probe (orderly : gateway.dependency.account.Orderly) {step : Step α}
    {number : Nat} (probe : gateway.probe? step = some number)
    (untold : gateway.verdict step = none)
    : ∃ command,
        (gateway.step step).dependency.commands[number]? = some command ∧ command.Undecided := by
  obtain ⟨command, found, notStarted, rfl, admits⟩ := submit_of_probe probe
  have allowed : (gateway.dependency.allowRequest gateway.clock.now).1 = true :=
    Breaker.allowRequest_of_admitsProbe admits
  have place : gateway.dependency.hasPlace = true := by
    simpa [verdict, Step.command?, found, Call.verdict, notStarted, Call.dependency, Call.now,
      allowed] using untold
  let call : Call α := ⟨gateway, number, command⟩
  have stored : gateway.step (.submit number) = call.submit.store := by
    simp [step, submit, found, notStarted, call]
  have written : (gateway.step (.submit number)).dependency.commands
      = gateway.dependency.commands.set number call.submit.command := by
    rw [stored]
    exact congrArg Account.commands (Call.account_store (Call.fixed_of_frame call.frame_submit))
  have idle : call.command.Idle := (orderly.stage found).isIdle notStarted
  refine ⟨call.submit.command, ?_, Call.undecided_submit idle allowed place⟩
  rw [written, getElem?_set_of_found found, if_pos rfl]

/-- A command that nobody has claimed stays so while the circuit waits. -/
theorem undecided_step (orderly : gateway.dependency.account.Orderly)
    (coherent : gateway.dependency.circuit.switch.Coherent) {step : Step α}
    (waits : (gateway.step step).dependency.circuit.probing = true) {number : Nat}
    {command : Command α} (found : gateway.dependency.commands[number]? = some command)
    (undecided : command.Undecided)
    : ∃ command,
        (gateway.step step).dependency.commands[number]? = some command ∧ command.Undecided := by
  have fate := (change_step orderly step).fate number
  generalize gateway.step step = after at fate waits ⊢
  cases fate with
  | kept same => exact ⟨command, same.trans found, undecided⟩
  | created asked absent new =>
      rw [found] at absent
      cases absent
  | @taken owner asked there new ready =>
      obtain rfl : owner = command := Option.some.inj (there.symm.trans found)
      obtain ⟨outcome, ready⟩ := ready
      rw [undecided.completion] at ready
      cases ready
  | @turned timer pool owner call there op new stored =>
      obtain rfl : owner = command := Option.some.inj (there.symm.trans found)
      rw [stored] at waits
      exact ⟨call.command, new, op.undecided undecided coherent waits⟩

theorem coherent_step (coherent : gateway.dependency.circuit.switch.Coherent) (step : Step α)
    : (gateway.step step).dependency.circuit.switch.Coherent := by
  rw [switch_step]
  exact Switch.coherent_told (coherent_asked coherent step).1 _

/-- A step after which the circuit waits has left it a probe to wait for: the one that it admitted,
or the one that the circuit waited for.
-/
theorem awaitsProbe_step (orderly : gateway.dependency.account.Orderly)
    (coherent : gateway.dependency.circuit.switch.Coherent)
    (awaits : gateway.dependency.circuit.probing = true → gateway.AwaitsProbe known)
    (step : Step α) (waits : (gateway.step step).dependency.circuit.probing = true)
    : (gateway.step step).AwaitsProbe ((gateway.probe? step).toList ++ known) := by
  obtain ⟨askedCoherent, admitted⟩ := coherent_asked coherent step
  have moved := gateway.switch_step step
  have still : ((gateway.asked step).told (gateway.verdict step)).probing = true := moved ▸ waits
  have untold : gateway.verdict step = none := askedCoherent.untold still
  rw [untold] at still
  rcases admitted still with waited | isProbe
  · obtain ⟨number, listed, command, found, undecided⟩ := awaits waited
    obtain ⟨now, there, stays⟩ := undecided_step orderly coherent waits found undecided
    exact ⟨number, List.mem_append_right _ listed, now, there, stays⟩
  · obtain ⟨number, probe⟩ := Option.isSome_iff_exists.mp isProbe
    obtain ⟨command, found, undecided⟩ := undecided_of_probe orderly probe untold
    exact ⟨number, by simp [probe], command, found, undecided⟩

-----------------------------------------------------------------------------------------
-- Runs
-----------------------------------------------------------------------------------------

/-- While the circuit waits, a probe of the present open period is under way, by induction on the
steps.
-/
theorem awaitsProbe_run {start : Gateway α} (built : start.JustBuilt) (steps : List (Step α))
    : (start.run steps).dependency.circuit.switch.Coherent
      ∧ ((start.run steps).dependency.circuit.probing = true
          → (start.run steps).AwaitsProbe (start.probes steps)) := by
  have sound := sound_of_justBuilt built
  induction steps using run_induction with
  | nil =>
      have idle : start.dependency.circuit.probing = false := by
        obtain ⟨builder, assembled⟩ := built
        obtain ⟨_, _, same⟩ := DependencyBuilder.assemble_eq_ok assembled
        rw [same]
        rfl
      rw [run_nil]
      exact ⟨fun waits => absurd waits (by simp [Breaker.switch, idle]), by simp [idle]⟩
  | snoc steps last ih =>
      obtain ⟨coherent, awaits⟩ := ih
      have after := coherent_step coherent last
      rw [run_snoc]
      refine ⟨after, fun waits => ?_⟩
      have opened : ((start.run steps).step last).dependency.circuit.opened = true := after waits
      rw [probes_snoc, if_pos opened]
      exact awaitsProbe_step (sound_run sound steps).orderly coherent awaits last waits

/-- A circuit whose probes are all over is closed or open, whatever the settings: none of them has
left it half open, however it ended.
-/
theorem settled_of_probes_over {start : Gateway α} (built : start.JustBuilt)
    (steps : List (Step α))
    (finished
      : ∀ number ∈ start.probes steps,
          ((start.run steps).dependency.account.lifecycle number).isOver = true)
    : (start.run steps).dependency.circuit.state = .closed
      ∨ (start.run steps).dependency.circuit.state = .isOpen := by
  have idle : (start.run steps).dependency.circuit.probing = false := by
    cases waits : (start.run steps).dependency.circuit.probing with
    | false => rfl
    | true =>
        obtain ⟨number, listed, command, found, undecided⟩ := (awaitsProbe_run built steps).2 waits
        have active : ((start.run steps).dependency.account.lifecycle number).isOver = false := by
          rw [Account.lifecycle_of_get found]
          exact Lifecycle.isOver_of_isActive undecided.isActive
        rw [finished number listed] at active
        cases active
  simp only [Breaker.state, idle, Bool.false_eq_true, if_false]
  split
  · exact .inl rfl
  · exact .inr rfl

/-- A probe that is cancelled while it waits in the queue of the pool leaves the circuit open. -/
theorem settled_of_probes_over_cancelled
    : let start : Gateway Nat :=
        ofBuilder
          { key := "sample"
            config := {
              isolation := .threadPool
              breaker := { volumeThreshold := 1, errorThresholdPercentage := 50 }
              pool := { coreSize := 2, maxQueueSize := 10 } } } rfl
      let steps : List (Step Nat) :=
        [.create false, .submit 0, .handOff 0, .pickUp, .workReturned 0 (.error (.plain "down")),
          .advance 1000, .pump, .askCircuit, .advance 6000, .create false, .submit 1, .handOff 1,
          .cancel 1]
      start.JustBuilt ∧ start.probes steps = [1]
        ∧ ((start.run steps).dependency.circuit.state = .closed
          ∨ (start.run steps).dependency.circuit.state = .isOpen) := by
  intro start steps
  have built : start.JustBuilt := justBuilt_ofBuilder _ _
  have probes : start.probes steps = [1] := by decide +kernel
  have finished : ((start.run steps).dependency.account.lifecycle 1).isOver = true := by
    decide +kernel
  refine ⟨built, probes, settled_of_probes_over built steps ?_⟩
  intro number listed
  obtain rfl : number = 1 := by simpa [probes] using listed
  exact finished

end Gateway

end Breakwater
