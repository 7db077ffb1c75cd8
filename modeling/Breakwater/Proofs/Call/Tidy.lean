import Breakwater.Proofs.Call.Move

/-! What the parts of a command say of each other between two steps: which of them tells that its
work was started, that it holds a place, or that it is counted among those that run.
-/

namespace Breakwater

variable {α : Type}

/-- What holds of a command between two steps, at a dependency with or without a pool. -/
structure Command.Tidy (pooled : Bool) (command : Command α) : Prop where
  counted : command.gaugeHeld = (command.lifecycle == .userCodeExecuted)
  placed
    : command.permit.isSome
      = (!pooled && command.record.startedAt.isSome && !command.lifecycle.isOver)
  early
    : command.lifecycle.isEarly
      → command.record.occurred = false ∧ command.threadState = .notUsingThread
  admitted : command.record.occurred → command.record.startedAt.isSome
  executed : command.lifecycle = .userCodeExecuted → command.record.occurred
  hired : command.record.onWorker = (command.record.occurred && pooled)
  waits
    : command.work = .handingOff ∨ command.work = .queued
      → command.lifecycle ≠ .userCodeExecuted
        ∧ command.record.occurred = false
        ∧ command.record.startedAt.isSome
  turned : command.record.TurnedAway → command.record.occurred = false ∧ command.work = .over
  rescued : command.fallback.isRunning → command.lifecycle ≠ .terminal

theorem ExecutionRecord.not_turnedAway_empty : ¬ExecutionRecord.empty.TurnedAway := by
  rintro ⟨tag, _, carried⟩
  simp [Tally.contains, empty] at carried

namespace Command

theorem tidy_create (pooled hasFallback : Bool)
    : (create hasFallback : Command α).Tidy pooled where
  counted := rfl
  placed := by cases pooled <;> rfl
  early _ := ⟨rfl, rfl⟩
  admitted := nofun
  executed := nofun
  hired := rfl
  waits := nofun
  turned turned := absurd turned ExecutionRecord.not_turnedAway_empty
  rescued running := by cases hasFallback <;> cases running

variable {command : Command α} {pooled : Bool}

/-- Nobody counts a command whose work waits for a worker. -/
theorem Tidy.uncounted (tidy : command.Tidy pooled) (queued : command.work = .queued)
    : command.gaugeHeld = false := by
  rw [tidy.counted]
  exact beq_eq_false_iff_ne.mpr (tidy.waits (.inr queued)).1

end Command

namespace Call

variable {before after : Call α} {step : Gateway.Step α} {pooled : Bool}

theorem Keeps.tidy (keeps : Keeps before step after) (tidy : before.command.Tidy pooled)
    (rescued : after.command.fallback.isRunning → after.command.lifecycle ≠ .terminal)
    : after.command.Tidy pooled := by
  obtain ⟨startedAt, occurred, onWorker⟩ := ExecutionRecord.eq_of_origin keeps.origin
  have executed : (after.command.lifecycle == .userCodeExecuted)
      = (before.command.lifecycle == .userCodeExecuted) := keeps.asks (· == .userCodeExecuted) rfl
  constructor
  · rw [keeps.gauge, tidy.counted, executed]
  · rw [keeps.permit, tidy.placed, startedAt, keeps.asks Lifecycle.isOver rfl]
  · rw [keeps.asks Lifecycle.isEarly rfl, occurred, keeps.threadState]
    exact tidy.early
  · rw [occurred, startedAt]
    exact tidy.admitted
  · intro runs
    rw [occurred]
    refine tidy.executed (beq_iff_eq.mp ?_)
    rw [← executed, runs]
    rfl
  · rw [onWorker, occurred, tidy.hired]
  · intro waits
    have waited : before.command.work = .handingOff ∨ before.command.work = .queued := by
      rcases keeps.work with same | finished | ⟨handed, _⟩
      · rwa [same] at waits
      · rcases waits with waits | waits <;> rw [finished] at waits <;> cases waits
      · exact .inl handed
    obtain ⟨other, never, started⟩ := tidy.waits waited
    refine ⟨fun runs => other (beq_iff_eq.mp ?_), occurred.trans never, startedAt ▸ started⟩
    rw [← executed, runs]
    rfl
  · intro refused
    rw [occurred]
    rcases keeps.turned refused with turned | ⟨early, finished⟩
    · obtain ⟨never, finished⟩ := tidy.turned turned
      refine ⟨never, ?_⟩
      rcases keeps.work with same | done | ⟨handed, _⟩
      · exact same.trans finished
      · exact done
      · rw [finished] at handed
        cases handed
    · exact ⟨(tidy.early early).1, finished⟩
  · exact rescued

theorem Closes.tidy (closes : Closes before step after) (tidy : before.command.Tidy pooled)
    : after.command.Tidy pooled := by
  obtain ⟨startedAt, occurred, onWorker⟩ := ExecutionRecord.eq_of_origin closes.origin
  obtain ⟨other, late⟩ := Lifecycle.ne_of_isOver closes.isOver
  constructor
  · rw [closes.gauge]
    exact (beq_eq_false_iff_ne.mpr other).symm
  · rw [closes.permit, closes.isOver, Bool.not_true, Bool.and_false]
    rfl
  · intro early
    rw [late] at early
    cases early
  · rw [occurred, startedAt]
    exact tidy.admitted
  · exact fun runs => absurd runs other
  · rw [onWorker, occurred, tidy.hired]
  · intro waits
    rcases closes.work with same | finished
    · rw [same] at waits
      obtain ⟨_, never, started⟩ := tidy.waits waits
      exact ⟨other, occurred.trans never, startedAt ▸ started⟩
    · rcases waits with waits | waits <;> rw [finished] at waits <;> cases waits
  · intro refused
    rw [occurred]
    rcases closes.turned refused with turned | ⟨early, finished⟩
    · obtain ⟨never, finished⟩ := tidy.turned turned
      exact ⟨never, closes.work.elim (·.trans finished) id⟩
    · exact ⟨(tidy.early early).1, finished⟩
  · intro running terminal
    rcases closes.rescued with left | rests
    · rw [left] at terminal
      cases terminal
    · rw [rests] at running
      cases running

/-- Work that was started is accounted for by the record and the gauge. -/
theorem working_tidy {command : Command α} {now : Nat} {runner : Runner}
    (early : command.record.occurred = false ∧ command.threadState = .notUsingThread)
    (unhired : command.record.onWorker = false)
    (admitted : command.record.startedAt.isSome)
    (placed : command.permit.isSome = !pooled) (hired : pooled = (runner == .worker))
    (turned : ¬command.record.TurnedAway)
    : (command.working now runner).Tidy pooled := by
  have origin : (command.working now runner).record.origin
      = ⟨command.record.startedAt, true, pooled⟩ := by
    cases runner <;> simp_all [Command.working, ExecutionRecord.origin,
      ExecutionRecord.markOnWorker, ExecutionRecord.markOccurred]
  obtain ⟨startedAt, occurred, onWorker⟩ := Origin.mk.inj origin
  have tags : (command.working now runner).record.tags = command.record.tags := by
    simp only [Command.working]
    split <;> rfl
  constructor
  · rfl
  · rw [startedAt]
    show command.permit.isSome = _
    rw [placed, admitted]
    cases pooled <;> rfl
  · intro early
    cases early
  · rw [startedAt]
    exact fun _ => admitted
  · exact fun _ => occurred
  · rw [onWorker, occurred]
    rfl
  · rintro (waits | waits) <;> cases waits
  · intro refused
    unfold ExecutionRecord.TurnedAway at refused turned
    rw [tags] at refused
    exact absurd refused turned
  · intro _ terminal
    cases terminal

/-- A command that is admitted was not turned away before. -/
theorem Admits.fresh (admits : Admits before step after) (tidy : before.command.Tidy pooled)
    : ¬before.command.record.TurnedAway := by
  intro turned
  have finished := (tidy.turned turned).2
  rw [admits.ready] at finished
  cases finished

theorem Move.tidy (move : Move before step after) (tidy : before.command.Tidy pooled)
    (pool : before.dependency.pool.isSome = pooled) (hires : step = .pickUp → pooled = true)
    : after.command.Tidy pooled := by
  cases move with
  | rests keeps phase semaphore record =>
      refine keeps.tidy tidy fun running terminal => ?_
      rw [phase] at running
      rcases keeps.lifecycle with same | ⟨_, created⟩
      · exact tidy.rescued running (same.symm.trans terminal)
      · rw [created] at terminal
        cases terminal
  | parks admits some_pool command diary =>
      obtain ⟨never, idle⟩ := tidy.early (by rw [admits.notStarted]; rfl)
      rw [command]
      obtain rfl : pooled = true := pool.symm.trans some_pool
      constructor
      · rw [tidy.counted, admits.notStarted]
        rfl
      · exact tidy.placed
      · exact fun _ => ⟨never, idle⟩
      · exact fun _ => rfl
      · nofun
      · exact tidy.hired
      · exact fun _ => ⟨nofun, never, rfl⟩
      · exact fun turned => absurd turned (admits.fresh tidy)
      · exact fun _ => nofun
  | enters permit admits noPool command diary =>
      obtain ⟨never, idle⟩ := tidy.early (by rw [admits.notStarted]; rfl)
      obtain rfl : pooled = false := by rw [← pool, noPool]; rfl
      rw [command]
      refine working_tidy ⟨never, idle⟩ ?_ rfl rfl rfl (admits.fresh tidy)
      exact tidy.hired.trans (Bool.and_false _)
  | begins asked queued created inTime begins =>
      obtain rfl := hires asked
      obtain ⟨never, idle⟩ := tidy.early (by rw [created]; rfl)
      rw [begins.command]
      refine working_tidy ⟨never, idle⟩ ?_ (tidy.waits (.inr queued)).2.2 tidy.placed rfl ?_
      · rw [tidy.hired, never]
        rfl
      · intro turned
        have finished := (tidy.turned turned).2
        rw [queued] at finished
        cases finished
  | rescues running rescues =>
      refine rescues.toKeeps.tidy tidy fun _ terminal => ?_
      have active := rescues.active
      rw [terminal] at active
      cases active
  | ends running closes => exact closes.tidy tidy
  | late asked isOver running keeps share record =>
      refine keeps.tidy tidy fun _ terminal => ?_
      rcases keeps.lifecycle with same | ⟨_, created⟩
      · exact tidy.rescued running (same.symm.trans terminal)
      · rw [created] at terminal
        cases terminal

end Call

end Breakwater
