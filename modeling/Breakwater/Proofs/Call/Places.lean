import Breakwater.Proofs.Call.Bulkhead

/-! Places and workers are accounted for at every step of a command: what is taken is what others
have and what the command itself has, and a command that runs and has not ended has its share.
-/

namespace Breakwater

variable {α : Type}

/-- If there are workers, so many of them are at a task, and the rest of them are idle. -/
def Staffed (crew : Option Crew) (size busy : Nat) : Prop :=
  ∀ held, crew = some held → held.active = busy ∧ held.idle + busy = size

namespace Hold

variable {hold after : Hold} {limit size others : Nat}

/-- The places that are taken in the semaphore are those of others and the one that is held. -/
structure Counted (hold : Hold) (limit others : Nat) : Prop where
  limited : hold.semaphore.limit = limit
  acquired : hold.semaphore.acquired = others + hold.permit.isSome.toNat
  within : hold.semaphore.acquired ≤ limit
  unreleased : hold.permit ≠ some ⟨true⟩

/-- Who has left holds no permit. -/
theorem permit_left (hold : Hold) : hold.left.permit = none := by
  unfold left
  split
  · assumption
  · rfl

/-- Leaving the semaphore is nothing to the workers of a pool. -/
theorem crew_left (hold : Hold) : hold.left.crew = hold.crew := by
  unfold left
  split <;> rfl

/-- Who leaves is counted no more, by cases on whether a place was held. -/
theorem Counted.left (counted : hold.Counted limit others) : hold.left.Counted limit others := by
  obtain ⟨limited, acquired, within, unreleased⟩ := counted
  unfold Hold.left
  split
  · exact ⟨limited, acquired, within, unreleased⟩
  · rename_i permit held
    obtain ⟨released⟩ := permit
    cases released with
    | true => exact absurd held unreleased
    | false =>
        rw [held] at acquired
        refine ⟨limited, ?_, Nat.le_trans (Nat.sub_le _ _) within, nofun⟩
        show hold.semaphore.acquired - 1 = others
        rw [acquired]
        rfl

/-- Who enters is counted from then on. -/
theorem Counted.enters {permit : Permit} {semaphore : Semaphore}
    (counted : hold.Counted limit others) (free : hold.permit = none)
    (acquired : hold.semaphore.tryAcquire = some (permit, semaphore))
    : Counted { hold with semaphore, permit := some permit } limit others := by
  unfold Semaphore.tryAcquire at acquired
  split at acquired
  · rename_i room
    cases acquired
    have before := counted.acquired
    rw [free] at before
    refine ⟨counted.limited, congrArg (· + 1) before, ?_, nofun⟩
    exact counted.limited ▸ room
  · cases acquired

/-- Further on the way, places are held by as many as are counted. -/
theorem Onward.counted {ended : Bool} (onward : hold.Onward ended after)
    (counted : hold.Counted limit others) : after.Counted limit others := by
  cases onward with
  | keeps => exact counted
  | leaves isOver => exact counted.left

/-- Further on the way, the same workers are at their tasks. -/
theorem Onward.crew {ended : Bool} (onward : hold.Onward ended after)
    : after.crew = hold.crew := by
  cases onward with
  | keeps => rfl
  | leaves isOver => exact hold.crew_left

/-- A worker that is relieved is nothing to the semaphore. -/
theorem Relieved.counted {was is : Bool} (relieved : hold.Relieved was is after)
    (counted : hold.Counted limit others) : after.Counted limit others := by
  cases relieved with
  | stays busy => exact counted
  | goes => exact { counted with }

/-- A worker that is relieved is nothing to a permit. -/
theorem Relieved.permit {was is : Bool} (relieved : hold.Relieved was is after)
    : after.permit = hold.permit := by
  cases relieved with
  | stays busy => rfl
  | goes => rfl

/-- A worker that is relieved is counted among the idle ones. -/
theorem Relieved.staffed {was is : Bool} (relieved : hold.Relieved was is after)
    (staffed : Staffed hold.crew size (others + was.toNat))
    : Staffed after.crew size (others + is.toNat) := by
  cases relieved with
  | stays busy => exact staffed
  | goes =>
      intro crew left
      obtain ⟨before, held, rfl⟩ := Option.map_eq_some_iff.mp left
      obtain ⟨active, all⟩ := staffed before held
      refine ⟨?_, (Nat.add_right_comm _ _ _).trans all⟩
      show before.active - 1 = others
      rw [active]
      rfl

/-- Whether there are workers at all is fixed when the dependency is built. -/
theorem Relieved.isSome_crew {was is : Bool} (relieved : hold.Relieved was is after)
    : after.crew.isSome = hold.crew.isSome := by
  cases relieved with
  | stays busy => rfl
  | goes => exact Option.isSome_map

end Hold

/-- What holds of a command between two steps, at a dependency with or without a pool. -/
structure Command.Placed (pooled : Bool) (command : Command α) : Prop where
  spare : command.work = .ready → command.permit = none
  employed : command.work.isRunning → command.work.onWorker = pooled
  permitted
    : pooled = false → command.work.isRunning → command.lifecycle.isOver = false
      → command.permit.isSome
  rescued : command.fallback.onWorker → command.work = .over

/-- A new command is in no place. -/
theorem Command.placed_create (pooled hasFallback : Bool)
    : (Command.create hasFallback : Command α).Placed pooled := by
  constructor
  · exact fun _ => rfl
  · rintro ⟨⟩
  · rintro _ ⟨⟩
  · cases hasFallback <;> rintro ⟨⟩

namespace Call.Effect

variable {before after : Call α} {step : Gateway.Step α} {limit size others : Nat}

/-- An effect keeps the count of places in step with those who hold them, by cases on what it is. -/
theorem counted (effect : Effect before step after)
    (spare : before.command.work = .ready → before.command.permit = none)
    (counted : before.hold.Counted limit others) : after.hold.Counted limit others := by
  cases effect with
  | admitted noPool ready acquired hold work fallback =>
      rw [hold]
      exact counted.enters (spare ready) acquired
  | pickedUp asked queued hold work fallback =>
      rw [hold]
      exact counted
  | goesOn work onward relieved rescued => exact relieved.counted (onward.counted counted)

/-- An effect keeps the count of workers in step with those who are at a task, by cases on what it
is.
-/
theorem staffed (effect : Effect before step after)
    (staffed
      : Staffed before.hold.crew size
          (others + (step.hires || before.command.occupiesWorker).toNat))
    : Staffed after.hold.crew size (others + after.command.occupiesWorker.toNat) := by
  cases effect with
  | admitted noPool ready acquired hold work fallback =>
      intro crew held
      have none : before.hold.crew = none := by
        show before.dependency.pool.map WorkerPool.crew = none
        rw [noPool]
        rfl
      rw [hold, none] at held
      cases held
  | pickedUp asked queued hold work fallback =>
      obtain ⟨since, work⟩ := work
      have busy : after.command.occupiesWorker = true := by
        rw [Command.occupiesWorker, work]
        rfl
      rw [hold, busy]
      subst asked
      exact staffed
  | goesOn work onward relieved rescued => exact relieved.staffed (onward.crew ▸ staffed)

/-- An effect neither hires a crew nor dismisses it. -/
theorem isSome_crew (effect : Effect before step after)
    : after.hold.crew.isSome = before.hold.crew.isSome := by
  cases effect with
  | admitted noPool ready acquired hold work fallback => rw [hold]
  | pickedUp asked queued hold work fallback => rw [hold]
  | goesOn work onward relieved rescued => rw [relieved.isSome_crew, onward.crew]

/-- A permit is held only by a command that was submitted. -/
theorem spare (effect : Effect before step after)
    (spare : before.command.work = .ready → before.command.permit = none)
    : after.command.work = .ready → after.command.permit = none := by
  intro ready
  cases effect with
  | admitted noPool _ acquired hold work fallback =>
      obtain ⟨since, work⟩ := work
      simp [work] at ready
  | pickedUp asked queued hold work fallback =>
      obtain ⟨since, work⟩ := work
      simp [work] at ready
  | goesOn work onward relieved rescued =>
      rw [show after.command.permit = _ from relieved.permit]
      cases onward with
      | keeps =>
          rcases work with same | aside
          · exact spare (same ▸ ready)
          · simp [ready, WorkPhase.isAside] at aside
      | leaves isOver => exact Hold.permit_left _

/-- Work that runs was running before, or has just begun where the dependency lets it. -/
theorem work_of_isRunning {pooled : Bool} (effect : Effect before step after)
    (pool : before.dependency.pool.isSome = pooled) (hires : step = .pickUp → pooled = true)
    (running : after.command.work.isRunning)
    : after.command.work = before.command.work ∨ after.command.work.onWorker = pooled := by
  cases effect with
  | admitted noPool ready acquired hold work fallback =>
      obtain ⟨since, work⟩ := work
      rw [work, ← pool, noPool]
      exact .inr rfl
  | pickedUp asked queued hold work fallback =>
      obtain ⟨since, work⟩ := work
      rw [work, hires asked]
      exact .inr rfl
  | goesOn work onward relieved rescued =>
      rcases work with same | aside
      · exact .inl same
      · simp [WorkPhase.not_isRunning_of_isAside aside] at running

/-- Work that runs on the caller's thread has its place until the command has ended. -/
theorem permitted (effect : Effect before step after) (other : step ≠ .pickUp)
    (permitted : before.command.work.isRunning → before.command.permit.isSome)
    (running : after.command.work.isRunning) (goesOn : after.command.lifecycle.isOver = false)
    : after.command.permit.isSome := by
  cases effect with
  | admitted noPool ready acquired hold work fallback =>
      rw [show after.command.permit = some _ from congrArg Hold.permit hold]
      rfl
  | pickedUp asked queued hold work fallback => exact absurd asked other
  | goesOn work onward relieved rescued =>
      rw [show after.command.permit = _ from relieved.permit]
      cases onward with
      | keeps =>
          rcases work with same | aside
          · exact permitted (same ▸ running)
          · simp [WorkPhase.not_isRunning_of_isAside aside] at running
      | leaves isOver => simp [goesOn] at isOver

/-- A worker runs a fallback only once the work is over. -/
theorem rescued (effect : Effect before step after)
    (rescued : before.command.fallback.onWorker → before.command.work = .over)
    : after.command.fallback.onWorker → after.command.work = .over := by
  intro onWorker
  cases effect with
  | admitted noPool ready acquired hold work fallback =>
      simp [fallback, Call.not_onWorker rescued (by simp [ready])] at onWorker
  | pickedUp asked queued hold work fallback =>
      simp [fallback, Call.not_onWorker rescued (by simp [queued])] at onWorker
  | goesOn work onward relieved rescues => exact rescues onWorker

/-- An effect leaves the command in a place that its isolation has. -/
theorem placed {pooled : Bool} (effect : Effect before step after)
    (placed : before.command.Placed pooled) (pool : before.dependency.pool.isSome = pooled)
    (hires : step = .pickUp → pooled = true)
    (onwards : after.command.lifecycle.isOver = false → before.command.lifecycle.isOver = false)
    : after.command.Placed pooled where
  spare := effect.spare placed.spare
  employed running := by
    rcases effect.work_of_isRunning pool hires running with same | begun
    · rw [same] at running ⊢
      exact placed.employed running
    · exact begun
  permitted noPool running goesOn :=
    effect.permitted (fun asked => by simp [hires asked] at noPool)
      (fun was => placed.permitted noPool was (onwards goesOn)) running goesOn
  rescued := effect.rescued placed.rescued

end Call.Effect

end Breakwater
