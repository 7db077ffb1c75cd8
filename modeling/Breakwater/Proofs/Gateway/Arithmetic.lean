import Mathlib.Data.List.Infix
import Breakwater.Proofs.Dependency.Accepted
import Breakwater.Proofs.Gateway.Counters
import Breakwater.Proofs.Stream.Arithmetic

/-! Settings that are accepted make a dependency whose parts all have a size, and whose slices never
divide by zero or count below it, whatever is run.
-/

namespace Breakwater

variable {α : Type}

-----------------------------------------------------------------------------------------
-- Construction
-----------------------------------------------------------------------------------------

/-- The length of a slice in checked steps. -/
def MetricsConfig.sliceDurationChecked (config : MetricsConfig) : Except ArithmeticFault Nat :=
  Checked.div config.rollingWindow (max config.sliceCount 1)

theorem MetricsConfig.sliceDurationChecked_eq (config : MetricsConfig)
    : config.sliceDurationChecked = .ok config.sliceDuration :=
  Checked.div_of_pos (Nat.lt_of_lt_of_le Nat.one_pos (Nat.le_max_right _ _))

/-- Slices of equal length make up the whole window. -/
theorem CommandConfig.Usable.sliceDuration {config : CommandConfig} (usable : config.Usable)
    : config.metrics.sliceDuration * config.metrics.sliceCount = config.metrics.rollingWindow
      ∧ 0 < config.metrics.sliceDuration := by
  have whole : config.metrics.sliceDuration * config.metrics.sliceCount
      = config.metrics.rollingWindow := by
    rw [MetricsConfig.sliceDuration, Nat.max_eq_left usable.sliceCount]
    exact Nat.div_mul_cancel usable.divides
  refine ⟨whole, Nat.pos_of_ne_zero fun none => ?_⟩
  rw [none, Nat.zero_mul] at whole
  exact absurd whole.symm (Nat.ne_of_gt usable.rollingWindow)

/-- The parts of a dependency that was built at some time all have a size, and the numbers that they
were built from are those of the settings, computed without a fault.
-/
structure Dependency.Sized (config : CommandConfig) (now : Nat) (dependency : Dependency α)
    : Prop where
  bus : 0 < dependency.metrics.bus.capacity
  sliceCount : 0 < dependency.metrics.slices.sliceCount
  duration : 0 < dependency.metrics.slices.duration
  healthWindow : 0 < dependency.metrics.health.size
  rollingWindow : 0 < dependency.metrics.rolling.size
  semaphore : 0 < dependency.semaphore.limit
  fallbackSemaphore : 0 < dependency.fallbackSemaphore.limit
  whole
    : dependency.metrics.slices.duration * dependency.metrics.slices.sliceCount
      = config.metrics.rollingWindow
  divides : Checked.rem config.metrics.rollingWindow config.metrics.sliceCount = .ok 0
  divided : config.metrics.sliceDurationChecked = .ok dependency.metrics.slices.duration
  opening
    : SliceStream.openingChecked completionSlices dependency.metrics.slices.sliceCount
          dependency.metrics.slices.duration now
        = .ok dependency.metrics.slices

/-- Settings that are accepted pass the checks of all parts. -/
theorem DependencyBuilder.build_of_accepted {builder : DependencyBuilder}
    (accepted : builder.config.validate = .ok ()) (id timer now : Nat)
    : ∃ dependency : Dependency α, builder.build id timer now = .ok dependency := by
  have usable := CommandConfig.usable_of_accepted accepted
  have created : ∃ metrics,
      Metrics.create builder.key builder.config.metrics now = .ok metrics := by
    simp only [Metrics.create, Bus.create, SliceStream.create, RollingWindow.create,
      Nat.ne_of_gt usable.busCapacity, Nat.ne_of_gt usable.sliceCount,
      Nat.ne_of_gt usable.sliceDuration.2, if_false]
    exact ⟨_, rfl⟩
  obtain ⟨metrics, created⟩ := created
  have assembled : ∃ dependency : Dependency α,
      builder.assemble id timer now = .ok dependency := by
    simp only [assemble, created, Semaphore.create, Nat.ne_of_gt usable.maxConcurrent,
      Nat.ne_of_gt usable.fallbackMaxConcurrent, if_false]
    exact ⟨_, rfl⟩
  obtain ⟨dependency, assembled⟩ := assembled
  exact ⟨dependency, build_eq_ok_iff.mpr ⟨accepted, assembled⟩⟩

theorem Dependency.sized_of_build {builder : DependencyBuilder} {id timer now : Nat}
    {dependency : Dependency α} (built : builder.build id timer now = .ok dependency)
    : dependency.Sized builder.config now := by
  obtain ⟨accepted, assembled⟩ := DependencyBuilder.build_eq_ok_iff.mp built
  have usable := CommandConfig.usable_of_accepted accepted
  obtain ⟨whole, positive⟩ := usable.sliceDuration
  obtain ⟨metrics, created, same⟩ := DependencyBuilder.assemble_eq_ok assembled
  have parts : dependency.metrics = metrics := by
    rw [same]
    rfl
  obtain ⟨_, _, _, measured⟩ := Metrics.create_eq_ok created
  rw [measured] at parts
  constructor
  case bus =>
    rw [parts]
    exact usable.busCapacity
  case sliceCount =>
    rw [parts]
    exact usable.sliceCount
  case duration =>
    rw [parts]
    exact positive
  case healthWindow =>
    rw [parts]
    exact usable.sliceCount
  case rollingWindow =>
    rw [parts]
    exact usable.sliceCount
  case semaphore =>
    rw [same]
    exact usable.maxConcurrent
  case fallbackSemaphore =>
    rw [same]
    exact usable.fallbackMaxConcurrent
  case whole =>
    rw [parts]
    exact whole
  case divides =>
    rw [Checked.rem_of_pos usable.sliceCount, Nat.mod_eq_zero_of_dvd usable.divides]
  case divided =>
    rw [parts]
    exact builder.config.metrics.sliceDurationChecked_eq
  case opening =>
    rw [parts]
    exact SliceStream.openingChecked_eq positive _ _

/-- A pump moves the slices on by the completions that wait. -/
theorem Metrics.slices_pump (metrics : Metrics) (now : Nat)
    : (metrics.pump now).2.slices
      = (metrics.slices.pump completionSlices (metrics.bus.pending metrics.source) now).1 :=
  congrArg Metrics.slices (Metrics.foldl_pushSlice _ _)

namespace Gateway

-----------------------------------------------------------------------------------------
-- The slices along a run
-----------------------------------------------------------------------------------------

/-- A pump moves the slices on by the completions that wait and by the present moment, and any other
step leaves them.
-/
theorem slices_step {before : Gateway α} (sound : before.Sound) (step : Step α)
    : (before.step step).dependency.metrics.slices = before.dependency.metrics.slices
      ∨ (before.step step).dependency.metrics.slices
        = (before.dependency.metrics.slices.pump completionSlices
            (before.dependency.metrics.bus.pending before.dependency.metrics.source)
            before.clock.now).1 := by
  by_cases asked : step = .pump
  · subst asked
    exact .inr (before.dependency.metrics.slices_pump before.clock.now)
  · exact .inl (congrArg Meters.slices ((change_step sound.orderly step).meters asked))

/-- A step publishes one completion at most, of the present moment, or drains what waits. -/
theorem bus_step {before : Gateway α} (sound : before.Sound) (step : Step α)
    : (before.step step).dependency.metrics.bus = before.dependency.metrics.bus
      ∨ (before.step step).dependency.metrics.bus
        = before.dependency.metrics.bus.setPending before.dependency.metrics.source []
      ∨ ∃ event : CompletionEvent,
          event.completedAt = before.clock.now
            ∧ (before.step step).dependency.metrics.bus
              = before.dependency.metrics.bus.publish event := by
  rcases (change_step sound.orderly step).told with same | ⟨asked, _⟩
    | ⟨number, event, stamped, told⟩
  · exact .inl (congrArg Ledger.bus same)
  · subst asked
    have account := before.dependency.account_pump before.clock.now
    exact .inr (.inl (congrArg (·.ledger.bus) account))
  · exact .inr (.inr ⟨event, stamped, congrArg Ledger.bus told⟩)

theorem duration_run {start : Gateway α} (sound : start.Sound)
    (positive : 0 < start.dependency.metrics.slices.duration) (steps : List (Step α))
    : (start.run steps).dependency.metrics.slices.duration
      = start.dependency.metrics.slices.duration := by
  induction steps using run_induction with
  | nil => rfl
  | snoc steps last ih =>
      rw [run_snoc]
      rcases slices_step (sound_run sound steps) last with same | pumped
      · rw [same, ih]
      · let stream := (start.run steps).dependency.metrics.slices
        let waiting := (start.run steps).dependency.metrics.bus.pending
          (start.run steps).dependency.metrics.source
        have some_length : 0 < stream.duration := ih ▸ positive
        have absorbed := (SliceStream.onward_absorbAll completionSlices some_length waiting).1
        have moved := (SliceStream.onward_pump completionSlices some_length waiting
          (start.run steps).clock.now).1
        rw [pumped, moved.duration, absorbed.duration, ih]

/-- The open slice ends within the words, and so do those of the completions that wait. -/
structure Readable (gateway : Gateway α) : Prop where
  within : gateway.dependency.metrics.slices.Within
  waiting
    : ∀ subscriber ∈ gateway.dependency.metrics.bus.subscribers,
        ∀ event ∈ subscriber.pending,
          SliceStream.Fits gateway.dependency.metrics.slices.duration event.completedAt

/-- Completions that wait for the slices. -/
theorem Readable.pending {gateway : Gateway α} (readable : gateway.Readable)
    : ∀ event ∈ gateway.dependency.metrics.bus.pending gateway.dependency.metrics.source,
        SliceStream.Fits gateway.dependency.metrics.slices.duration event.completedAt := by
  intro event member
  unfold Bus.pending at member
  split at member
  · rename_i subscriber found
    exact readable.waiting subscriber (List.mem_of_find?_eq_some found) event member
  · cases member

theorem Readable.step {gateway : Gateway α} (readable : gateway.Readable) (sound : gateway.Sound)
    (positive : 0 < gateway.dependency.metrics.slices.duration)
    (present : SliceStream.Fits gateway.dependency.metrics.slices.duration gateway.clock.now)
    (step : Step α) : (gateway.step step).Readable := by
  have duration : (gateway.step step).dependency.metrics.slices.duration
      = gateway.dependency.metrics.slices.duration := duration_run sound positive [step]
  constructor
  case within =>
    rcases slices_step sound step with same | pumped
    · rw [same]
      exact readable.within
    · rw [pumped]
      exact (readable.within.pump positive readable.pending present).2
  case waiting =>
    rw [duration]
    rcases bus_step sound step with same | drained | ⟨event, stamped, published⟩
    · rw [same]
      exact readable.waiting
    · rw [drained]
      intro subscriber member event queued
      obtain ⟨other, listed, rfl⟩ := List.mem_map.mp member
      split at queued
      · cases queued
      · exact readable.waiting other listed event queued
    · rw [published]
      intro subscriber member other queued
      obtain ⟨offered, listed, rfl⟩ := List.mem_map.mp member
      have known := readable.waiting offered (List.mem_filter.mp listed).1
      unfold Bus.offer at queued
      split at queued
      · rcases List.mem_append.mp queued with old | new
        · exact known other old
        · rw [List.mem_singleton.mp new, stamped]
          exact present
      · exact known other queued

-----------------------------------------------------------------------------------------
-- Arithmetic along a run
-----------------------------------------------------------------------------------------

/-- So far the clock has shown no moment whose slice ends beyond the words. -/
def InWords (start : Gateway α) (steps : List (Step α)) : Prop :=
  ∀ earlier, earlier <+: steps
    → SliceStream.Fits start.dependency.metrics.slices.duration (start.run earlier).clock.now

/-- What a pump would do to the slices now, in checked steps. -/
def pumpedSlices (gateway : Gateway α)
    : Except ArithmeticFault (SliceStream Tally × List Tally) :=
  gateway.dependency.metrics.slices.pumpChecked completionSlices
    (gateway.dependency.metrics.bus.pending gateway.dependency.metrics.source) gateway.clock.now

/-- How long a loop that pumps would sleep now, in checked steps. -/
def pause (gateway : Gateway α) : Except ArithmeticFault Nat :=
  gateway.dependency.metrics.slices.pauseChecked gateway.clock.now

/-- All that can go wrong with the slices now is that one of them ends beyond the words. -/
structure OnlyOverflows (gateway : Gateway α) : Prop where
  pump : ∀ fault, gateway.pumpedSlices = .error fault → fault = .beyondWord
  pause : ∀ fault, gateway.pause = .error fault → fault = .beyondWord

/-- Nothing can go wrong with the slices now: a pump does in checked steps what it does, and the
pause after it is a millisecond at least and a slice at most.
-/
structure Faultless (gateway : Gateway α) : Prop where
  pump
    : ∃ pumped,
        gateway.pumpedSlices = .ok pumped
          ∧ (gateway.step .pump).dependency.metrics.slices = pumped.1
          ∧ gateway.pump.1 = pumped.2.length
  pause
    : ∃ pause,
        gateway.pause = .ok pause ∧ 1 ≤ pause
          ∧ pause ≤ gateway.dependency.metrics.slices.duration

theorem onlyOverflows {gateway : Gateway α}
    (positive : 0 < gateway.dependency.metrics.slices.duration) : gateway.OnlyOverflows := by
  constructor
  case pump =>
    intro fault failed
    rcases SliceStream.pumpChecked_cases positive
        (gateway.dependency.metrics.bus.pending gateway.dependency.metrics.source)
        gateway.clock.now with done | beyond
    · cases done.symm.trans failed
    · cases beyond.symm.trans failed
      rfl
  case pause =>
    intro fault failed
    rcases SliceStream.pauseChecked_cases positive gateway.clock.now with done | ⟨beyond, _⟩
    · cases done.symm.trans failed
    · cases beyond.symm.trans failed
      rfl

theorem Readable.faultless {gateway : Gateway α} (readable : gateway.Readable)
    (positive : 0 < gateway.dependency.metrics.slices.duration)
    (present : SliceStream.Fits gateway.dependency.metrics.slices.duration gateway.clock.now)
    : gateway.Faultless where
  pump :=
    ⟨_, (readable.within.pump positive readable.pending present).1,
      gateway.dependency.metrics.slices_pump gateway.clock.now, rfl⟩
  pause := readable.within.pause positive gateway.clock.now

/-- What waits and what is open can be read as long as the clock could, by induction on the steps.
-/
theorem readable_run {start : Gateway α} (sound : start.Sound)
    (positive : 0 < start.dependency.metrics.slices.duration) (readable : start.Readable)
    {steps : List (Step α)} (inWords : start.InWords steps) : (start.run steps).Readable := by
  induction steps using run_induction with
  | nil => exact readable
  | snoc steps last ih =>
      have before : start.InWords steps := fun earlier shorter =>
        inWords earlier (shorter.trans (List.prefix_append _ _))
      have duration := duration_run sound positive steps
      rw [run_snoc]
      exact (ih before).step (sound_run sound steps) (duration ▸ positive)
        (duration ▸ before steps (List.prefix_refl _)) last

/-- A dependency that was just built has no completions waiting. -/
theorem readable_of_justBuilt {start : Gateway α} (built : start.JustBuilt)
    (present : SliceStream.Fits start.dependency.metrics.slices.duration start.clock.now)
    : start.Readable := by
  obtain ⟨_, _, _, same⟩ := Metrics.create_eq_ok (created_of_justBuilt built).1
  have slices := congrArg Metrics.slices same
  have bus := congrArg Metrics.bus same
  constructor
  case within =>
    rw [slices] at present ⊢
    exact SliceStream.within_opening _ present
  case waiting =>
    rw [bus]
    intro subscriber member event queued
    rw [List.mem_singleton.mp member] at queued
    cases queued

/-- Settings that are accepted make a dependency at any time: no part turns its size down, and the
slices make up the window. Whatever it runs then, its slices are never divided by zero or counted
below it, and the bounds of the pause between pumps are never the wrong way round; only a clock that
shows the last slice of its range makes their arithmetic fail at all, at its end. Arithmetic is
checked here as in a build that stops at an overflow. What the parts allocate, and the sum of the
two sizes of a pool, are not looked at.
-/
theorem accepted_settings_run {builder : DependencyBuilder}
    (accepted : builder.config.validate = .ok ()) (clock : Clock) (timer : Timer CommandRef)
    (id number : Nat)
    : ∃ dependency : Dependency α,
        builder.build id number clock.now = .ok dependency
          ∧ dependency.Sized builder.config clock.now
          ∧ ∀ steps : List (Step α),
              let start : Gateway α := ⟨clock, timer, dependency⟩
              (start.run steps).OnlyOverflows
                ∧ (start.InWords steps → (start.run steps).Faultless) := by
  obtain ⟨dependency, built⟩
      : ∃ dependency : Dependency α, builder.build id number clock.now = .ok dependency :=
    DependencyBuilder.build_of_accepted accepted id number clock.now
  have sized := Dependency.sized_of_build built
  refine ⟨dependency, built, sized, ?_⟩
  intro steps start
  have fresh : start.JustBuilt := by
    have assembled := DependencyBuilder.assemble_of_build built
    obtain ⟨_, _, same⟩ := DependencyBuilder.assemble_eq_ok assembled
    have places : dependency.id = id ∧ dependency.timer = number := by
      rw [same]
      exact ⟨rfl, rfl⟩
    rw [← places.1, ← places.2] at assembled
    exact ⟨builder, assembled⟩
  have sound := sound_of_justBuilt fresh
  have duration := duration_run sound sized.duration steps
  have positive : 0 < (start.run steps).dependency.metrics.slices.duration :=
    duration ▸ sized.duration
  refine ⟨onlyOverflows positive, fun inWords => ?_⟩
  have readable := readable_of_justBuilt fresh (inWords [] List.nil_prefix)
  exact (readable_run sound sized.duration readable inWords).faultless positive
    (duration ▸ inWords steps (List.prefix_refl _))

/-- Seven slices of a hundred milliseconds, with a success in the second one that was not pumped for
ten more. The pump hands on the first slice, the second, and blank ones up to a full window.
-/
theorem accepted_settings_run_success
    : let builder : DependencyBuilder :=
        { key := "sample", config := { metrics := { rollingWindow := 700, sliceCount := 7 } } }
      let start : Gateway Nat := ofBuilder builder (by simp only [builder]; rfl)
      let steps : List (Step Nat) :=
        [.create false, .submit 0, .advance 130, .workReturned 0 (.ok 7), .advance 1000]
      builder.config.validate = .ok ()
        ∧ start.dependency.Sized builder.config start.clock.now
        ∧ start.InWords steps ∧ (start.run steps).OnlyOverflows ∧ (start.run steps).Faultless
        ∧ (start.run steps).pump.1 = 9 ∧ (start.run steps).pause = .ok 1 := by
  intro builder start steps
  have accepted : builder.config.validate = .ok () :=
    CommandConfig.validate_eq_ok_iff.mpr (by decide +kernel)
  obtain ⟨dependency, built, sized, runs⟩ :=
    accepted_settings_run accepted start.clock start.timer start.dependency.id
      start.dependency.timer
  have expected : builder.build start.dependency.id start.dependency.timer start.clock.now
      = .ok start.dependency :=
    DependencyBuilder.build_eq_ok_iff.mpr ⟨accepted, assemble_ofBuilder builder _⟩
  obtain rfl : start.dependency = dependency := Except.ok.inj (expected.symm.trans built)
  have inWords : start.InWords steps := by
    intro earlier shorter
    have listed := (List.mem_inits _ _).mpr shorter
    simp only [steps, List.inits, List.map_cons, List.map_nil, List.mem_cons, List.not_mem_nil,
      or_false] at listed
    rcases listed with rfl | rfl | rfl | rfl | rfl | rfl <;> decide +kernel
  exact ⟨accepted, sized, inWords, (runs steps).1, (runs steps).2 inWords, by decide +kernel,
    by decide +kernel⟩

end Gateway

end Breakwater
