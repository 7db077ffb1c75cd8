import Breakwater.Proofs.Dependency.Built

/-! What the rules say of settings that are accepted, and that a dependency is built from exactly
those.
-/

namespace Breakwater

variable {α : Type}

/-- The numbers in some settings that have to be positive are, and the window of the metrics is cut
into equal slices of whole milliseconds.
-/
structure CommandConfig.Usable (config : CommandConfig) : Prop where
  maxConcurrent : 0 < config.maxConcurrent
  fallbackMaxConcurrent : 0 < config.fallbackMaxConcurrent
  patient : config.timeoutEnabled = true → 0 < config.executionTimeout
  staffed : config.isolation = .threadPool → 0 < config.pool.coreSize
  sliceCount : 0 < config.metrics.sliceCount
  rollingWindow : 0 < config.metrics.rollingWindow
  divides : config.metrics.sliceCount ∣ config.metrics.rollingWindow
  busCapacity : 0 < config.metrics.busCapacity

theorem CommandConfig.usable_of_accepted {config : CommandConfig}
    (accepted : config.validate = .ok ()) : config.Usable := by
  have rules := validate_eq_ok_iff.mp accepted
  have positive {key : String} {setting : CommandConfig → Nat}
      (listed : ConfigRule.positive key setting ∈ ConfigRule.all) : 0 < setting config := by
    have holds := rules _ listed
    simp only [ConfigRule.positive, bne_iff_ne, ne_eq] at holds
    exact Nat.pos_of_ne_zero holds
  have timeout := rules .timeoutPositive (by simp [ConfigRule.all])
  have pool := rules .poolHasWorker (by simp [ConfigRule.all])
  have window := rules .windowDivides (by simp [ConfigRule.all])
  simp only [ConfigRule.timeoutPositive, Bool.or_eq_true, Bool.not_eq_true', bne_iff_ne,
    ne_eq] at timeout
  simp only [ConfigRule.poolHasWorker, Bool.or_eq_true, bne_iff_ne, ne_eq] at pool
  simp only [ConfigRule.windowDivides, Bool.and_eq_true, bne_iff_ne, ne_eq, beq_iff_eq] at window
  constructor
  case maxConcurrent =>
    exact @positive "max_concurrent" (·.maxConcurrent) (by simp [ConfigRule.all])
  case fallbackMaxConcurrent =>
    exact @positive "fallback_max_concurrent" (·.fallbackMaxConcurrent) (by simp [ConfigRule.all])
  case patient =>
    intro enabled
    exact Nat.pos_of_ne_zero (timeout.resolve_left (by simp [enabled]))
  case staffed =>
    intro pooled
    exact Nat.pos_of_ne_zero (pool.resolve_left (not_not_intro pooled))
  case sliceCount =>
    exact @positive "metrics.num_buckets" (·.metrics.sliceCount) (by simp [ConfigRule.all])
  case rollingWindow => exact Nat.pos_of_ne_zero window.1
  case divides => exact Nat.dvd_of_mod_eq_zero window.2
  case busCapacity =>
    exact @positive "metrics.bus_capacity" (·.metrics.busCapacity) (by simp [ConfigRule.all])

/-- A dependency is built by putting together what the rules accept. -/
theorem DependencyBuilder.build_eq_ok_iff {builder : DependencyBuilder} {id timer now : Nat}
    {dependency : Dependency α}
    : builder.build id timer now = .ok dependency
      ↔ builder.config.validate = .ok () ∧ builder.assemble id timer now = .ok dependency := by
  constructor
  · intro built
    refine ⟨?_, assemble_of_build built⟩
    unfold build at built
    split at built
    · cases built
    · assumption
  · rintro ⟨accepted, assembled⟩
    simp only [build, accepted, assembled]

end Breakwater
