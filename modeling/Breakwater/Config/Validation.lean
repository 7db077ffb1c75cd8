import Breakwater.Config

/-!
Which settings are allowed. The rules are checked in a fixed order, and the first one that
is broken is reported.
-/

namespace Breakwater

/-- One rule on the settings. -/
structure ConfigRule where
  /-- Setting that the rule is about. -/
  key : String
  /-- Whether the settings keep the rule. -/
  holds : CommandConfig → Bool
  /-- What is wrong with settings that break it. -/
  problem : CommandConfig → String

namespace ConfigRule

/-- A rule that some number is positive. -/
def positive (key : String) (setting : CommandConfig → Nat) : ConfigRule where
  key := key
  holds config := setting config != 0
  problem _ := "must be greater than 0"

/-- A timeout that is switched on leaves the work some time. -/
def timeoutPositive : ConfigRule where
  key := "execution_timeout_ms"
  holds config := !config.timeoutEnabled || config.executionTimeout != 0
  problem _ := "must be greater than 0 when timeouts are enabled"

/-- The error threshold is at most a hundred percent. -/
def thresholdIsPercentage : ConfigRule where
  key := "circuit_breaker.error_threshold_percentage"
  holds config := config.breaker.errorThresholdPercentage ≤ 100
  problem config := s!"{config.breaker.errorThresholdPercentage} is not a percentage"

/-- The jitter factor is a share of the sleep window. -/
def jitterIsShare : ConfigRule where
  key := "circuit_breaker.jitter_factor"
  holds config := 0.0 ≤ config.breaker.jitterFactor && config.breaker.jitterFactor ≤ 1.0
  problem _ := "must be between 0.0 and 1.0"

/-- A circuit is not forced both ways. -/
def forcedOneWay : ConfigRule where
  key := "circuit_breaker.force_open"
  holds config := !(config.breaker.forceOpen && config.breaker.forceClosed)
  problem _ := "cannot be combined with force_closed"

/-- A pool that is used has a worker. -/
def poolHasWorker : ConfigRule where
  key := "thread_pool.core_size"
  holds config := config.isolation != .threadPool || config.pool.coreSize != 0
  problem _ := "must be greater than 0"

/-- The window is cut into slices of whole milliseconds. -/
def windowDivides : ConfigRule where
  key := "metrics.rolling_window_ms"
  holds config :=
    config.metrics.rollingWindow != 0
      && config.metrics.rollingWindow % config.metrics.sliceCount == 0
  problem config :=
    s!"{config.metrics.rollingWindow}ms does not divide into {config.metrics.sliceCount} buckets"

/-- The rules in the order in which they are checked. -/
def all : List ConfigRule := [
  positive "max_concurrent" (·.maxConcurrent),
  positive "fallback_max_concurrent" (·.fallbackMaxConcurrent),
  timeoutPositive,
  thresholdIsPercentage,
  jitterIsShare,
  forcedOneWay,
  poolHasWorker,
  positive "metrics.num_buckets" (·.metrics.sliceCount),
  windowDivides,
  positive "metrics.bus_capacity" (·.metrics.busCapacity)
]

end ConfigRule

namespace CommandConfig

/-- The first broken rule, if any. -/
def firstError? (config : CommandConfig) : Option ConfigError :=
  (ConfigRule.all.find? (fun rule => !rule.holds config)).map
    (fun rule => ⟨rule.key, rule.problem config⟩)

/-- Whether the settings are allowed. -/
def validate (config : CommandConfig) : Except ConfigError Unit :=
  match config.firstError? with
  | none => .ok ()
  | some error => .error error

/-- Settings are accepted exactly when they keep every rule. -/
theorem validate_eq_ok_iff {config : CommandConfig}
    : config.validate = .ok () ↔ ∀ rule ∈ ConfigRule.all, rule.holds config = true := by
  unfold validate firstError?
  cases found : ConfigRule.all.find? (fun rule => !rule.holds config) with
  | none =>
      have holds := List.find?_eq_none.mp found
      simp only [Option.map_none, true_iff]
      intro rule member
      simpa using holds rule member
  | some rule =>
      have broken := List.find?_some found
      have member := List.mem_of_find?_eq_some found
      simp only [Option.map_some, reduceCtorEq, false_iff]
      intro holds
      simp [holds rule member] at broken

end CommandConfig

end Breakwater
