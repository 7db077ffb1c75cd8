import Breakwater.Error
import Breakwater.Text.Record
import Breakwater.Text.Shortest

/-!
Settings of a dependency: how its work is isolated, when its circuit trips, how its pool
is sized and how its metrics are sliced. Every setting has a default.
-/

namespace Breakwater

/-- When the circuit trips and how long it stays open. -/
structure BreakerConfig where
  enabled : Bool := true
  /-- Fewest requests in the window that let the error rate trip the circuit. -/
  volumeThreshold : Nat := 20
  errorThresholdPercentage : Nat := 50
  /-- Milliseconds before an open circuit admits a probe. -/
  sleepWindow : Nat := 5000
  /-- Share of the sleep window that a random draw may take off. -/
  jitterFactor : Float := 0.0
  forceOpen : Bool := false
  forceClosed : Bool := false
  resetHealthOnClose : Bool := true
  deriving Repr, BEq, Inhabited

/-- How many workers a pool has and how much may wait for them. -/
structure PoolConfig where
  coreSize : Nat := 10
  /-- Places in the queue; with none, work is handed straight to an idle worker. -/
  maxQueueSize : Nat := 0
  /-- Queue length at which work is refused even below the queue's capacity. -/
  queueRejectionThreshold : Nat := 5
  deriving Repr, BEq, DecidableEq, Inhabited

/-- How completions are counted. -/
structure MetricsConfig where
  /-- Milliseconds of the rolling window. -/
  rollingWindow : Nat := 1000
  /-- Slices that the window is cut into. -/
  sliceCount : Nat := 10
  /-- Events that each subscriber of the bus can have pending. -/
  busCapacity : Nat := 1024
  deriving Repr, BEq, DecidableEq, Inhabited

/-- Milliseconds of one slice. -/
def MetricsConfig.sliceDuration (config : MetricsConfig) : Nat :=
  config.rollingWindow / max config.sliceCount 1

/-- All settings of one dependency. -/
structure CommandConfig where
  isolation : Isolation := .semaphore
  /-- Permits for work that runs at once. -/
  maxConcurrent : Nat := 10
  /-- Permits for fallbacks that run at once. -/
  fallbackMaxConcurrent : Nat := 10
  /-- Milliseconds that an execution may take. -/
  executionTimeout : Nat := 1000
  timeoutEnabled : Bool := true
  fallbackEnabled : Bool := true
  breaker : BreakerConfig := {}
  pool : PoolConfig := {}
  metrics : MetricsConfig := {}
  deriving Repr, BEq, Inhabited

/-! ### Descriptions -/

/-- Name of an isolation in descriptions. -/
def Isolation.caseName : Isolation → String
  | semaphore => "Semaphore"
  | threadPool => "ThreadPool"

def BreakerConfig.describe (config : BreakerConfig) : String :=
  Text.record "CircuitBreakerConfig" [
    ("enabled", toString config.enabled),
    ("volume_threshold", toString config.volumeThreshold),
    ("error_threshold_percentage", toString config.errorThresholdPercentage),
    ("sleep_window_ms", toString config.sleepWindow),
    ("jitter_factor", Text.Shortest.ofFloat config.jitterFactor),
    ("force_open", toString config.forceOpen),
    ("force_closed", toString config.forceClosed),
    ("reset_health_on_close", toString config.resetHealthOnClose)
  ]

def PoolConfig.describe (config : PoolConfig) : String :=
  Text.record "ThreadPoolConfig" [
    ("core_size", toString config.coreSize),
    ("max_queue_size", toString config.maxQueueSize),
    ("queue_rejection_threshold", toString config.queueRejectionThreshold)
  ]

def MetricsConfig.describe (config : MetricsConfig) : String :=
  Text.record "MetricsConfig" [
    ("rolling_window_ms", toString config.rollingWindow),
    ("num_buckets", toString config.sliceCount),
    ("bus_capacity", toString config.busCapacity)
  ]

def CommandConfig.describe (config : CommandConfig) : String :=
  Text.record "CommandConfig" [
    ("isolation", config.isolation.caseName),
    ("max_concurrent", toString config.maxConcurrent),
    ("fallback_max_concurrent", toString config.fallbackMaxConcurrent),
    ("execution_timeout_ms", toString config.executionTimeout),
    ("timeout_enabled", toString config.timeoutEnabled),
    ("fallback_enabled", toString config.fallbackEnabled),
    ("circuit_breaker", config.breaker.describe),
    ("thread_pool", config.pool.describe),
    ("metrics", config.metrics.describe)
  ]

/-- The jitter factor in thousandths, rounded half away from zero. -/
def BreakerConfig.jitterPermille (config : BreakerConfig) : Int :=
  (config.jitterFactor * 1000.0).round.toInt64.toInt

end Breakwater
