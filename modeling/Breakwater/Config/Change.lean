import Breakwater.Config

/-!
Single settings to be changed, as a dependency's builder takes them one after the other.
-/

namespace Breakwater

/-- A change of the settings of a dependency. -/
inductive ConfigChange where
  | isolation (value : Isolation)
  | maxConcurrent (value : Nat)
  | fallbackMaxConcurrent (value : Nat)
  | executionTimeout (value : Nat)
  | timeoutEnabled (value : Bool)
  | fallbackEnabled (value : Bool)
  | circuitEnabled (value : Bool)
  | volumeThreshold (value : Nat)
  | errorThresholdPercentage (value : Nat)
  | sleepWindow (value : Nat)
  | jitterFactor (value : Float)
  | forceOpen (value : Bool)
  | forceClosed (value : Bool)
  | resetHealthOnClose (value : Bool)
  /-- Run the work on a pool with so many workers and places in the queue. -/
  | threadPool (coreSize maxQueueSize : Nat)
  | queueRejectionThreshold (value : Nat)
  /-- Length of the window and number of its slices. -/
  | rollingWindow (millis sliceCount : Nat)
  deriving Repr

namespace CommandConfig

/-- The settings after one change. -/
def change (config : CommandConfig) : ConfigChange → CommandConfig
  | .isolation value => { config with isolation := value }
  | .maxConcurrent value => { config with maxConcurrent := value }
  | .fallbackMaxConcurrent value => { config with fallbackMaxConcurrent := value }
  | .executionTimeout value => { config with executionTimeout := value }
  | .timeoutEnabled value => { config with timeoutEnabled := value }
  | .fallbackEnabled value => { config with fallbackEnabled := value }
  | .circuitEnabled value => { config with breaker := { config.breaker with enabled := value } }
  | .volumeThreshold value =>
      { config with breaker := { config.breaker with volumeThreshold := value } }
  | .errorThresholdPercentage value =>
      { config with breaker := { config.breaker with errorThresholdPercentage := value } }
  | .sleepWindow value => { config with breaker := { config.breaker with sleepWindow := value } }
  | .jitterFactor value => { config with breaker := { config.breaker with jitterFactor := value } }
  | .forceOpen value => { config with breaker := { config.breaker with forceOpen := value } }
  | .forceClosed value => { config with breaker := { config.breaker with forceClosed := value } }
  | .resetHealthOnClose value =>
      { config with breaker := { config.breaker with resetHealthOnClose := value } }
  | .threadPool coreSize maxQueueSize =>
      { config with
        isolation := .threadPool
        pool := { config.pool with coreSize, maxQueueSize } }
  | .queueRejectionThreshold value =>
      { config with pool := { config.pool with queueRejectionThreshold := value } }
  | .rollingWindow millis sliceCount =>
      { config with metrics := { config.metrics with rollingWindow := millis, sliceCount } }

/-- The settings after changes made in order. -/
def changeAll (config : CommandConfig) (changes : List ConfigChange) : CommandConfig :=
  changes.foldl change config

end CommandConfig

end Breakwater
