import Breakwater.Config

/-!
Reading settings from a tree of named values. A setting that is absent keeps its default and
an unknown one is passed over, but a value of the wrong kind or out of range is refused.
-/

namespace Breakwater

/-- A value in a tree of settings. -/
inductive Setting where
  | absent
  | flag (value : Bool)
  | whole (value : Int)
  | decimal (value : Float)
  | text (value : String)
  | sequence (values : List Setting)
  | group (fields : List (String × Setting))
  deriving Inhabited

namespace Setting

/-- The setting under a key; where there is none, it is absent. -/
def field (key : String) : Setting → Setting
  | group fields => (fields.lookup key).getD absent
  | _ => absent

/-- Whether nothing is set. -/
def isAbsent : Setting → Bool
  | absent => true
  | _ => false

/-- A switch is written as such; numbers and words are refused. -/
def toFlag? : Setting → Option Bool
  | flag value => some value
  | _ => none

/-- A text. -/
def toText? : Setting → Option String
  | text value => some value
  | _ => none

/-- A count below the bound. -/
def toCount? (bound : Nat) : Setting → Option Nat
  | whole (.ofNat value) => if value < bound then some value else none
  | _ => none

/-- A count of 64 bits. -/
def toCount64? : Setting → Option Nat := toCount? 0x10000000000000000

/-- A count of 32 bits. -/
def toCount32? : Setting → Option Nat := toCount? 0x100000000

/-- A number of 64 bits with a sign. -/
def toInt64? : Setting → Option Int
  | whole value =>
      if -0x8000000000000000 ≤ value ∧ value < 0x8000000000000000 then some value else none
  | _ => none

/-- Any number. -/
def toNumber? : Setting → Option Float
  | whole (.ofNat value) => some (Float.ofScientific value false 0)
  | whole (.negSucc value) => some (-(Float.ofScientific (value + 1) false 0))
  | decimal value => some value
  | _ => none

/-- An isolation by its name; a case may also be written as the one field of a group. -/
def toIsolation? : Setting → Option Isolation
  | text "semaphore" | group [("semaphore", absent)] => some .semaphore
  | text "thread_pool" | group [("thread_pool", absent)] => some .threadPool
  | _ => none

end Setting

/-- How one field of a group is read into a value under construction. -/
structure SettingField (σ : Type) where
  key : String
  /-- The value with the field set, unless the setting is refused. -/
  read : Setting → σ → Option σ

namespace SettingField

variable {σ α : Type}

/-- The field `key`, read by `parse` and stored by `store`. -/
def of (key : String) (parse : Setting → Option α) (store : α → σ → σ) : SettingField σ where
  key := key
  read setting value := (parse setting).map (fun parsed => store parsed value)

/-- Settings given by position. -/
def readSequence (value : σ) : List (SettingField σ) → List Setting → Option σ
  | _, [] => some value
  | [], _ :: _ => none
  | field :: fields, setting :: settings => do
      let next ← field.read setting value
      readSequence next fields settings

/-- Settings given by name. -/
def readGroup (fields : List (SettingField σ)) (value : σ) : List (String × Setting) → Option σ
  | [] => some value
  | (key, setting) :: rest =>
      match fields.find? (fun field => field.key == key) with
      | none => readGroup fields value rest
      | some field => do
          let next ← field.read setting value
          readGroup fields next rest

/-- All settings of a group over the defaults; anything but a group is refused. -/
def readAll (fields : List (SettingField σ)) (defaults : σ) : Setting → Option σ
  | .group settings => readGroup fields defaults settings
  | .sequence settings => readSequence defaults fields settings
  | _ => none

end SettingField

open SettingField in
def BreakerConfig.fields : List (SettingField BreakerConfig) := [
  of "enabled" Setting.toFlag? (fun value config => { config with enabled := value }),
  of "volume_threshold" Setting.toCount64?
    (fun value config => { config with volumeThreshold := value }),
  of "error_threshold_percentage" Setting.toCount32?
    (fun value config => { config with errorThresholdPercentage := value }),
  of "sleep_window_ms" Setting.toCount64?
    (fun value config => { config with sleepWindow := value }),
  of "jitter_factor" Setting.toNumber? (fun value config => { config with jitterFactor := value }),
  of "force_open" Setting.toFlag? (fun value config => { config with forceOpen := value }),
  of "force_closed" Setting.toFlag? (fun value config => { config with forceClosed := value }),
  of "reset_health_on_close" Setting.toFlag?
    (fun value config => { config with resetHealthOnClose := value })
]

/-- Circuit settings of a tree. -/
def BreakerConfig.ofSetting? : Setting → Option BreakerConfig :=
  SettingField.readAll BreakerConfig.fields {}

open SettingField in
def PoolConfig.fields : List (SettingField PoolConfig) := [
  of "core_size" Setting.toCount64? (fun value config => { config with coreSize := value }),
  of "max_queue_size" Setting.toCount64?
    (fun value config => { config with maxQueueSize := value }),
  of "queue_rejection_threshold" Setting.toCount64?
    (fun value config => { config with queueRejectionThreshold := value })
]

/-- Pool settings of a tree. -/
def PoolConfig.ofSetting? : Setting → Option PoolConfig :=
  SettingField.readAll PoolConfig.fields {}

open SettingField in
def MetricsConfig.fields : List (SettingField MetricsConfig) := [
  of "rolling_window_ms" Setting.toCount64?
    (fun value config => { config with rollingWindow := value }),
  of "num_buckets" Setting.toCount64? (fun value config => { config with sliceCount := value }),
  of "bus_capacity" Setting.toCount64? (fun value config => { config with busCapacity := value })
]

/-- Metrics settings of a tree. -/
def MetricsConfig.ofSetting? : Setting → Option MetricsConfig :=
  SettingField.readAll MetricsConfig.fields {}

open SettingField in
def CommandConfig.fields : List (SettingField CommandConfig) := [
  of "isolation" Setting.toIsolation? (fun value config => { config with isolation := value }),
  of "max_concurrent" Setting.toCount64?
    (fun value config => { config with maxConcurrent := value }),
  of "fallback_max_concurrent" Setting.toCount64?
    (fun value config => { config with fallbackMaxConcurrent := value }),
  of "execution_timeout_ms" Setting.toCount64?
    (fun value config => { config with executionTimeout := value }),
  of "timeout_enabled" Setting.toFlag?
    (fun value config => { config with timeoutEnabled := value }),
  of "fallback_enabled" Setting.toFlag?
    (fun value config => { config with fallbackEnabled := value }),
  of "circuit_breaker" BreakerConfig.ofSetting?
    (fun value config => { config with breaker := value }),
  of "thread_pool" PoolConfig.ofSetting? (fun value config => { config with pool := value }),
  of "metrics" MetricsConfig.ofSetting? (fun value config => { config with metrics := value })
]

/-- Settings of a dependency read from a tree. -/
def CommandConfig.ofSetting? : Setting → Option CommandConfig :=
  SettingField.readAll CommandConfig.fields {}

end Breakwater
