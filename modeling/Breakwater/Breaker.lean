import Breakwater.Config
import Breakwater.Metrics

/-!
The circuit of one dependency. A closed circuit lets everything pass and opens when the
health is bad enough; an open one lets a single probe pass per sleep window, and a success
closes it again.
-/

namespace Breakwater

/-- Where a circuit reads the health from, and what it starts afresh when it closes. -/
class HealthSource (σ : Type) where
  health : σ → Health
  reset : σ → σ

instance : HealthSource Metrics where
  health := Metrics.healthCounts
  reset := Metrics.resetHealth

/-- How the circuit looks from outside. -/
inductive CircuitState where
  | closed
  | isOpen
  | halfOpen
  deriving DecidableEq, Repr, Inhabited

def CircuitState.caseName : CircuitState → String
  | closed => "Closed"
  | isOpen => "Open"
  | halfOpen => "HalfOpen"

/-- What a circuit can report to its listeners. -/
inductive TransitionKind where
  | opened
  | closed
  | probed
  deriving DecidableEq, Repr, Inhabited

/-- One report of a circuit. -/
structure Transition where
  kind : TransitionKind
  key : String
  health : Health
  time : Nat
  deriving DecidableEq, Repr, Inhabited

/-- Which reports someone listens to. -/
structure Listeners where
  onOpen : Bool := false
  onClose : Bool := false
  onHalfOpen : Bool := false
  deriving DecidableEq, Repr, Inhabited

namespace Listeners

/-- Listeners for every kind of report. -/
def all : Listeners := ⟨true, true, true⟩

/-- Whether a report reaches a listener. -/
def hears (listeners : Listeners) : TransitionKind → Bool
  | .opened => listeners.onOpen
  | .closed => listeners.onClose
  | .probed => listeners.onHalfOpen

def describe (listeners : Listeners) : String :=
  Text.record "Callbacks" [
    ("on_open", toString listeners.onOpen),
    ("on_close", toString listeners.onClose),
    ("on_half_open", toString listeners.onHalfOpen)
  ]

end Listeners

/-- A circuit over a source of health. -/
structure Breaker (σ : Type) where
  name : String
  config : BreakerConfig
  listeners : Listeners
  source : σ
  /-- Whether the circuit has tripped and not closed since. -/
  opened : Bool
  /-- Whether a probe was admitted and not answered yet. -/
  probing : Bool
  /-- When the circuit tripped or last admitted a probe. -/
  lastAttempt : Nat
  /-- Milliseconds that must have passed since then before a probe is admitted. -/
  sleepWindow : Nat

namespace Breaker

variable {σ : Type} [HealthSource σ]

/-- A closed circuit. -/
def create (name : String) (config : BreakerConfig) (listeners : Listeners) (source : σ)
    : Breaker σ where
  name := name
  config := config
  listeners := listeners
  source := source
  opened := false
  probing := false
  lastAttempt := 0
  sleepWindow := config.sleepWindow

/-- Health that the circuit reads at the moment. -/
def health (breaker : Breaker σ) : Health := HealthSource.health breaker.source

/-- Whether the health is bad enough, over enough requests, to trip the circuit. -/
def warrantsTrip (breaker : Breaker σ) : Bool :=
  breaker.config.volumeThreshold ≤ breaker.health.total
    && breaker.config.errorThresholdPercentage ≤ breaker.health.percentage

/-- A report of the circuit as it is now. -/
def report (breaker : Breaker σ) (kind : TransitionKind) (now : Nat) : Transition :=
  ⟨kind, breaker.name, breaker.health, now⟩

/-- Open the circuit. Its sleep window is the configured one until the jitter draws another. -/
def trip (breaker : Breaker σ) (now : Nat) : Breaker σ :=
  { breaker with
    opened := true
    lastAttempt := now
    sleepWindow := breaker.config.sleepWindow }

/-- The jitter draws the sleep window of an opening. -/
def draw (breaker : Breaker σ) (millis : Nat) : Breaker σ := { breaker with sleepWindow := millis }

/-- Whether the circuit is open, after opening it if the health warrants that. -/
def isOpen (breaker : Breaker σ) (now : Nat) : Bool × Breaker σ × List Transition :=
  if breaker.config.forceOpen || breaker.opened then (true, breaker, [])
  else if !breaker.config.enabled || !breaker.warrantsTrip then (false, breaker, [])
  else (true, breaker.trip now, [breaker.report .opened now])

/-- Admit one probe once the sleep window of an open circuit has passed. -/
def allowSingleTest (breaker : Breaker σ) (now : Nat) : Bool × Breaker σ × List Transition :=
  if !breaker.opened then (false, breaker, [])
  else if now ≤ breaker.lastAttempt + breaker.sleepWindow then (false, breaker, [])
  else
    (true, { breaker with lastAttempt := now, probing := true }, [breaker.report .probed now])

/-- Whether a request may pass. A circuit that is forced closed is still evaluated, so that its
listeners hear of it.
-/
def allowRequest (breaker : Breaker σ) (now : Nat) : Bool × Breaker σ × List Transition :=
  if !breaker.config.enabled then (true, breaker, [])
  else if breaker.config.forceOpen then (false, breaker, [])
  else
    let (tripped, evaluated, reports) := breaker.isOpen now
    if breaker.config.forceClosed || !tripped then (true, evaluated, reports)
    else
      let (admitted, probed, more) := evaluated.allowSingleTest now
      (admitted, probed, reports ++ more)

/-- A success closes an open circuit, and starts the health afresh if so configured. -/
def markSuccess (breaker : Breaker σ) (now : Nat) : Breaker σ × List Transition :=
  if breaker.opened then
    let source :=
      if breaker.config.resetHealthOnClose then HealthSource.reset breaker.source
      else breaker.source
    let closed := { breaker with opened := false, probing := false, source }
    (closed, [closed.report .closed now])
  else (breaker, [])

/-- Anything but a success leaves an open circuit to its next sleep window. -/
def markNonSuccess (breaker : Breaker σ) : Breaker σ :=
  if breaker.opened then { breaker with probing := false } else breaker

def state (breaker : Breaker σ) : CircuitState :=
  if !breaker.opened && !breaker.config.forceOpen then .closed
  else if breaker.probing then .halfOpen
  else .isOpen

def describe (breaker : Breaker σ) : String :=
  Text.record "CircuitBreaker" [
    ("name", Text.quoted breaker.name),
    ("state", breaker.state.caseName),
    ("config", breaker.config.describe),
    ("callbacks", breaker.listeners.describe)
  ]

end Breaker

/-- A source of health that is set by hand and counts how often it was started afresh. -/
structure HealthGauge where
  reading : Health
  resets : Nat
  deriving DecidableEq, Repr, Inhabited

instance : HealthSource HealthGauge where
  health gauge := gauge.reading
  reset gauge := ⟨.empty, gauge.resets + 1⟩

end Breakwater
