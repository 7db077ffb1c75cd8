import Breakwater.Proofs.Gateway.Circuit

/-! Runs of one circuit: it is asked and told in any order, while its health changes by itself and
time passes.
-/

namespace Breakwater.Breaker

/-- One thing that can happen to a circuit. -/
inductive Step (σ : Type) where
  | allowRequest
  | isOpen
  | allowSingleTest
  | markSuccess
  | markNonSuccess
  | changeSource (change : σ → σ)
  | wait (millis : Nat)

namespace Step

variable {σ : Type}

/-- Whether a step asks the circuit to let something pass. -/
def isRequest : Step σ → Bool
  | allowRequest | allowSingleTest => true
  | _ => false

/-- Whether a step tells the circuit of an end that was no success. -/
def isFailure : Step σ → Bool
  | markNonSuccess => true
  | _ => false

end Step

/-- A circuit at some time. -/
structure Moment (σ : Type) where
  now : Nat
  breaker : Breaker σ

namespace Moment

variable {σ : Type} [HealthSource σ] (moment : Moment σ)

/-- What a circuit answers to a step, what becomes of it, and what it reports. A step that is no
question is not answered, which counts as a no.
-/
def respond : Step σ → Bool × Breaker σ × List Transition
  | .allowRequest => moment.breaker.allowRequest moment.now
  | .isOpen => moment.breaker.isOpen moment.now
  | .allowSingleTest => moment.breaker.allowSingleTest moment.now
  | .markSuccess => (false, moment.breaker.markSuccess moment.now)
  | .markNonSuccess => (false, moment.breaker.markNonSuccess, [])
  | .changeSource change =>
      (false, { moment.breaker with source := change moment.breaker.source }, [])
  | .wait _ => (false, moment.breaker, [])

def answer (step : Step σ) : Bool := (moment.respond step).1

/-- Take one step. -/
def step (step : Step σ) : Moment σ where
  now :=
    match step with
    | .wait millis => moment.now + millis
    | _ => moment.now
  breaker := (moment.respond step).2.1

/-- Take steps in order. -/
def run (steps : List (Step σ)) : Moment σ := steps.foldl step moment

@[simp]
theorem run_nothing : moment.run [] = moment := rfl

@[simp]
theorem run_first (first : Step σ) (rest : List (Step σ))
    : moment.run (first :: rest) = (moment.step first).run rest := rfl

@[simp]
theorem run_more (first rest : List (Step σ))
    : moment.run (first ++ rest) = (moment.run first).run rest :=
  List.foldl_append

end Moment

-----------------------------------------------------------------------------------------
-- What a circuit does that is in use and not forced
-----------------------------------------------------------------------------------------

variable {σ : Type} [HealthSource σ] {breaker : Breaker σ}

theorem isOpen_of_opened (opened : breaker.opened = true) (now : Nat)
    : breaker.isOpen now = (true, breaker, []) := by
  simp [isOpen, opened]

/-- A closed circuit that is asked trips if its health warrants that. -/
theorem isOpen_of_closed (free : breaker.config.IsFree) (closed : breaker.opened = false)
    (now : Nat)
    : breaker.isOpen now
      = if breaker.warrantsTrip then (true, breaker.trip now, [breaker.report .opened now])
        else (false, breaker, []) := by
  cases warranted : breaker.warrantsTrip <;>
    simp [isOpen, free.notForcedOpen, free.enabled, closed, warranted]

/-- The circuit once it has let a probe pass. -/
def probed (breaker : Breaker σ) (now : Nat) : Breaker σ :=
  { breaker with lastAttempt := now, probing := true }

theorem allowSingleTest_of_closed (closed : breaker.opened = false) (now : Nat)
    : breaker.allowSingleTest now = (false, breaker, []) := by
  simp [allowSingleTest, closed]

/-- An open circuit lets a probe pass once its sleep window is over. -/
theorem allowSingleTest_of_opened (opened : breaker.opened = true) (now : Nat)
    : breaker.allowSingleTest now
      = if breaker.lastAttempt + breaker.sleepWindow < now then
          (true, breaker.probed now, [breaker.report .probed now])
        else (false, breaker, []) := by
  by_cases waited : breaker.lastAttempt + breaker.sleepWindow < now
  · have elapsed : ¬now ≤ breaker.lastAttempt + breaker.sleepWindow := Nat.not_le_of_lt waited
    simp [allowSingleTest, opened, waited, elapsed, probed]
  · have waits : now ≤ breaker.lastAttempt + breaker.sleepWindow := Nat.le_of_not_lt waited
    simp [allowSingleTest, opened, waited, waits]

/-- A request to an open circuit passes as its probe or not at all. -/
theorem allowRequest_eq_of_opened (free : breaker.config.IsFree)
    (opened : breaker.opened = true) (now : Nat)
    : breaker.allowRequest now = breaker.allowSingleTest now := by
  have still := isOpen_of_opened opened now
  simp [allowRequest, free.enabled, free.notForcedOpen, free.notForcedClosed, still]

/-- No probe passes at the moment of a trip, whatever sleep window the jitter draws: the draw may
come after the request that tripped the circuit.
-/
theorem allowSingleTest_draw_trip (breaker : Breaker σ) (now millis : Nat)
    : ((breaker.trip now).draw millis).allowSingleTest now
      = (false, (breaker.trip now).draw millis, []) := by
  have tested := @allowSingleTest_of_opened σ _ ((breaker.trip now).draw millis) rfl now
  have early : ¬now + millis < now := Nat.not_lt_of_le (Nat.le_add_right now millis)
  exact tested.trans (if_neg early)

/-- A request to a closed circuit passes, unless the circuit trips: it does not pass as a probe
then, as no time has passed since the trip.
-/
theorem allowRequest_eq_of_closed (free : breaker.config.IsFree)
    (closed : breaker.opened = false) (now : Nat)
    : breaker.allowRequest now
      = if breaker.warrantsTrip then (false, breaker.trip now, [breaker.report .opened now])
        else (true, breaker, []) := by
  have asked := isOpen_of_closed free closed now
  have tested : (breaker.trip now).allowSingleTest now = (false, breaker.trip now, []) :=
    allowSingleTest_draw_trip breaker now breaker.config.sleepWindow
  cases warranted : breaker.warrantsTrip <;>
    simp [allowRequest, free.enabled, free.notForcedOpen, free.notForcedClosed, asked, tested,
      warranted]

end Breakwater.Breaker
