import Mathlib.Data.List.Induction
import Breakwater.Proofs.Breaker.Run

/-! An open circuit lets one probe pass per sleep window. The only time that it keeps is that of
its latest attempt, the trip or the last probe; what becomes of a probe does not move it.
-/

namespace Breakwater.Breaker

variable {σ : Type} [HealthSource σ]

-----------------------------------------------------------------------------------------
-- Waiting for a probe
-----------------------------------------------------------------------------------------

/-- The circuit, waiting for a probe or not. -/
def setProbing (breaker : Breaker σ) (probing : Bool) : Breaker σ := { breaker with probing }

section

variable (breaker : Breaker σ) (probing : Bool) (now : Nat)

/-- Two answers are the same, and so are the circuits but for the wait for a probe. -/
def SameAnswer (left right : Bool × Breaker σ × List Transition) : Prop :=
  left.1 = right.1 ∧ ∃ probing, left.2.1 = right.2.1.setProbing probing

theorem isOpen_setProbing
    : SameAnswer ((breaker.setProbing probing).isOpen now) (breaker.isOpen now) := by
  have warranted : (breaker.setProbing probing).warrantsTrip = breaker.warrantsTrip := rfl
  have config : (breaker.setProbing probing).config = breaker.config := rfl
  have opened : (breaker.setProbing probing).opened = breaker.opened := rfl
  simp only [isOpen, warranted, config, opened]
  split
  · exact ⟨rfl, probing, rfl⟩
  · split
    · exact ⟨rfl, probing, rfl⟩
    · exact ⟨rfl, probing, rfl⟩

theorem allowSingleTest_setProbing
    : SameAnswer ((breaker.setProbing probing).allowSingleTest now)
        (breaker.allowSingleTest now) := by
  have opened : (breaker.setProbing probing).opened = breaker.opened := rfl
  have attempt : (breaker.setProbing probing).lastAttempt = breaker.lastAttempt := rfl
  have window : (breaker.setProbing probing).sleepWindow = breaker.sleepWindow := rfl
  simp only [allowSingleTest, opened, attempt, window]
  split
  · exact ⟨rfl, probing, rfl⟩
  · split
    · exact ⟨rfl, probing, rfl⟩
    · exact ⟨rfl, true, rfl⟩

theorem allowRequest_setProbing
    : SameAnswer ((breaker.setProbing probing).allowRequest now) (breaker.allowRequest now) := by
  have config : (breaker.setProbing probing).config = breaker.config := rfl
  obtain ⟨asked, still, evaluated⟩ := breaker.isOpen_setProbing probing now
  obtain ⟨tested, waits, probed⟩ := (breaker.isOpen now).2.1.allowSingleTest_setProbing still now
  simp only [allowRequest, config, asked, evaluated]
  split
  · exact ⟨rfl, probing, rfl⟩
  · split
    · exact ⟨rfl, probing, rfl⟩
    · split
      · exact ⟨rfl, still, rfl⟩
      · exact ⟨tested, waits, probed⟩

theorem markSuccess_setProbing
    : ∃ waits, ((breaker.setProbing probing).markSuccess now).1
        = (breaker.markSuccess now).1.setProbing waits := by
  have opened : (breaker.setProbing probing).opened = breaker.opened := rfl
  simp only [markSuccess, opened]
  split
  · exact ⟨false, rfl⟩
  · exact ⟨probing, rfl⟩

omit [HealthSource σ] in
theorem markNonSuccess_setProbing
    : ∃ waits, (breaker.setProbing probing).markNonSuccess
        = breaker.markNonSuccess.setProbing waits := by
  have opened : (breaker.setProbing probing).opened = breaker.opened := rfl
  simp only [markNonSuccess, opened]
  split
  · exact ⟨false, rfl⟩
  · exact ⟨probing, rfl⟩

end

namespace Moment

/-- Whether the circuit trips at a step. -/
def trips (moment : Moment σ) (step : Step σ) : Bool :=
  !moment.breaker.opened && (moment.step step).breaker.opened

/-- Whether the open circuit lets a probe pass at a step. -/
def admits (moment : Moment σ) (step : Step σ) : Bool :=
  moment.breaker.opened && step.isRequest && moment.answer step

/-- The times at which the circuit tripped or let a probe pass, the earliest first. -/
def attempts (moment : Moment σ) : List (Step σ) → List Nat
  | [] => []
  | step :: rest =>
      (if moment.trips step || moment.admits step then [moment.now] else [])
        ++ attempts (moment.step step) rest

/-- The latest of the trip that opened the circuit and the probes that have passed since. -/
def lastAttempt? (start : Moment σ) (steps : List (Step σ)) : Option Nat :=
  (start.attempts steps).getLast?

theorem attempts_append (moment : Moment σ) (first rest : List (Step σ))
    : moment.attempts (first ++ rest)
      = moment.attempts first ++ (moment.run first).attempts rest := by
  induction first generalizing moment with
  | nil => rfl
  | cons step more ih =>
      rw [List.cons_append, attempts, attempts, ih (moment.step step), List.append_assoc]
      rfl

theorem lastAttempt?_snoc (start : Moment σ) (steps : List (Step σ)) (last : Step σ)
    : start.lastAttempt? (steps ++ [last])
      = if (start.run steps).trips last || (start.run steps).admits last then
          some (start.run steps).now
        else start.lastAttempt? steps := by
  rw [lastAttempt?, attempts_append, attempts, attempts, List.append_nil]
  split
  · exact List.getLast?_concat
  · rw [List.append_nil, lastAttempt?]

-----------------------------------------------------------------------------------------
-- One step
-----------------------------------------------------------------------------------------

/-- What a step does to the times of a circuit that is in use and not forced. -/
inductive Effect (moment : Moment σ) (step : Step σ) (after : Breaker σ) : Prop
  | tripped (closed : moment.breaker.opened = false) (opened : after.opened = true)
    (attempt : after.lastAttempt = moment.now)
    (window : after.sleepWindow = moment.breaker.config.sleepWindow)
    (refused : step.isRequest → moment.answer step = false)
  | probed (opened : moment.breaker.opened = true) (asked : step.isRequest)
    (waited : moment.breaker.lastAttempt + moment.breaker.sleepWindow < moment.now)
    (passed : moment.answer step = true) (still : after.opened = true)
    (attempt : after.lastAttempt = moment.now)
    (window : after.sleepWindow = moment.breaker.sleepWindow)
  | rested (earlier : after.opened = true → moment.breaker.opened = true)
    (attempt : after.lastAttempt = moment.breaker.lastAttempt)
    (window : after.sleepWindow = moment.breaker.sleepWindow)
    (refused
      : moment.breaker.opened = true → step.isRequest
          → moment.now ≤ moment.breaker.lastAttempt + moment.breaker.sleepWindow
            ∧ moment.answer step = false)

variable {moment : Moment σ}

/-- A request to an open circuit passes as its probe, or the circuit stays as it is. -/
theorem effect_request (opened : moment.breaker.opened = true) {step : Step σ}
    (asked : step.isRequest)
    (tested : moment.respond step = moment.breaker.allowSingleTest moment.now)
    : Effect moment step (moment.step step).breaker := by
  have answered : moment.answer step = (moment.breaker.allowSingleTest moment.now).1 :=
    congrArg (·.1) tested
  have became : (moment.step step).breaker
      = (moment.breaker.allowSingleTest moment.now).2.1 := congrArg (·.2.1) tested
  rw [allowSingleTest_of_opened opened] at answered became
  by_cases waited : moment.breaker.lastAttempt + moment.breaker.sleepWindow < moment.now
  · rw [if_pos waited] at answered became
    rw [became]
    exact .probed opened asked waited answered opened rfl rfl
  · rw [if_neg waited] at answered became
    rw [became]
    exact .rested id rfl rfl fun _ _ => ⟨Nat.le_of_not_lt waited, answered⟩

/-- A closed circuit that is asked stays as it is, unless it trips. -/
theorem effect_closed (closed : moment.breaker.opened = false) {step : Step σ} {open_answer : Bool}
    (asked
      : moment.respond step
        = if moment.breaker.warrantsTrip then
            (open_answer, moment.breaker.trip moment.now,
              [moment.breaker.report .opened moment.now])
          else (!open_answer, moment.breaker, []))
    (refused : step.isRequest → open_answer = false)
    : Effect moment step (moment.step step).breaker := by
  have answered : moment.answer step = _ := congrArg (·.1) asked
  have became : (moment.step step).breaker = _ := congrArg (·.2.1) asked
  cases warranted : moment.breaker.warrantsTrip with
  | true =>
      rw [warranted, if_pos rfl] at answered became
      rw [became]
      exact .tripped closed rfl rfl rfl fun request => answered.trans (refused request)
  | false =>
      rw [warranted, if_neg Bool.false_ne_true] at became
      rw [became]
      exact .rested id rfl rfl fun opened => absurd (closed.symm.trans opened) Bool.false_ne_true

/-- What is no request has nothing to refuse. -/
theorem effect_aside {step : Step σ} (aside : step.isRequest = false) {after : Breaker σ}
    (earlier : after.opened = true → moment.breaker.opened = true)
    (attempt : after.lastAttempt = moment.breaker.lastAttempt)
    (window : after.sleepWindow = moment.breaker.sleepWindow) : Effect moment step after :=
  .rested earlier attempt window fun _ request =>
    absurd (aside.symm.trans request) Bool.false_ne_true

/-- Whatever happens to a circuit, it trips, lets a probe pass, or keeps its times. -/
theorem effect_step (free : moment.breaker.config.IsFree) (step : Step σ)
    : Effect moment step (moment.step step).breaker := by
  cases opened : moment.breaker.opened with
  | true =>
      cases step with
      | allowRequest => exact effect_request opened rfl (allowRequest_eq_of_opened free opened _)
      | allowSingleTest => exact effect_request opened rfl rfl
      | isOpen =>
          have same : (moment.step .isOpen).breaker = moment.breaker :=
            congrArg (·.2.1) (isOpen_of_opened opened moment.now)
          rw [same]
          exact effect_aside rfl id rfl rfl
      | markSuccess =>
          refine effect_aside rfl (fun _ => opened) ?_ ?_ <;>
            simp [Moment.step, respond, Breaker.markSuccess, opened]
      | markNonSuccess =>
          refine effect_aside rfl (fun _ => opened) ?_ ?_ <;>
            simp [Moment.step, respond, Breaker.markNonSuccess, opened]
      | changeSource change => exact effect_aside rfl id rfl rfl
      | wait millis => exact effect_aside rfl id rfl rfl
  | false =>
      cases step with
      | allowRequest =>
          exact effect_closed opened (allowRequest_eq_of_closed free opened _) fun _ => rfl
      | isOpen =>
          refine effect_closed opened (isOpen_of_closed free opened _) fun request => ?_
          exact absurd request Bool.false_ne_true
      | allowSingleTest =>
          have same : (moment.step .allowSingleTest).breaker = moment.breaker :=
            congrArg (·.2.1) (allowSingleTest_of_closed opened moment.now)
          rw [same]
          exact .rested id rfl rfl fun still => absurd (opened.symm.trans still) Bool.false_ne_true
      | markSuccess =>
          have same : (moment.step .markSuccess).breaker = moment.breaker := by
            simp [Moment.step, respond, Breaker.markSuccess, opened]
          rw [same]
          exact effect_aside rfl id rfl rfl
      | markNonSuccess =>
          have same : (moment.step .markNonSuccess).breaker = moment.breaker := by
            simp [Moment.step, respond, Breaker.markNonSuccess, opened]
          rw [same]
          exact effect_aside rfl id rfl rfl
      | changeSource change => exact effect_aside rfl id rfl rfl
      | wait millis => exact effect_aside rfl id rfl rfl

theorem config_step (moment : Moment σ) (step : Step σ)
    : (moment.step step).breaker.config = moment.breaker.config := by
  have evaluated : (moment.breaker.isOpen moment.now).2.1.config = moment.breaker.config := by
    rw [Breaker.isOpen]
    split
    · rfl
    · split <;> rfl
  have tested (breaker : Breaker σ)
      : (breaker.allowSingleTest moment.now).2.1.config = breaker.config := by
    rw [Breaker.allowSingleTest]
    split
    · rfl
    · split <;> rfl
  cases step with
  | allowRequest =>
      show (moment.breaker.allowRequest moment.now).2.1.config = moment.breaker.config
      rw [Breaker.allowRequest]
      split
      · rfl
      · split
        · rfl
        · dsimp only
          split
          · exact evaluated
          · exact (tested _).trans evaluated
  | isOpen => exact evaluated
  | allowSingleTest => exact tested moment.breaker
  | markSuccess =>
      show (moment.breaker.markSuccess moment.now).1.config = moment.breaker.config
      rw [Breaker.markSuccess]
      split <;> rfl
  | markNonSuccess =>
      show moment.breaker.markNonSuccess.config = moment.breaker.config
      rw [Breaker.markNonSuccess]
      split <;> rfl
  | changeSource change => rfl
  | wait millis => rfl

theorem config_run (moment : Moment σ) (steps : List (Step σ))
    : (moment.run steps).breaker.config = moment.breaker.config := by
  induction steps generalizing moment with
  | nil => rfl
  | cons first rest ih => exact (ih (moment.step first)).trans (moment.config_step first)

/-- A request to an open circuit passes exactly if the sleep window is over. -/
theorem answer_iff_of_opened (free : moment.breaker.config.IsFree)
    (opened : moment.breaker.opened = true) {step : Step σ} (asked : step.isRequest)
    : moment.answer step = true
      ↔ moment.breaker.lastAttempt + moment.breaker.sleepWindow < moment.now := by
  cases effect_step free step with
  | tripped closed => exact absurd (closed.symm.trans opened) Bool.false_ne_true
  | probed _ _ waited passed => exact ⟨fun _ => waited, fun _ => passed⟩
  | rested earlier attempt window refused =>
      obtain ⟨early, denied⟩ := refused opened asked
      constructor
      · intro passed
        exact absurd (denied.symm.trans passed) Bool.false_ne_true
      · intro waited
        exact absurd waited (Nat.not_lt_of_le early)

-----------------------------------------------------------------------------------------
-- The latest attempt
-----------------------------------------------------------------------------------------

/-- An open circuit keeps the time of its latest attempt and the sleep window of its settings. -/
structure Dated (moment : Moment σ) (settings : BreakerConfig) (latest : Option Nat) : Prop where
  config : moment.breaker.config = settings
  window : moment.breaker.opened = true → moment.breaker.sleepWindow = settings.sleepWindow
  latest : moment.breaker.opened = true → latest = some moment.breaker.lastAttempt

variable {config : BreakerConfig} {latest : Option Nat}

theorem Dated.step (free : config.IsFree) (dated : moment.Dated config latest) (step : Step σ)
    : (moment.step step).Dated config
        (if moment.trips step || moment.admits step then some moment.now else latest) := by
  have same : (moment.step step).breaker.config = config :=
    (moment.config_step step).trans dated.config
  cases effect_step (dated.config ▸ free) step with
  | tripped closed opened attempt window =>
      have trips : moment.trips step = true := by simp [trips, closed, opened]
      refine ⟨same, fun _ => window.trans (congrArg _ dated.config), fun _ => ?_⟩
      rw [trips, Bool.true_or, if_pos rfl, attempt]
  | probed opened asked _ passed still attempt window =>
      have admits : moment.admits step = true := by simp [admits, opened, asked, passed]
      refine ⟨same, fun _ => window.trans (dated.window opened), fun _ => ?_⟩
      rw [admits, Bool.or_true, if_pos rfl, attempt]
  | rested earlier attempt window refused =>
      refine ⟨same, fun still => window.trans (dated.window (earlier still)), fun still => ?_⟩
      have opened := earlier still
      have stays : moment.trips step = false := by simp [trips, opened]
      have denies : moment.admits step = false := by
        cases asked : step.isRequest with
        | false => simp [admits, asked]
        | true => simp [admits, (refused opened asked).2]
      rw [stays, denies, Bool.or_false, if_neg Bool.false_ne_true, attempt]
      exact dated.latest opened

/-- The time that an open circuit keeps is that of its latest attempt, by induction on the steps. -/
theorem dated_run {start : Moment σ} (free : start.breaker.config.IsFree)
    (closed : start.breaker.opened = false) (steps : List (Step σ))
    : (start.run steps).Dated start.breaker.config (start.lastAttempt? steps) := by
  induction steps using List.reverseRecOn with
  | nil =>
      have shut (opened : start.breaker.opened = true) : False :=
        Bool.false_ne_true (closed.symm.trans opened)
      exact ⟨rfl, fun opened => (shut opened).elim, fun opened => (shut opened).elim⟩
  | append_singleton steps last ih =>
      rw [run_more, lastAttempt?_snoc]
      exact ih.step free last

/-- While a circuit stays open, its attempts only become later. -/
theorem lastAttempt_le (free : moment.breaker.config.IsFree) (steps : List (Step σ))
    (opened
      : ∀ earlier later, steps = earlier ++ later → (moment.run earlier).breaker.opened = true)
    : moment.breaker.lastAttempt ≤ (moment.run steps).breaker.lastAttempt
      ∧ (moment.run steps).breaker.sleepWindow = moment.breaker.sleepWindow := by
  induction steps generalizing moment with
  | nil => exact ⟨Nat.le_refl _, rfl⟩
  | cons first rest ih =>
      have here : moment.breaker.opened = true := opened [] (first :: rest) rfl
      have stays (earlier later : List (Step σ)) (split : rest = earlier ++ later)
          : ((moment.step first).run earlier).breaker.opened = true :=
        opened (first :: earlier) later (congrArg (first :: ·) split)
      obtain ⟨further, window⟩ := ih ((moment.config_step first).symm ▸ free) stays
      have onward : moment.breaker.lastAttempt ≤ (moment.step first).breaker.lastAttempt
          ∧ (moment.step first).breaker.sleepWindow = moment.breaker.sleepWindow := by
        cases effect_step free first with
        | tripped closed => exact absurd (closed.symm.trans here) Bool.false_ne_true
        | probed _ _ waited _ _ attempt same =>
            rw [attempt]
            exact ⟨by omega, same⟩
        | rested _ attempt same => exact ⟨Nat.le_of_eq attempt.symm, same⟩
      exact ⟨Nat.le_trans onward.1 further, window.trans onward.2⟩

/-- A circuit that stays open between two probes lets more than its sleep window pass. -/
theorem apart_of_admits (free : moment.breaker.config.IsFree) {first second : Step σ}
    {middle : List (Step σ)} (admitted : moment.admits first = true)
    (stays
      : ∀ earlier later, middle = earlier ++ later
          → ((moment.step first).run earlier).breaker.opened = true)
    (again : ((moment.step first).run middle).admits second = true)
    : moment.now + moment.breaker.sleepWindow < ((moment.step first).run middle).now := by
  simp only [admits, Bool.and_eq_true] at admitted again
  obtain ⟨⟨opened, asked⟩, passed⟩ := admitted
  obtain ⟨⟨still, demanded⟩, permitted⟩ := again
  have freed : (moment.step first).breaker.config.IsFree := moment.config_step first ▸ free
  obtain ⟨onward, window⟩ := lastAttempt_le freed middle stays
  have settings : ((moment.step first).run middle).breaker.config = moment.breaker.config :=
    (config_run _ middle).trans (moment.config_step first)
  have waited := (answer_iff_of_opened (settings ▸ free) still demanded).mp permitted
  cases effect_step free first with
  | tripped closed => exact absurd (closed.symm.trans opened) Bool.false_ne_true
  | probed _ _ _ _ _ attempt same =>
      calc moment.now + moment.breaker.sleepWindow
          = (moment.step first).breaker.lastAttempt + (moment.step first).breaker.sleepWindow := by
            rw [attempt, same]
        _ ≤ ((moment.step first).run middle).breaker.lastAttempt
            + ((moment.step first).run middle).breaker.sleepWindow :=
          Nat.add_le_add onward (Nat.le_of_eq window.symm)
        _ < ((moment.step first).run middle).now := waited
  | rested _ _ _ refused =>
      exact absurd ((refused opened asked).2.symm.trans passed) Bool.false_ne_true

-----------------------------------------------------------------------------------------
-- What becomes of a probe
-----------------------------------------------------------------------------------------

/-- Two circuits differ at most in whether they wait for a probe. -/
structure Alike (left right : Moment σ) : Prop where
  now : left.now = right.now
  breaker : ∃ probing, left.breaker = right.breaker.setProbing probing

/-- An end that was no success only shows in whether the circuit waits for a probe. -/
theorem alike_markNonSuccess (moment : Moment σ)
    : (moment.step .markNonSuccess).Alike moment := by
  refine ⟨rfl, ?_⟩
  show ∃ probing, moment.breaker.markNonSuccess = moment.breaker.setProbing probing
  rw [Breaker.markNonSuccess]
  split
  · exact ⟨false, rfl⟩
  · exact ⟨moment.breaker.probing, rfl⟩

theorem respond_setProbing (moment : Moment σ) (probing : Bool) (step : Step σ)
    : SameAnswer (Moment.respond ⟨moment.now, moment.breaker.setProbing probing⟩ step)
        (moment.respond step) := by
  cases step with
  | allowRequest => exact moment.breaker.allowRequest_setProbing probing moment.now
  | isOpen => exact moment.breaker.isOpen_setProbing probing moment.now
  | allowSingleTest => exact moment.breaker.allowSingleTest_setProbing probing moment.now
  | markSuccess => exact ⟨rfl, moment.breaker.markSuccess_setProbing probing moment.now⟩
  | markNonSuccess => exact ⟨rfl, moment.breaker.markNonSuccess_setProbing probing⟩
  | changeSource change => exact ⟨rfl, probing, rfl⟩
  | wait millis => exact ⟨rfl, probing, rfl⟩

/-- Whether a circuit waits for a probe makes no difference to what it answers. -/
theorem Alike.step {left right : Moment σ} (alike : left.Alike right) (step : Step σ)
    : left.answer step = right.answer step ∧ (left.step step).Alike (right.step step) := by
  obtain ⟨time, breaker⟩ := left
  obtain ⟨rfl, probing, rfl⟩ := alike
  obtain ⟨answer, alike⟩ := right.respond_setProbing probing step
  refine ⟨answer, ?_, alike⟩
  cases step with
  | _ => rfl

omit [HealthSource σ] in
theorem Alike.trans {left middle right : Moment σ} (first : left.Alike middle)
    (rest : middle.Alike right) : left.Alike right := by
  obtain ⟨now, probing, same⟩ := first
  obtain ⟨later, waits, other⟩ := rest
  exact ⟨now.trans later, probing, same.trans (congrArg (·.setProbing probing) other)⟩

/-- A run goes on as it would without what the circuit is told of ends other than successes, by
induction on the steps.
-/
theorem Alike.run {left right : Moment σ} (alike : left.Alike right) (steps : List (Step σ))
    : (left.run steps).Alike (right.run (steps.filter (!·.isFailure))) := by
  induction steps generalizing left right with
  | nil => exact alike
  | cons first rest ih =>
      rw [List.filter_cons]
      split
      · exact ih (alike.step first).2
      · rename_i told
        obtain rfl : first = .markNonSuccess := by
          cases first with
          | markNonSuccess => rfl
          | _ => exact absurd rfl told
        exact ih ((alike_markNonSuccess left).trans alike)

end Moment

-----------------------------------------------------------------------------------------
-- One probe per sleep window
-----------------------------------------------------------------------------------------

/-- What lets probes pass at a circuit. -/
structure OneProbePerWindow (start : Moment σ) (steps : List (Step σ)) : Prop where
  /-- To an open circuit, a request passes exactly if more than the sleep window has passed since
  the latest attempt, -/
  passes_iff
    : (start.run steps).breaker.opened = true
        → ∃ attempt,
            start.lastAttempt? steps = some attempt
            ∧ ∀ step, step.isRequest
                → ((start.run steps).answer step = true
                  ↔ attempt + start.breaker.config.sleepWindow < (start.run steps).now)
  /-- and is then the latest attempt itself, as nothing else is while the circuit stays open. -/
  dates
    : ∀ step, (start.run steps).breaker.opened = true
        → start.lastAttempt? (steps ++ [step])
          = if step.isRequest && (start.run steps).answer step then some (start.run steps).now
            else start.lastAttempt? steps
  /-- A request that makes the circuit trip does not pass. -/
  refused
    : ∀ step, (start.run steps).breaker.opened = false → step.isRequest
        → ((start.run steps).step step).breaker.opened = true
        → (start.run steps).answer step = false
  /-- Two probes of one open period are more than the sleep window apart. -/
  apart
    : ∀ earlier first middle,
        steps = earlier ++ first :: middle
        → (start.run earlier).admits first = true
        → (∀ part rest, middle = part ++ rest
            → (start.run (earlier ++ first :: part)).breaker.opened = true)
        → ∀ second, (start.run steps).admits second = true
        → (start.run earlier).now + start.breaker.config.sleepWindow < (start.run steps).now
  /-- Whether it is told that a probe has failed or not makes no difference to any answer. -/
  unmoved
    : ∀ step,
        (start.run steps).answer step
          = (start.run (steps.filter (!·.isFailure))).answer step

/-- Whatever becomes of its health and of its probes, an open circuit lets one probe pass per sleep
window.
-/
theorem one_probe_per_sleep_window (name : String) {config : BreakerConfig} (free : config.IsFree)
    (listeners : Listeners) (source : σ) (now : Nat) (steps : List (Step σ))
    : OneProbePerWindow ⟨now, create name config listeners source⟩ steps := by
  generalize fresh : (⟨now, create name config listeners source⟩ : Moment σ) = start
  have closed : start.breaker.opened = false := by rw [← fresh]; rfl
  have settings : start.breaker.config = config := by rw [← fresh]; rfl
  rw [← settings] at free
  have dated (steps : List (Step σ)) := Moment.dated_run free closed steps
  have stillFree (steps : List (Step σ)) : (start.run steps).breaker.config.IsFree :=
    (dated steps).config ▸ free
  constructor
  case passes_iff =>
    intro opened
    refine ⟨_, (dated steps).latest opened, fun step request => ?_⟩
    rw [← (dated steps).window opened]
    exact Moment.answer_iff_of_opened (stillFree steps) opened request
  case dates =>
    intro step opened
    rw [Moment.lastAttempt?_snoc]
    simp [Moment.trips, Moment.admits, opened]
  case refused =>
    intro step shut request trips
    cases Moment.effect_step (stillFree steps) step with
    | tripped _ _ _ _ refused => exact refused request
    | probed opened => exact absurd (shut.symm.trans opened) Bool.false_ne_true
    | rested earlier => exact absurd (shut.symm.trans (earlier trips)) Bool.false_ne_true
  case apart =>
    rintro earlier first middle rfl admitted stays second again
    have opened : (start.run earlier).breaker.opened = true := by
      simp only [Moment.admits, Bool.and_eq_true] at admitted
      exact admitted.1.1
    have later (part : List (Step σ))
        : start.run (earlier ++ first :: part) = ((start.run earlier).step first).run part :=
      start.run_more earlier (first :: part)
    rw [later] at again
    rw [← (dated earlier).window opened, later]
    refine Moment.apart_of_admits (stillFree earlier) admitted (fun part rest split => ?_) again
    rw [← later]
    exact stays part rest split
  case unmoved =>
    intro step
    have alike : start.Alike start := ⟨rfl, start.breaker.probing, rfl⟩
    exact ((alike.run steps).step step).1

/-- A circuit with a sleep window of 10 ms trips at once, lets a probe pass 11 ms later, and the
next one 11 ms after that, though it was told that the first one failed.
-/
theorem one_probe_per_sleep_window_failed_probe
    : let config : BreakerConfig := { volumeThreshold := 1, sleepWindow := 10 }
      let start : Moment HealthGauge := ⟨0, create "sample" config {} ⟨⟨2, 1, 50⟩, 0⟩⟩
      let early : List (Step HealthGauge) := [.allowRequest, .wait 10]
      let failed : List (Step HealthGauge) := early ++ [.wait 1, .allowRequest, .markNonSuccess]
      config.IsFree ∧ start.answer .allowRequest = false
        ∧ (start.run early).answer .allowRequest = false
        ∧ (start.run (early ++ [.wait 1])).answer .allowRequest = true
        ∧ (start.run (failed ++ [.wait 10])).answer .allowRequest = false
        ∧ (start.run (failed ++ [.wait 11])).answer .allowRequest = true
        ∧ OneProbePerWindow start (failed ++ [.wait 11]) := by
  intro config start early failed
  have free : config.IsFree := ⟨rfl, rfl, rfl⟩
  exact ⟨free, by decide +kernel, by decide +kernel, by decide +kernel, by decide +kernel,
    by decide +kernel, one_probe_per_sleep_window "sample" free {} _ 0 _⟩

end Breakwater.Breaker
