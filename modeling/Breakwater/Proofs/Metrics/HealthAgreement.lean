import Mathlib.Algebra.Order.BigOperators.Group.List
import Mathlib.Algebra.Order.Group.Nat
import Breakwater.Clock
import Breakwater.Proofs.Dependency.Built
import Breakwater.Proofs.Metrics.HealthWindow
import Breakwater.Proofs.Stream.Placing

/-! The health of one key is that of its rolling counts, as soon as a window's worth of slices was
closed since it last started afresh. Starting afresh shows in the health alone.
-/

namespace Breakwater

/-- A number that adds up where tallies are merged is read off merged slices one by one. -/
theorem Tally.Additive.summary_eq_sum {measure : Tally → Nat} (additive : Additive measure)
    (slices : List Tally)
    : measure (tallySummary.summary slices) = (slices.map measure).sum := by
  refine (additive.foldl_merge slices .empty).trans ?_
  rw [additive.empty, Nat.zero_add]

/-- Slices that were left out do not make a count greater. -/
theorem count_summary_le {slices all : List Tally} (sublist : slices.Sublist all) (tag : Tag)
    : (tallySummary.summary slices).count tag ≤ (tallySummary.summary all).count tag := by
  have summed := (Tally.Additive.count tag).summary_eq_sum
  rw [summed, summed]
  exact (sublist.map _).sum_le_sum fun _ _ => Nat.zero_le _

/-- The health summed up slice by slice is that of the slices merged into one. -/
theorem Health.summary_eq_plus (slices : List Tally)
    : healthSummary.summary slices = Health.empty.plus (tallySummary.summary slices) := by
  have requests : requestsIn (tallySummary.summary slices) = (slices.map requestsIn).sum :=
    (Tally.Additive.sumWhere Tag.countsTowardHealth).summary_eq_sum slices
  have errors : errorsIn (tallySummary.summary slices) = (slices.map errorsIn).sum :=
    (Tally.Additive.sumWhere Tag.isHealthError).summary_eq_sum slices
  rw [Health.plus, requests, errors]
  exact Health.foldl_plus slices 0 0

/-- The tags that count toward the health, one by one. -/
theorem Health.requestsIn_eq (tally : Tally)
    : requestsIn tally
      = tally.count .success + tally.count .failure + tally.count .timeout
        + tally.count .threadPoolRejected + tally.count .semaphoreRejected := by
  have listed : Tag.all.filter Tag.countsTowardHealth
      = [.success, .failure, .timeout, .threadPoolRejected, .semaphoreRejected] := rfl
  rw [requestsIn, Tally.sumWhere, listed]
  simp only [Tally.sumOver]
  omega

theorem Health.errorsIn_eq (tally : Tally)
    : errorsIn tally
      = tally.count .failure + tally.count .timeout + tally.count .threadPoolRejected
        + tally.count .semaphoreRejected := by
  have listed : Tag.all.filter Tag.isHealthError
      = [.failure, .timeout, .threadPoolRejected, .semaphoreRejected] := rfl
  rw [errorsIn, Tally.sumWhere, listed]
  simp only [Tally.sumOver]
  omega

namespace Metrics

/-- The metrics of one key in use. -/
structure Session where
  clock : Clock
  metrics : Metrics
  /-- Slices that had been closed when the health last started afresh. -/
  closedBefore : Nat

/-- One thing that can happen to the metrics of a key. -/
inductive Step where
  | mark (record : ExecutionRecord)
  | advance (millis : Nat)
  | setClock (millis : Nat)
  | pump
  | resetHealth
  deriving DecidableEq

namespace Session

/-- Metrics that are used from some moment on. -/
def start (metrics : Metrics) (now : Nat) : Session := ⟨⟨now⟩, metrics, 0⟩

variable (session : Session)

/-- Take one step. -/
def step : Step → Session
  | .mark record =>
      { session with metrics := session.metrics.markDone record session.clock.now }
  | .advance millis => { session with clock := session.clock.advance millis }
  | .setClock millis => { session with clock := session.clock.set millis }
  | .pump => { session with metrics := (session.metrics.pump session.clock.now).2 }
  | .resetHealth =>
      { session with
        metrics := session.metrics.resetHealth
        closedBefore := session.metrics.slices.closed }

/-- Take steps in order. -/
def run (steps : List Step) : Session := steps.foldl step session

/-- Slices closed since the health last started afresh. -/
def closedSince : Nat := session.metrics.slices.closed - session.closedBefore

@[simp]
theorem run_more (first rest : List Step)
    : session.run (first ++ rest) = (session.run first).run rest :=
  List.foldl_append

end Session

-----------------------------------------------------------------------------------------
-- What was handed on
-----------------------------------------------------------------------------------------

/-- A session whose metrics have handed on some slices, to the health those since it last started
afresh.
-/
structure Session.Fed (size : Nat) (emitted : List Tally) (session : Session) : Prop where
  closed : session.metrics.slices.closed = emitted.length
  within : session.closedBefore ≤ emitted.length
  health : session.metrics.health.Holds healthSummary size (emitted.drop session.closedBefore)
  rolling : session.metrics.rolling.Holds tallySummary size emitted
  totals : session.metrics.totals.Holds tallySummary size emitted

namespace Session.Fed

variable {size : Nat} {emitted : List Tally} {session : Session}

theorem of_created {key : String} {config : MetricsConfig} {now : Nat} {metrics : Metrics}
    (created : create key config now = .ok metrics)
    : Fed config.sliceCount [] (start metrics now) := by
  obtain ⟨_, several, _, rfl⟩ := create_eq_ok created
  have positive : 0 < config.sliceCount := Nat.pos_of_ne_zero several
  exact ⟨rfl, Nat.le_refl 0, RollingWindow.holds_empty _ positive,
    RollingWindow.holds_empty _ positive, RunningTotal.holds_empty _ _⟩

variable (fed : session.Fed size emitted)
include fed

/-- A pump hands on what it closes to the health, the rolling counts and the totals. -/
theorem pump : ∃ more, (session.step .pump).Fed size (emitted ++ more) := by
  obtain ⟨closed, within, health, rolling, totals⟩ := fed
  let metrics := session.metrics
  let now := session.clock.now
  let events := metrics.bus.pending metrics.source
  let more := (metrics.slices.pump completionSlices events now).2
  have pumped : (metrics.pump now).2
      = more.foldl pushSlice
          { metrics with
            bus := (metrics.bus.drain metrics.source).2
            slices := (metrics.slices.pump completionSlices events now).1 } := rfl
  rw [foldl_pushSlice] at pumped
  rw [Session.step, pumped]
  refine ⟨more, ?_, ?_, ?_, rolling.pushAll more, totals.pushAll more⟩
  · refine (SliceStream.closed_pump completionSlices metrics.slices events now).trans ?_
    rw [closed, List.length_append]
  · rw [List.length_append]
    exact Nat.le_trans within (Nat.le_add_right _ _)
  · rw [List.drop_append_of_le_length within]
    exact health.pushAll more

theorem resetHealth : (session.step .resetHealth).Fed size emitted := by
  refine ⟨fed.closed, Nat.le_of_eq fed.closed, ?_, fed.rolling, fed.totals⟩
  have nothing : emitted.drop (session.step .resetHealth).closedBefore = [] :=
    List.drop_of_length_le (Nat.le_of_eq fed.closed.symm)
  rw [nothing]
  exact fed.health.reset

/-- Only a pump hands on slices. -/
theorem step (step : Step) : ∃ more, (session.step step).Fed size (emitted ++ more) := by
  cases step with
  | pump => exact fed.pump
  | resetHealth => exact ⟨[], by rw [List.append_nil]; exact fed.resetHealth⟩
  | _ =>
      obtain ⟨closed, within, health, rolling, totals⟩ := fed
      exact ⟨[], by rw [List.append_nil]; exact ⟨closed, within, health, rolling, totals⟩⟩

theorem run (steps : List Step) : ∃ more, (session.run steps).Fed size (emitted ++ more) := by
  induction steps generalizing session emitted with
  | nil => exact ⟨[], by rwa [List.append_nil]⟩
  | cons first rest ih =>
      obtain ⟨more, moved⟩ := fed.step first
      obtain ⟨others, onward⟩ := ih moved
      exact ⟨more ++ others, by rwa [← List.append_assoc]⟩

theorem rollingCounts
    : session.metrics.rollingCounts
      = if size ≤ emitted.length then tallySummary.summary (recent size emitted) else .empty :=
  fed.rolling.latestOrBlank

theorem totalCounts (positive : 0 < size)
    : session.metrics.totalCounts
      = if size ≤ emitted.length then tallySummary.summary emitted else .empty :=
  fed.totals.latestOrBlank positive

/-- A full window of the health holds the same slices as that of the rolling counts. -/
theorem healthCounts
    : session.metrics.healthCounts
      = if size ≤ session.closedSince then Health.empty.plus session.metrics.rollingCounts
        else .empty := by
  have since : session.closedSince = (emitted.drop session.closedBefore).length := by
    rw [closedSince, fed.closed, List.length_drop]
  rw [Metrics.healthCounts, fed.health.latestOrBlank, since]
  by_cases full : size ≤ (emitted.drop session.closedBefore).length
  · -- What the health has forgotten has left the window of the rolling counts.
    have longer : size ≤ emitted.length :=
      Nat.le_trans full (List.length_drop ▸ Nat.sub_le _ _)
    have split := List.take_append_drop session.closedBefore emitted
    rw [if_pos full, if_pos full, fed.rollingCounts, if_pos longer, Health.summary_eq_plus,
      ← recent_append_of_le _ full, split]
  · rw [if_neg full, if_neg full]
    rfl

/-- With more slices a total does not become smaller. -/
theorem totalCounts_le {later : Session} {more : List Tally} (positive : 0 < size)
    (onward : later.Fed size (emitted ++ more)) (tag : Tag)
    : session.metrics.totalCounts.count tag ≤ later.metrics.totalCounts.count tag := by
  rw [fed.totalCounts positive, onward.totalCounts positive]
  by_cases several : size ≤ emitted.length
  · have still : size ≤ (emitted ++ more).length := by
      rw [List.length_append]
      exact Nat.le_trans several (Nat.le_add_right _ _)
    rw [if_pos several, if_pos still]
    exact count_summary_le (List.sublist_append_left _ _) tag
  · rw [if_neg several, Tally.count_empty]
    exact Nat.zero_le _

end Session.Fed

-----------------------------------------------------------------------------------------
-- Without the health
-----------------------------------------------------------------------------------------

/-- The metrics but for the window of the health. -/
def withoutHealth (metrics : Metrics) : Metrics := { metrics with health := .empty 0 }

theorem withoutHealth_pump (metrics : Metrics) (now : Nat)
    : (metrics.pump now).2.withoutHealth = (metrics.withoutHealth.pump now).2.withoutHealth := by
  simp only [pump, foldl_pushSlice]
  rfl

/-- Two sessions that differ in the health only. -/
structure Session.SameCounters (left right : Session) : Prop where
  clock : left.clock = right.clock
  metrics : left.metrics.withoutHealth = right.metrics.withoutHealth

namespace Session.SameCounters

variable {left right : Session}

theorem step (same : SameCounters left right) (step : Step)
    : SameCounters (left.step step) (right.step step) := by
  obtain ⟨clock, metrics⟩ := same
  cases step with
  | mark record =>
      refine ⟨clock, ?_⟩
      show left.metrics.withoutHealth.markDone record left.clock.now
        = right.metrics.withoutHealth.markDone record right.clock.now
      rw [metrics, clock]
  | advance millis => exact ⟨congrArg (·.advance millis) clock, metrics⟩
  | setClock millis => exact ⟨congrArg (·.set millis) clock, metrics⟩
  | pump =>
      refine ⟨clock, ?_⟩
      show (left.metrics.pump left.clock.now).2.withoutHealth
        = (right.metrics.pump right.clock.now).2.withoutHealth
      rw [withoutHealth_pump, metrics, clock, ← withoutHealth_pump]
  | resetHealth => exact ⟨clock, metrics⟩

/-- Leaving out the steps that start the health afresh, by induction on the run. -/
theorem run (same : SameCounters left right) (steps : List Step)
    : SameCounters (left.run steps) (right.run (steps.filter (· ≠ .resetHealth))) := by
  induction steps generalizing left right with
  | nil => exact same
  | cons first rest ih =>
      by_cases resets : first = .resetHealth
      · subst resets
        exact ih ⟨same.clock, same.metrics⟩
      · rw [List.filter_cons_of_pos (by simpa using resets)]
        exact ih (same.step first)

end Session.SameCounters

-----------------------------------------------------------------------------------------
-- Agreement
-----------------------------------------------------------------------------------------

/-- How the health and the counters of one key stand to each other after some steps. -/
structure Agrees (size : Nat) (start : Session) (steps : List Step) : Prop where
  /-- Once a window's worth of slices was closed since the health last started afresh, it is that of
  the rolling counts. -/
  full
    : size ≤ (start.run steps).closedSince
        → let metrics := (start.run steps).metrics
          metrics.healthCounts = Health.empty.plus metrics.rollingCounts
            ∧ metrics.healthCounts.total
              = metrics.rollingCounts.count .success + metrics.rollingCounts.count .failure
                + metrics.rollingCounts.count .timeout
                + metrics.rollingCounts.count .threadPoolRejected
                + metrics.rollingCounts.count .semaphoreRejected
            ∧ metrics.healthCounts.errors
              = metrics.rollingCounts.count .failure + metrics.rollingCounts.count .timeout
                + metrics.rollingCounts.count .threadPoolRejected
                + metrics.rollingCounts.count .semaphoreRejected
  /-- Until then it is empty, -/
  warming
    : (start.run steps).closedSince < size → (start.run steps).metrics.healthCounts = .empty
  /-- and the counts are those of a run in which the health never starts afresh. -/
  unaffected
    : let others := start.run (steps.filter (· ≠ .resetHealth))
      (start.run steps).metrics.rollingCounts = others.metrics.rollingCounts
        ∧ (start.run steps).metrics.totalCounts = others.metrics.totalCounts
  rolling_le
    : ∀ tag,
        (start.run steps).metrics.rollingCounts.count tag
          ≤ (start.run steps).metrics.totalCounts.count tag
  grows
    : ∀ earlier later, steps = earlier ++ later
        → ∀ tag,
            (start.run earlier).metrics.totalCounts.count tag
              ≤ (start.run steps).metrics.totalCounts.count tag

/-- Whatever is marked, whenever the clock moves, the metrics are pumped and the health starts
afresh: the health is that of the rolling counts or it is empty, and the counts do not depend on it.
-/
theorem health_agrees_with_counts {key : String} {config : MetricsConfig} {now : Nat}
    {metrics : Metrics} (created : create key config now = .ok metrics) (steps : List Step)
    : Agrees config.sliceCount (.start metrics now) steps := by
  have positive : 0 < config.sliceCount := Nat.pos_of_ne_zero (create_eq_ok created).2.1
  have begun : (Session.start metrics now).Fed config.sliceCount [] := .of_created created
  obtain ⟨emitted, fed⟩ := begun.run steps
  have health := fed.healthCounts
  constructor
  case full =>
    intro full metrics
    rw [if_pos full] at health
    have total := congrArg Health.total health
    rw [Health.total_plus, Health.requestsIn_eq, Health.empty, Nat.zero_add] at total
    have errors := congrArg Health.errors health
    rw [Health.errors_plus, Health.errorsIn_eq, Health.empty, Nat.zero_add] at errors
    exact ⟨health, total, errors⟩
  case warming =>
    intro short
    rw [health, if_neg (Nat.not_le_of_lt short)]
  case unaffected =>
    intro others
    have same : Session.SameCounters ((Session.start metrics now).run steps) others :=
      Session.SameCounters.run ⟨rfl, rfl⟩ steps
    have rolling := congrArg Metrics.rollingCounts same.metrics
    have totals := congrArg Metrics.totalCounts same.metrics
    exact ⟨rolling, totals⟩
  case rolling_le =>
    intro tag
    rw [fed.rollingCounts, fed.totalCounts positive]
    split
    · exact count_summary_le (List.drop_sublist _ _) tag
    · exact Nat.le_refl _
  case grows =>
    rintro earlier later rfl tag
    obtain ⟨first, before⟩ := begun.run earlier
    obtain ⟨more, after⟩ := before.run later
    rw [Session.run_more]
    exact before.totalCounts_le positive after tag

/-- A window of two slices. When one was closed since the health started afresh, the failure is
still counted, and when two were closed the health is that of the counts again.
-/
theorem health_agrees_with_counts_after_restart
    : let config : MetricsConfig := { rollingWindow := 20, sliceCount := 2, busCapacity := 8 }
      let metrics : Metrics :=
        { key := "orders"
          bus := (Bus.empty 8).subscribe.2
          source := 0
          slices := .opening completionSlices 2 10 0
          health := .empty 2
          rolling := .empty 2
          totals := .empty tallySummary 2
          concurrent := 0 }
      let marked (tag : Tag) : Step := .mark (.ofTags [tag])
      let steps : List Step :=
        [.advance 10, .pump, marked .failure, .advance 10, .pump, .resetHealth, marked .success,
          .advance 10, .pump]
      let warming := (Session.start metrics 0).run steps
      let full := (Session.start metrics 0).run (steps ++ [.advance 10, .pump])
      create "orders" config 0 = .ok metrics
        ∧ warming.closedSince = 1 ∧ warming.metrics.rollingCounts.count .failure = 1
        ∧ full.closedSince = 2 ∧ full.metrics.rollingCounts.count .success = 1
        ∧ full.metrics.totalCounts.count .failure = 1
        ∧ Agrees 2 (.start metrics 0) steps
        ∧ Agrees 2 (.start metrics 0) (steps ++ [.advance 10, .pump]) := by
  intro config metrics marked steps warming full
  have created
      : create "orders" { rollingWindow := 20, sliceCount := 2, busCapacity := 8 } 0
        = .ok metrics := rfl
  exact ⟨created, by decide, by decide +kernel, by decide, by decide +kernel, by decide +kernel,
    health_agrees_with_counts created steps, health_agrees_with_counts created _⟩

end Metrics

end Breakwater
