import Breakwater.Proofs.Metrics.Collected
import Breakwater.Proofs.Tally

/-! What the health of one key shows: the requests and errors of the window's slices, once as many
slices have ended since the health last started afresh.
-/

namespace Breakwater

-----------------------------------------------------------------------------------------
-- Requests and errors
-----------------------------------------------------------------------------------------

namespace CompletionEvent

/-- Whether the command counts as a request in the health. -/
def countsTowardHealth (event : CompletionEvent) : Bool :=
  event.record.tags.present.any Tag.countsTowardHealth

/-- Whether the command counts as an error in the health. -/
def isHealthError (event : CompletionEvent) : Bool :=
  event.record.tags.present.any Tag.isHealthError

theorem countsTowardHealth_of_isHealthError {event : CompletionEvent}
    (error : event.isHealthError) : event.countsTowardHealth := by
  obtain ⟨tag, present, isError⟩ := List.any_eq_true.mp error
  refine List.any_eq_true.mpr ⟨tag, present, ?_⟩
  cases tag <;> first | rfl | exact absurd isError (by decide)

/-- The record counts once in the health at most. -/
structure CountedOnce (event : CompletionEvent) : Prop where
  requests
    : Health.requestsIn event.record.tags = if event.countsTowardHealth then 1 else 0
  errors : Health.errorsIn event.record.tags = if event.isHealthError then 1 else 0

end CompletionEvent

/-- The health that some completions make up, counted command by command. -/
def healthOf (events : List CompletionEvent) : Health :=
  .ofTotals (events.countP (·.countsTowardHealth)) (events.countP (·.isHealthError))

theorem amount_eq_countP {measure : Tally → Nat} {test : CompletionEvent → Bool}
    {events : List CompletionEvent}
    (once : ∀ event ∈ events, measure event.record.tags = if test event then 1 else 0)
    : amount measure events = events.countP test := by
  induction events with
  | nil => rfl
  | cons first rest ih =>
      have tail := ih (fun event member => once event (List.mem_cons_of_mem _ member))
      rw [amount, List.map_cons, List.sum_cons, once first List.mem_cons_self, List.countP_cons,
        ← amount, tail]
      omega

/-- Completions of which none counts make up no health. -/
theorem healthOf_append_eq_iff (events stale : List CompletionEvent)
    : healthOf (stale ++ events) = healthOf events
      ↔ ∀ event ∈ stale, event.countsTowardHealth = false := by
  have silent : stale.countP (·.countsTowardHealth) = 0
      ↔ ∀ event ∈ stale, event.countsTowardHealth = false := by
    simp [List.countP_eq_zero]
  rw [← silent, healthOf, healthOf, List.countP_append, List.countP_append]
  constructor
  · intro same
    have totals := congrArg Health.total same
    rw [Health.total_ofTotals, Health.total_ofTotals] at totals
    omega
  · intro none_counts
    have no_errors : stale.countP (·.isHealthError) = 0 := by
      rw [List.countP_eq_zero] at none_counts ⊢
      exact fun event member error =>
        none_counts event member (CompletionEvent.countsTowardHealth_of_isHealthError error)
    rw [none_counts, no_errors, Nat.zero_add, Nat.zero_add]

theorem sumOver_merge (left right : Tally) (tags : List Tag)
    : (left.merge right).sumOver tags = left.sumOver tags + right.sumOver tags := by
  induction tags with
  | nil => rfl
  | cons first rest ih =>
      rw [Tally.sumOver, ih, Tally.count_merge, Tally.sumOver, Tally.sumOver]
      omega

theorem Tally.Additive.sumWhere (test : Tag → Bool) : Additive (·.sumWhere test) where
  empty := Tally.sumOver_empty _
  merge left right := sumOver_merge left right _

theorem Health.foldl_plus (slices : List Tally) (total errors : Nat)
    : slices.foldl plus (ofTotals total errors)
      = ofTotals (total + (slices.map requestsIn).sum) (errors + (slices.map errorsIn).sum) := by
  induction slices generalizing total errors with
  | nil => rfl
  | cons first rest ih =>
      refine (ih (total + requestsIn first) (errors + errorsIn first)).trans ?_
      simp [Nat.add_assoc]

/-- Completions within a span show in it if they are kept. -/
theorem between_filter {from_ until_ : Nat} {events : List CompletionEvent}
    {kept : CompletionEvent → Bool}
    (own : ∀ event ∈ events, from_ ≤ event.completedAt → event.completedAt < until_
      → kept event = true)
    : between from_ until_ (events.filter kept) = between from_ until_ events := by
  rw [between, List.filter_filter, between]
  apply List.filter_congr
  intro event member
  by_cases within : from_ ≤ event.completedAt ∧ event.completedAt < until_
  · rw [own event member within.1 within.2, Bool.and_true]
  · have outside : (decide (from_ ≤ event.completedAt) && decide (event.completedAt < until_))
        = false := by
      simpa using within
    rw [outside, Bool.false_and]

-----------------------------------------------------------------------------------------
-- The window of the health
-----------------------------------------------------------------------------------------

namespace Metrics

/-- The health holds the latest of the slices that were handed on from one number on. Of the
completions taken in, those from that slice on are cut into these slices.
-/
structure HealthSince (since present : Nat) (taken : List CompletionEvent) (metrics : Metrics)
    : Prop where
  handedOn
    : ∃ emitted,
        SliceStream.Cut completionSlices since present
            (taken.filter (fun event => since ≤ event.completedAt / metrics.slices.duration))
            emitted metrics.slices
          ∧ metrics.health.Holds healthSummary metrics.slices.sliceCount emitted

variable {since present : Nat} {taken : List CompletionEvent} {metrics : Metrics}

theorem HealthSince.congr {other : Metrics} (holds : HealthSince since present taken metrics)
    (slices : other.slices = metrics.slices) (health : other.health = metrics.health)
    : HealthSince since present taken other := by
  obtain ⟨handedOn⟩ := holds
  rw [← health, ← slices] at handedOn
  exact ⟨handedOn⟩

/-- A health that starts afresh holds slices from the open one on. -/
theorem HealthSince.resetHealth (holds : HealthSince since present taken metrics)
    : HealthSince present present taken metrics.resetHealth := by
  obtain ⟨emitted, cut, window⟩ := holds
  refine ⟨[], ?_, window.reset⟩
  have restarted := cut.restart
  have refiltered
      : (taken.filter (fun event => since ≤ event.completedAt / metrics.slices.duration)).filter
            (fun event => present ≤ completionSlices.stamp event / metrics.slices.duration)
        = taken.filter (fun event => present ≤ event.completedAt / metrics.slices.duration) := by
    rw [List.filter_filter]
    apply List.filter_congr
    intro event _
    have reached := cut.reached
    rw [Bool.eq_iff_iff, Bool.and_eq_true, decide_eq_true_eq, decide_eq_true_eq, decide_eq_true_eq]
    exact ⟨And.left, fun late => ⟨late, Nat.le_trans reached late⟩⟩
  rwa [refiltered] at restarted

/-- A pump hands on what has ended to the health as well. -/
theorem HealthSince.pump (holds : HealthSince since present taken metrics) {now : Nat}
    (sorted
      : (metrics.bus.pending metrics.source).Pairwise
          (fun left right => left.completedAt ≤ right.completedAt))
    (inTime : ∀ event ∈ metrics.bus.pending metrics.source,
      metrics.slices.start ≤ event.completedAt)
    (reached : metrics.slices.start ≤ now)
    (past : ∀ event ∈ metrics.bus.pending metrics.source, event.completedAt ≤ now)
    : HealthSince since (now / metrics.slices.duration)
        (taken ++ metrics.bus.pending metrics.source) (metrics.pump now).2 := by
  obtain ⟨emitted, cut, window⟩ := holds
  obtain ⟨pumped, _, duration, sliceCount⟩ := cut.pump sorted inTime reached past
  let pending := metrics.bus.pending metrics.source
  let drained := { metrics with
    bus := (metrics.bus.drain metrics.source).2
    slices := (metrics.slices.pump completionSlices pending now).1 }
  let closed := (metrics.slices.pump completionSlices pending now).2
  have same : (metrics.pump now).2 = closed.foldl pushSlice drained := rfl
  have pushed := window.pushAll closed
  have kept
      : (taken ++ pending).filter (fun event => since ≤ event.completedAt / metrics.slices.duration)
        = taken.filter (fun event => since ≤ event.completedAt / metrics.slices.duration)
          ++ pending := by
    rw [List.filter_append]
    congr 1
    apply List.filter_eq_self.mpr
    intro event member
    have present_le := (cut.start_le_iff event.completedAt).mp (inTime event member)
    exact decide_eq_true (Nat.le_trans cut.reached present_le)
  rw [same, foldl_pushSlice]
  refine ⟨emitted ++ closed, ?_, ?_⟩
  · dsimp only
    rw [duration, kept]
    exact pumped
  · rw [← sliceCount] at pushed
    exact pushed

/-- What the health shows of completions that count once each: those of the window's slices, once so
many slices have ended since it started afresh.
-/
theorem HealthSince.healthCounts (holds : HealthSince since present taken metrics)
    (once : ∀ event ∈ taken, event.CountedOnce)
    : metrics.healthCounts
      = if since + metrics.slices.sliceCount ≤ present then
          healthOf
            (between ((present - metrics.slices.sliceCount) * metrics.slices.duration)
              (present * metrics.slices.duration) taken)
        else .empty := by
  obtain ⟨emitted, cut, window⟩ := holds
  rw [Metrics.healthCounts, cut.latestOrBlank_eq window]
  split
  · rename_i full
    have summed {measure : Tally → Nat} (additive : Tally.Additive measure)
        : ((SliceStream.contents completionSlices metrics.slices.duration
              (taken.filter (fun event => since ≤ event.completedAt / metrics.slices.duration))
              (present - metrics.slices.sliceCount) present).map measure).sum
          = amount measure
              (between ((present - metrics.slices.sliceCount) * metrics.slices.duration)
                (present * metrics.slices.duration) taken) := by
      rw [additive.sum_contents cut.positive _ (Nat.sub_le _ _), between_filter]
      intro event _ lower _
      have slice := (Nat.le_div_iff_mul_le cut.positive).mpr lower
      exact decide_eq_true (by omega)
    have requests : Tally.Additive Health.requestsIn := .sumWhere Tag.countsTowardHealth
    have errors : Tally.Additive Health.errorsIn := .sumWhere Tag.isHealthError
    have listed {from_ until_ : Nat} (event : CompletionEvent)
        (member : event ∈ between from_ until_ taken) : event.CountedOnce :=
      once event (List.mem_filter.mp member).1
    refine (Health.foldl_plus _ 0 0).trans ?_
    rw [Nat.zero_add, Nat.zero_add, summed requests, summed errors, healthOf,
      amount_eq_countP (fun event member => (listed event member).requests),
      amount_eq_countP (fun event member => (listed event member).errors)]
  · rfl

end Metrics

end Breakwater
