import Breakwater.Proofs.Stream.Window
import Breakwater.Stream.Rolling
import Breakwater.Stream.Running

/-! Windows and totals have in common that they are pushed slices, sum them up and tell their
observers.
-/

namespace Breakwater.SliceStream

variable {β α : Type}

/-- A window or a total, with the rule by which it sums up slices. -/
inductive Sink (β α : Type) where
  | window (rule : SummaryRule β α) (rolling : RollingWindow β α)
  | total (rule : SummaryRule β α) (running : RunningTotal α)

namespace Sink

/-- Take in a slice. -/
def receive : Sink β α → β → Sink β α
  | .window rule rolling, slice => .window rule (rolling.push rule slice)
  | .total rule running, slice => .total rule (running.push rule slice)

/-- A window forgets its slices; a total is never started afresh. -/
def reset : Sink β α → Sink β α
  | .window rule rolling => .window rule rolling.reset
  | .total rule running => .total rule running

/-- What is reported. -/
def latest : Sink β α → Option α
  | .window rule rolling => rolling.latest rule
  | .total _ running => running.latest

def observers : Sink β α → Bus α
  | .window _ rolling => rolling.observers
  | .total _ running => running.observers

/-- The same sink after its observers took something or gave up. -/
def withObservers : Sink β α → Bus α → Sink β α
  | .window rule rolling, observers => .window rule { rolling with observers }
  | .total rule running, observers => .total rule { running with observers }

/-- Receive the summaries from now on. -/
def observe : Sink β α → Nat × Sink β α
  | .window rule rolling =>
      let (id, rolling) := rolling.observe
      (id, .window rule rolling)
  | .total rule running =>
      let (id, running) := running.observe
      (id, .total rule running)

theorem foldl_receive_window (rule : SummaryRule β α) (rolling : RollingWindow β α)
    (slices : List β)
    : slices.foldl receive (.window rule rolling)
      = .window rule (slices.foldl (RollingWindow.push rule) rolling) := by
  induction slices generalizing rolling with
  | nil => rfl
  | cons first rest ih => exact ih _

theorem foldl_receive_total (rule : SummaryRule β α) (running : RunningTotal α) (slices : List β)
    : slices.foldl receive (.total rule running)
      = .total rule (slices.foldl (RunningTotal.push rule) running) := by
  induction slices generalizing running with
  | nil => rfl
  | cons first rest ih => exact ih _

variable (sink : Sink β α)

@[simp]
theorem observers_withObservers (observers : Bus α)
    : (sink.withObservers observers).observers = observers := by
  cases sink <;> rfl

theorem observe_eq
    : sink.observe
      = (sink.observers.nextId, sink.withObservers sink.observers.subscribe.2) := by
  cases sink <;> rfl

@[simp]
theorem observers_reset : sink.reset.observers = sink.observers := by
  cases sink <;> rfl

/-- What is reported is the summary of what was pushed, once there is enough of that. -/
def UpToDate : Sink β α → Prop
  | .window rule rolling => rolling.UpToDate rule
  | .total _ running => running.UpToDate

theorem upToDate_window (rule : SummaryRule β α) {size : Nat} (positive : 0 < size)
    : (Sink.window rule (.empty size)).UpToDate :=
  RollingWindow.upToDate_empty rule positive

theorem upToDate_total (rule : SummaryRule β α) (size : Nat)
    : (Sink.total rule (.empty rule size) : Sink β α).UpToDate :=
  RunningTotal.upToDate_empty rule size

namespace UpToDate

variable {sink} (upToDate : sink.UpToDate)
include upToDate

theorem receive (slice : β) : (sink.receive slice).UpToDate := by
  cases sink with
  | window rule rolling => exact RollingWindow.UpToDate.push upToDate slice
  | total rule running => exact RunningTotal.UpToDate.push rule upToDate slice

theorem receiveAll (slices : List β) : (slices.foldl Sink.receive sink).UpToDate := by
  induction slices generalizing sink with
  | nil => exact upToDate
  | cons first rest ih => exact ih (upToDate.receive first)

theorem reset : sink.reset.UpToDate := by
  cases sink with
  | window rule rolling => exact RollingWindow.UpToDate.reset upToDate
  | total rule running => exact upToDate

theorem withObservers (observers : Bus α) : (sink.withObservers observers).UpToDate := by
  cases sink with
  | window rule rolling => exact ⟨upToDate.positive, upToDate.last⟩
  | total rule running => exact upToDate

/-- After a slice the observers are told what is reported then, if anything is. -/
theorem observers_receive (slice : β)
    : (sink.receive slice).observers
      = (sink.receive slice).latest.elim sink.observers sink.observers.publish := by
  cases sink with
  | window rule rolling => exact RollingWindow.UpToDate.observers_push upToDate slice
  | total rule running => exact RunningTotal.UpToDate.observers_push rule upToDate slice

end UpToDate

end Sink

end Breakwater.SliceStream
