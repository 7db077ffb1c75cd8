import Breakwater.Bus
import Breakwater.Clock
import Breakwater.Proofs.Stream.Placing

/-! Runs of a stream of slices: events are published on its bus, time passes, the stream is pumped,
sinks come and start afresh, in any order. What the steps of a run bring is gathered along it.
-/

namespace Breakwater

variable {ε β σ γ : Type}

namespace SliceStream

/-- A stream in use. -/
structure Session (ε β σ : Type) where
  clock : Clock
  bus : Bus ε
  /-- The subscription that feeds the stream. -/
  source : Nat
  stream : SliceStream β
  /-- Who is handed the closed slices, in the order in which they came. -/
  sinks : List σ

/-- One thing that can happen to a stream. -/
inductive Step (ε σ : Type) where
  | publish (event : ε)
  | advance (millis : Nat)
  | setClock (millis : Nat)
  | pump
  | addSink (sink : σ)
  /-- The sink at a place starts afresh. -/
  | reset (place : Nat)

/-- What a sink does with the slices that it is handed. -/
structure Handling (β σ : Type) where
  receive : σ → β → σ
  /-- The sink starts afresh. -/
  reset : σ → σ

/-- How a stream takes in events and closes slices, and what its sinks do with these. -/
structure Setup (ε β σ : Type) extends Handling β σ where
  pump : SliceStream β → List ε → Nat → SliceStream β × List β

/-- A session in which a stream cuts events into slices. -/
def Setup.cutting (rule : SliceRule ε β) (handling : Handling β σ) : Setup ε β σ :=
  { handling with pump := SliceStream.pump rule }

namespace Session

/-- A stream opened at some moment on a bus of its own, which nobody is listening to yet. -/
def opening (rule : SliceRule ε β) (capacity sliceCount duration created : Nat)
    : Session ε β σ where
  clock := ⟨created⟩
  bus := (Bus.empty capacity).subscribe.2
  source := (Bus.empty capacity : Bus ε).subscribe.1
  stream := .opening rule sliceCount duration created
  sinks := []

variable (setup : Setup ε β σ) (session : Session ε β σ)

/-- The events that a pump would find. -/
def waiting : List ε := session.bus.pending session.source

/-- What a pump does to the stream, with the slices that it hands on. -/
def pumped : SliceStream β × List β :=
  setup.pump session.stream session.waiting session.clock.now

/-- Take one step. -/
def step : Step ε σ → Session ε β σ
  | .publish event => { session with bus := session.bus.publish event }
  | .advance millis => { session with clock := session.clock.advance millis }
  | .setClock millis => { session with clock := session.clock.set millis }
  | .pump =>
      let (stream, slices) := session.pumped setup
      { session with
        bus := (session.bus.drain session.source).2
        stream
        sinks := session.sinks.map (slices.foldl setup.receive) }
  | .addSink sink => { session with sinks := session.sinks ++ [sink] }
  | .reset place => { session with sinks := session.sinks.modify place setup.reset }

/-- Take steps in order. -/
def run (steps : List (Step ε σ)) : Session ε β σ := steps.foldl (step setup) session

/-- What the steps of a run bring, one after the other. -/
def gathered (brings : Session ε β σ → Step ε σ → List γ) (session : Session ε β σ)
    : List (Step ε σ) → List γ
  | [] => []
  | first :: rest => brings session first ++ gathered brings (session.step setup first) rest

/-- The slices that a step hands on. -/
def handsOn : Step ε σ → List β
  | .pump => (session.pumped setup).2
  | _ => []

/-- The slices handed on in a run, the first one first. -/
def emitted (steps : List (Step ε σ)) : List β := session.gathered setup (handsOn setup) steps

/-- What a step answers: a pump says how many slices it has handed on. -/
def answer : Step ε σ → List Nat
  | .pump => [(session.pumped setup).2.length]
  | _ => []

/-- The answers to all pumps of a run. -/
def answers (steps : List (Step ε σ)) : List Nat := session.gathered setup (answer setup) steps

/-- The event that a step puts into the queue of the stream. -/
def queues : Step ε σ → List ε
  | .publish event => if session.waiting.length < session.bus.capacity then [event] else []
  | _ => []

/-- The events that a step takes out of the queue. -/
def drains : Step ε σ → List ε
  | .pump => session.waiting
  | _ => []

/-- The events that the pumps of a run took out of the queue, in order. -/
def drained (steps : List (Step ε σ)) : List ε := session.gathered setup drains steps

/-- The events of a run that found room in the queue of the stream. -/
def queued (steps : List (Step ε σ)) : List ε := session.gathered setup queues steps

-----------------------------------------------------------------------------------------
-- Along a run
-----------------------------------------------------------------------------------------

variable {session}

@[simp]
theorem run_nothing : session.run setup [] = session := rfl

@[simp]
theorem run_first (first : Step ε σ) (rest : List (Step ε σ))
    : session.run setup (first :: rest) = (session.step setup first).run setup rest := rfl

@[simp]
theorem run_more (first rest : List (Step ε σ))
    : session.run setup (first ++ rest) = (session.run setup first).run setup rest :=
  List.foldl_append

theorem run_snoc (steps : List (Step ε σ)) (last : Step ε σ)
    : session.run setup (steps ++ [last]) = (session.run setup steps).step setup last :=
  run_more setup steps [last]

theorem gathered_append (brings : Session ε β σ → Step ε σ → List γ)
    (first rest : List (Step ε σ))
    : session.gathered setup brings (first ++ rest)
      = session.gathered setup brings first
        ++ (session.run setup first).gathered setup brings rest := by
  induction first generalizing session with
  | nil => rfl
  | cons step others ih => simp [gathered, ih]

theorem gathered_snoc (brings : Session ε β σ → Step ε σ → List γ)
    (steps : List (Step ε σ)) (last : Step ε σ)
    : session.gathered setup brings (steps ++ [last])
      = session.gathered setup brings steps ++ brings (session.run setup steps) last := by
  simp [gathered_append, gathered]

-----------------------------------------------------------------------------------------
-- The queue and the sinks
-----------------------------------------------------------------------------------------

/-- The stream is the only subscriber of its bus. -/
def Listening (session : Session ε β σ) : Prop :=
  session.bus.subscribers = [⟨session.source, true, session.waiting⟩]

theorem listening_opening (rule : SliceRule ε β) (capacity sliceCount duration created : Nat)
    : Listening (opening rule capacity sliceCount duration created : Session ε β σ) := rfl

theorem waiting_eq {events : List ε}
    (subscribers : session.bus.subscribers = [⟨session.source, true, events⟩])
    : session.waiting = events := by
  simp [waiting, Bus.pending, Bus.subscriber?, subscribers]

/-- What a step takes out of the queue and what it leaves there is what was there and what it
puts in.
-/
theorem Listening.step (listening : session.Listening) (step : Step ε σ)
    : (session.step setup step).Listening
      ∧ session.drains step ++ (session.step setup step).waiting
        = session.waiting ++ session.queues step := by
  have known : session.bus.subscribers = [⟨session.source, true, session.waiting⟩] := listening
  have holds {other : Session ε β σ} {events : List ε} (source : other.source = session.source)
      (subscribers : other.bus.subscribers = [⟨session.source, true, events⟩])
      : other.Listening ∧ other.waiting = events := by
    rw [← source] at subscribers
    have same := waiting_eq subscribers
    exact ⟨by rw [Listening, same, subscribers], same⟩
  cases step with
  | publish event =>
      refine holds rfl ?_
      by_cases room : session.waiting.length < session.bus.capacity
      · simp [Session.step, Bus.publish, known, Bus.offer, Bus.hasRoom, queues, room]
      · simp [Session.step, Bus.publish, known, Bus.offer, Bus.hasRoom, queues, room]
  | pump =>
      have emptied
          : (session.bus.drain session.source).2.subscribers = [⟨session.source, true, []⟩] := by
        simp [Bus.drain, Bus.setPending, known]
      obtain ⟨still, nothing⟩ := @holds (session.step setup .pump) [] rfl emptied
      exact ⟨still, by simp [drains, queues, nothing]⟩
  | _ => exact ⟨known, (List.append_nil _).symm⟩

/-- The events that were queued in a run are those that were drained and those that still wait. -/
theorem Listening.run (listening : session.Listening) (steps : List (Step ε σ))
    : (session.run setup steps).Listening
      ∧ session.drained setup steps ++ (session.run setup steps).waiting
        = session.waiting ++ session.queued setup steps := by
  induction steps generalizing session with
  | nil => exact ⟨listening, (List.append_nil _).symm⟩
  | cons first rest ih =>
      obtain ⟨still, moved⟩ := listening.step setup first
      obtain ⟨after, more⟩ := ih still
      refine ⟨after, ?_⟩
      simp only [drained, queued, gathered, run_first] at more ⊢
      rw [List.append_assoc, more, ← List.append_assoc, moved, List.append_assoc]

/-- A sink that does not start afresh is handed what the stream hands on, and nothing else. -/
theorem sink_step {place : Nat} {sink : σ} (found : session.sinks[place]? = some sink)
    {step : Step ε σ} (other : step ≠ .reset place)
    : (session.step setup step).sinks[place]?
      = some ((session.handsOn setup step).foldl setup.receive sink) := by
  cases step with
  | pump => simp [Session.step, handsOn, found]
  | addSink added =>
      have inside := (List.getElem?_eq_some_iff.mp found).1
      simpa [Session.step, handsOn, List.getElem?_append_left inside] using found
  | reset index =>
      have elsewhere : index ≠ place := fun same => other (same ▸ rfl)
      simpa [Session.step, handsOn, List.getElem?_modify, elsewhere] using found
  | _ => exact found

theorem sink_run {place : Nat} {sink : σ} (found : session.sinks[place]? = some sink)
    {steps : List (Step ε σ)} (keeps : .reset place ∉ steps)
    : (session.run setup steps).sinks[place]?
      = some ((session.emitted setup steps).foldl setup.receive sink) := by
  induction steps generalizing session sink with
  | nil => exact found
  | cons first rest ih =>
      have other : first ≠ .reset place := fun same => keeps (same ▸ List.mem_cons_self)
      have onward := ih (sink_step setup found other)
        fun later => keeps (List.mem_cons_of_mem _ later)
      simpa [emitted, gathered, List.foldl_append] using onward

-----------------------------------------------------------------------------------------
-- The open slice
-----------------------------------------------------------------------------------------

variable (rule : SliceRule ε β) (handling : Handling β σ)

theorem onward_step (session : Session ε β σ) (positive : 0 < session.stream.duration)
    (step : Step ε σ)
    : Onward session.stream (session.step (.cutting rule handling) step).stream := by
  cases step with
  | pump => exact (onward_absorbAll rule positive _).1.trans (onward_pump rule positive _ _).1
  | _ => exact .refl _

theorem onward_run (session : Session ε β σ) (positive : 0 < session.stream.duration)
    (steps : List (Step ε σ))
    : Onward session.stream (session.run (.cutting rule handling) steps).stream := by
  induction steps generalizing session with
  | nil => exact .refl _
  | cons first rest ih =>
      have moved := onward_step rule handling session positive first
      exact moved.trans (ih _ (moved.duration ▸ positive))

end Session

end SliceStream

end Breakwater
