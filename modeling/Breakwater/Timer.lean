import Breakwater.Error
import Breakwater.Text.Record

/-!
A timer runs each registered listener once, when its deadline has passed, unless it is
cancelled first. Registrations live in slots that are used again; a slot's generation grows
whenever it is given back, so that a token of an earlier use no longer matches.
-/

namespace Breakwater

/-- Place of one registration: a slot and the slot's generation at the time. -/
structure TimerToken where
  index : Nat
  generation : Nat
  deriving DecidableEq, Repr, Inhabited

/-- What became of a registration. -/
inductive Registration where
  | armed
  | fired
  | cancelled
  deriving DecidableEq, Repr, Inhabited

/-- The holder's side of a registration. -/
structure TimerHandle where
  token : TimerToken
  /-- Number of the registration, in order of registering. -/
  number : Nat
  deriving DecidableEq, Repr, Inhabited

/-- One slot, with the registration that used it last. -/
structure TimerSlot (ι : Type) where
  generation : Nat
  number : Nat
  /-- The listener while the registration is armed. -/
  listener : Option ι
  deriving DecidableEq, Repr

/-- A moment at which a registration is due. -/
structure Deadline where
  due : Nat
  token : TimerToken
  deriving DecidableEq, Repr, Inhabited

/-- Whether a registration comes before another one: it is due earlier, or at the same moment in an
earlier slot, or in an earlier use of the same slot.
-/
def Deadline.isBefore (left right : Deadline) : Bool :=
  left.due < right.due
    || left.due == right.due
      && (left.token.index < right.token.index
        || left.token.index == right.token.index
          && left.token.generation < right.token.generation)

/-- A timer with listeners of type `ι`. -/
structure Timer (ι : Type) where
  name : String
  isShutdown : Bool
  slots : List (TimerSlot ι)
  /-- Slots not in use, the most recently freed first. -/
  free : List Nat
  /-- Deadlines, the next one first; some may belong to registrations that are gone. -/
  deadlines : List Deadline
  /-- What became of every registration so far, by its number. -/
  registrations : List Registration
  deriving DecidableEq, Repr

namespace Timer

variable {ι : Type}

/-- A timer without registrations. -/
def create (name : String) : Timer ι := ⟨name, false, [], [], [], []⟩

instance : Inhabited (Timer ι) := ⟨create ""⟩

/-- Registrations that are armed. -/
def pending (timer : Timer ι) : Nat := timer.slots.length - timer.free.length

/-- The registrations' deadlines with one more, after those that come before it. -/
def insertDeadline (deadline : Deadline) (deadlines : List Deadline) : List Deadline :=
  deadlines.takeWhile (·.isBefore deadline) ++ deadline
    :: deadlines.dropWhile (·.isBefore deadline)

/-- Put a listener into the most recently freed slot, or else into a new one. -/
def allocate (timer : Timer ι) (listener : ι) : TimerHandle × Timer ι :=
  let number := timer.registrations.length
  let registrations := timer.registrations ++ [.armed]
  match timer.free with
  | index :: free =>
      let generation := (timer.slots[index]?.map (·.generation)).getD 0
      let slots := timer.slots.set index ⟨generation, number, some listener⟩
      (⟨⟨index, generation⟩, number⟩, { timer with slots, free, registrations })
  | [] =>
      let index := timer.slots.length
      let slots := timer.slots ++ [⟨0, number, some listener⟩]
      (⟨⟨index, 0⟩, number⟩, { timer with slots, registrations })

/-- Register a listener for a deadline; a timer that is shut down takes none. -/
def register (timer : Timer ι) (listener : ι) (due : Nat)
    : Except TimerError (TimerHandle × Timer ι) :=
  if timer.isShutdown then .error (.shutdown timer.name)
  else
    let (handle, taken) := timer.allocate listener
    .ok (handle, { taken with
      deadlines := insertDeadline ⟨due, handle.token⟩ taken.deadlines })

/-- The slot of a token, unless it was given back since. -/
def slot? (timer : Timer ι) (token : TimerToken) : Option (TimerSlot ι) :=
  match timer.slots[token.index]? with
  | some slot => if slot.generation = token.generation then some slot else none
  | none => none

/-- Give the slot of a token back; a token of an earlier generation matches none. -/
def release (timer : Timer ι) (token : TimerToken) : Timer ι :=
  match timer.slot? token with
  | none => timer
  | some slot => { timer with
      slots := timer.slots.set token.index ⟨slot.generation + 1, slot.number, none⟩
      free := token.index :: timer.free }

/-- What became of a registration. -/
def registration (timer : Timer ι) (handle : TimerHandle) : Registration :=
  (timer.registrations[handle.number]?).getD .armed

/-- Disarm a registration; answers whether it was armed. -/
def cancel (timer : Timer ι) (handle : TimerHandle) : Bool × Timer ι :=
  match timer.registrations[handle.number]? with
  | some .armed =>
      let registrations := timer.registrations.set handle.number .cancelled
      (true, { timer with registrations }.release handle.token)
  | _ => (false, timer)

/-- Fire the armed registration of a token: its slot is given back and its listener returned.
A timer that is shut down fires nothing.
-/
def fire? (timer : Timer ι) (token : TimerToken) : Option (ι × Timer ι) :=
  if timer.isShutdown then none
  else do
    let slot ← timer.slot? token
    let listener ← slot.listener
    return (listener, { timer with
      registrations := timer.registrations.set slot.number .fired }.release token)

/-- Go through deadlines in order up to the first armed one before the horizon. -/
def fireFirst? (timer : Timer ι) (horizon : Nat) : List Deadline → Option (ι × Timer ι)
  | [] => none
  | deadline :: rest =>
      if deadline.due < horizon then
        match timer.fire? deadline.token with
        | some (listener, fired) => some (listener, { fired with deadlines := rest })
        | none => fireFirst? timer horizon rest
      else none

/-- Fire the armed registration that is due first, if one is due before the horizon. -/
def fireNext? (timer : Timer ι) (horizon : Nat) : Option (ι × Timer ι) :=
  timer.fireFirst? horizon timer.deadlines

/-- The armed listeners, in order of registering. -/
def armed (timer : Timer ι) : List ι :=
  let held := timer.slots.filterMap fun slot => slot.listener.map (slot.number, ·)
  (held.mergeSort (fun left right => left.1 ≤ right.1)).map (·.2)

/-- Stop the timer; nothing that is armed fires any more. -/
def shutdown (timer : Timer ι) : Timer ι := { timer with isShutdown := true }

def describe (timer : Timer ι) : String :=
  Text.record "SharedTimer" [
    ("name", Text.quoted timer.name),
    ("pending", toString timer.pending)
  ]

/-- Description of a registration from its holder's side. -/
def describeHandle (timer : Timer ι) (handle : TimerHandle) : String :=
  Text.record "TimerHandle" [
    ("token", Text.record "TimerToken" [
      ("index", toString handle.token.index),
      ("generation", toString handle.token.generation)]),
    ("fired", toString (timer.registration handle == .fired)),
    ("cancelled", toString (timer.registration handle == .cancelled))
  ]

end Timer

end Breakwater
