import Breakwater.Semaphore

/-! A semaphore and its permits through any history. How many places are taken is kept with the
semaphore, whether a permit has given its place back is kept with the permit. The two agree, so that
no place is given back twice and none is lost.
-/

namespace Breakwater.Semaphore

/-- A permit that was granted, and what its holder has done with it. -/
structure Holding where
  permit : Permit
  released : Bool
  dropped : Bool
  deriving DecidableEq

/-- Whether a permit was neither released nor dropped. -/
def Holding.isHeld (holding : Holding) : Bool := !holding.released && !holding.dropped

/-- A semaphore with all permits it has ever granted, the first one first. -/
structure Session where
  semaphore : Semaphore
  holdings : List Holding

namespace Session

/-- One thing that can happen to a semaphore. Permits go by their number. -/
inductive Step where
  | acquire
  /-- The holder of a permit releases it, for the first time or once more. -/
  | release (number : Nat)
  | drop (number : Nat)

/-- The permit that a step gives up. -/
def Step.permit? : Step → Option Nat
  | .acquire => none
  | .release number => some number
  | .drop number => some number

/-- A semaphore that has granted nothing yet. -/
def start (semaphore : Semaphore) : Session := ⟨semaphore, []⟩

variable (session : Session)

/-- Take one step. Nothing can be done with a permit that was dropped. -/
def step : Step → Session
  | .acquire =>
      match session.semaphore.tryAcquire with
      | none => session
      | some (permit, semaphore) => ⟨semaphore, session.holdings ++ [⟨permit, false, false⟩]⟩
  | .release number =>
      match session.holdings[number]? with
      | none => session
      | some holding =>
          if holding.dropped then session
          else
            let (permit, semaphore) := session.semaphore.release holding.permit
            ⟨semaphore, session.holdings.set number { holding with permit, released := true }⟩
  | .drop number =>
      match session.holdings[number]? with
      | none => session
      | some holding =>
          if holding.dropped then session
          else
            ⟨session.semaphore.drop holding.permit,
              session.holdings.set number { holding with dropped := true }⟩

/-- Take steps in order. -/
def run (steps : List Step) : Session := steps.foldl step session

/-- Permits that were neither released nor dropped. -/
def held : Nat := session.holdings.countP (·.isHeld)

/-- Whether a permit was granted, and released or dropped since. -/
def gaveUp (number : Nat) : Bool := session.holdings[number]?.any (!·.isHeld)

/-- By how much the steps that give up one permit lower the number of places taken. -/
def lowered (number : Nat) : Session → List Step → Int
  | _, [] => 0
  | session, first :: rest =>
      let next := session.step first
      (if first.permit? = some number then
        (session.semaphore.acquired : Int) - next.semaphore.acquired
      else 0) + lowered number next rest

-----------------------------------------------------------------------------------------
-- What a step does
-----------------------------------------------------------------------------------------

/-- The semaphore counts the permits that are held, and each permit knows whether it is one. -/
structure Sound (limit : Nat) : Prop where
  limited : session.semaphore.limit = limit
  counted : session.semaphore.acquired = session.held
  within : session.semaphore.acquired ≤ limit
  marked
    : ∀ holding ∈ session.holdings,
        holding.dropped = false → holding.permit.released = holding.released

/-- What a step can do. -/
inductive Effect (session : Session) : Step → Session → Prop where
  | granted (room : session.semaphore.acquired < session.semaphore.limit)
      : Effect session .acquire
          ⟨{ session.semaphore with acquired := session.semaphore.acquired + 1 },
            session.holdings ++ [⟨⟨false⟩, false, false⟩]⟩
  | refused (full : session.semaphore.limit ≤ session.semaphore.acquired)
      : Effect session .acquire session
  | nothing {step : Step} {number : Nat} (own : step.permit? = some number)
      : Effect session step session
  /-- A permit that is held gives its place back, one that is not has none any more. -/
  | gaveUp {step : Step} {number : Nat} {holding after : Holding}
      (own : step.permit? = some number)
      (found : session.holdings[number]? = some holding)
      (ended : after.isHeld = false)
      (marked : after.dropped = false → after.permit.released = after.released)
      : Effect session step
          ⟨if holding.isHeld then session.semaphore.giveBack else session.semaphore,
            session.holdings.set number after⟩

variable {session} {after : Session} {limit : Nat}

theorem Sound.effect_step (sound : session.Sound limit) (step : Step)
    : session.Effect step (session.step step) := by
  cases step with
  | acquire =>
      simp only [Session.step, tryAcquire]
      by_cases room : session.semaphore.acquired < session.semaphore.limit
      · simp only [if_pos room]
        exact .granted room
      · simp only [if_neg room]
        exact .refused (Nat.le_of_not_lt room)
  | release number =>
      simp only [Session.step]
      cases found : session.holdings[number]? with
      | none => exact .nothing rfl
      | some holding =>
          obtain ⟨⟨flag⟩, released, dropped⟩ := holding
          cases dropped with
          | true => exact .nothing rfl
          | false =>
              have marked : flag = released :=
                sound.marked _ (List.mem_of_getElem? found) rfl
              subst marked
              have own : (Step.release number).permit? = some number := rfl
              cases flag <;> exact .gaveUp own found rfl fun _ => rfl
  | drop number =>
      simp only [Session.step]
      cases found : session.holdings[number]? with
      | none => exact .nothing rfl
      | some holding =>
          obtain ⟨⟨flag⟩, released, dropped⟩ := holding
          cases dropped with
          | true => exact .nothing rfl
          | false =>
              have marked : flag = released :=
                sound.marked _ (List.mem_of_getElem? found) rfl
              subst marked
              have own : (Step.drop number).permit? = some number := rfl
              cases flag <;> exact .gaveUp own found rfl nofun

-----------------------------------------------------------------------------------------
-- Runs
-----------------------------------------------------------------------------------------

theorem sound_start {semaphore : Semaphore} (unused : semaphore.acquired = 0)
    : (start semaphore).Sound semaphore.limit where
  limited := rfl
  counted := unused
  within := unused ▸ Nat.zero_le _
  marked holding member := by cases member

/-- A permit that is held is one of those that are counted. -/
theorem Sound.acquired_pos (sound : session.Sound limit) {number : Nat} {holding : Holding}
    (found : session.holdings[number]? = some holding) (isHeld : holding.isHeld = true)
    : 0 < session.semaphore.acquired := by
  rw [sound.counted]
  exact List.countP_pos_iff.mpr ⟨holding, List.mem_of_getElem? found, isHeld⟩

/-- What is counted after a permit was given up. -/
theorem held_set {number : Nat} {holding next : Holding}
    (found : session.holdings[number]? = some holding) (ended : next.isHeld = false)
    : (session.holdings.set number next).countP (·.isHeld)
      = session.held - holding.isHeld.toNat := by
  obtain ⟨inside, rfl⟩ := List.getElem?_eq_some_iff.mp found
  rw [List.countP_set inside, ended]
  cases session.holdings[number].isHeld <;> rfl

theorem Sound.effect (sound : session.Sound limit) {step : Step}
    (effect : session.Effect step after) : after.Sound limit := by
  cases effect with
  | granted room =>
      refine ⟨sound.limited, ?_, sound.limited ▸ room, ?_⟩
      · show session.semaphore.acquired + 1 = List.countP _ (session.holdings ++ [_])
        rw [List.countP_append, sound.counted]
        rfl
      · intro holding member
        rcases List.mem_append.mp member with old | new
        · exact sound.marked holding old
        · rw [List.mem_singleton.mp new]
          exact fun _ => rfl
  | refused => exact sound
  | nothing => exact sound
  | @gaveUp _ number holding next own found ended marked =>
      have marks : ∀ other ∈ session.holdings.set number next,
          other.dropped = false → other.permit.released = other.released := by
        intro other member
        rcases List.mem_or_eq_of_mem_set member with old | rfl
        · exact sound.marked other old
        · exact marked
      have counted := held_set found ended
      cases isHeld : holding.isHeld with
      | false =>
          rw [isHeld] at counted
          exact ⟨sound.limited, sound.counted.trans counted.symm, sound.within, marks⟩
      | true =>
          rw [isHeld] at counted
          refine ⟨sound.limited, ?_, Nat.le_trans (Nat.sub_le _ _) sound.within, marks⟩
          exact (congrArg (· - 1) sound.counted).trans counted.symm

theorem Sound.run (sound : session.Sound limit) (steps : List Step)
    : (session.run steps).Sound limit := by
  induction steps generalizing session with
  | nil => exact sound
  | cons first rest ih => exact ih (sound.effect (sound.effect_step first))

/-- A step on a permit lowers the number of places taken by one if it is the first that gives the
permit up, and a step on another one says nothing of it.
-/
theorem Sound.lowered_step (sound : session.Sound limit) {step : Step}
    (effect : session.Effect step after) (number : Nat)
    : (if step.permit? = some number then
        (session.semaphore.acquired : Int) - after.semaphore.acquired
      else 0)
      = (after.gaveUp number).toNat - (session.gaveUp number).toNat := by
  cases effect with
  | granted room =>
      have same : Session.gaveUp
            ⟨{ session.semaphore with acquired := session.semaphore.acquired + 1 },
              session.holdings ++ [⟨⟨false⟩, false, false⟩]⟩ number
          = session.gaveUp number := by
        simp only [gaveUp, List.getElem?_append]
        split
        · rfl
        · rename_i beyond
          rw [List.getElem?_eq_none (Nat.le_of_not_lt beyond)]
          cases number - session.holdings.length <;> rfl
      rw [same, Int.sub_self]
      rfl
  | refused => simp
  | nothing => simp
  | @gaveUp _ place holding next own found ended marked =>
      have inside := (List.getElem?_eq_some_iff.mp found).1
      rw [own]
      by_cases same : place = number
      · subst same
        have before : session.gaveUp place = !holding.isHeld := by
          simp [gaveUp, found]
        have later (semaphore : Semaphore)
            : Session.gaveUp ⟨semaphore, session.holdings.set place next⟩ place = true := by
          simp [gaveUp, inside, ended]
        rw [if_pos rfl, before, later]
        cases isHeld : holding.isHeld with
        | false => simp
        | true =>
            have taken := sound.acquired_pos found isHeld
            simp only [if_true, giveBack]
            show (session.semaphore.acquired : Int) - ((session.semaphore.acquired - 1 : Nat) : Int)
              = 1 - 0
            omega
      · have apart : some place ≠ some number := fun equal => same (Option.some.inj equal)
        simp [apart, gaveUp, List.getElem?_set_ne same]

/-- Over a whole run, a permit lowers the number of places taken by one if it was given up in the
run, and by nothing otherwise.
-/
theorem Sound.lowered_run (sound : session.Sound limit) (number : Nat) (steps : List Step)
    : lowered number session steps
      = ((session.run steps).gaveUp number).toNat - (session.gaveUp number).toNat := by
  induction steps generalizing session with
  | nil => exact (Int.sub_self _).symm
  | cons first rest ih =>
      have effect := sound.effect_step first
      have step := sound.lowered_step effect number
      calc lowered number session (first :: rest)
          = (((session.step first).gaveUp number).toNat - (session.gaveUp number).toNat : Int)
            + lowered number (session.step first) rest := congrArg (· + _) step
        _ = _ := by
            rw [ih (sound.effect effect)]
            show _ + (_ - _) = ((((session.step first).run rest).gaveUp number).toNat : Int) - _
            omega

/-- How the places of a semaphore and its permits belong together. -/
structure Conserves (session : Session) (limit : Nat) : Prop where
  /-- The places taken are those of the permits neither released nor dropped, and they are never
  more than there are.
  -/
  acquired : session.semaphore.acquired = session.held
  within : session.semaphore.acquired ≤ limit
  available : session.semaphore.available = limit - session.semaphore.acquired
  /-- Another one is granted exactly while there is room, and then takes one place. -/
  tryAcquire_iff
    : session.semaphore.tryAcquire.isSome ↔ session.semaphore.acquired < limit
  granted
    : session.semaphore.acquired < limit
        → (session.step .acquire).semaphore.acquired = session.semaphore.acquired + 1
          ∧ (session.step .acquire).holdings
            = session.holdings ++ [⟨⟨false⟩, false, false⟩]
  refused : limit ≤ session.semaphore.acquired → session.step .acquire = session

/-- Whatever happens to a semaphore and its permits, none is granted beyond the limit, and each that
was given up has given back one place, however often it was released before it was dropped.
-/
theorem conserves (name : String) {limit : Nat} (positive : 1 ≤ limit)
    : ∃ semaphore,
        Semaphore.create name limit = .ok semaphore
        ∧ ∀ steps,
            ((start semaphore).run steps).Conserves limit
            ∧ ∀ number,
                lowered number (start semaphore) steps
                = if ((start semaphore).run steps).gaveUp number then 1 else 0 := by
  refine ⟨⟨name, limit, 0⟩, if_neg (Nat.ne_of_gt positive), fun steps => ?_⟩
  have fresh : (start ⟨name, limit, 0⟩).Sound limit := sound_start rfl
  have sound := fresh.run steps
  refine ⟨?_, fun number => ?_⟩
  · generalize (start ⟨name, limit, 0⟩).run steps = session at sound
    refine ⟨sound.counted, sound.within, congrArg (· - _) sound.limited, ?_, ?_, ?_⟩
    · rw [← sound.limited]
      exact tryAcquire_isSome
    · intro room
      rw [← sound.limited] at room
      simp [step, tryAcquire, room]
    · intro full
      rw [← sound.limited] at full
      simp [step, tryAcquire, Nat.not_lt_of_le full]
  · rw [fresh.lowered_run number steps]
    have unknown : (start ⟨name, limit, 0⟩).gaveUp number = false := rfl
    rw [unknown]
    cases ((start ⟨name, limit, 0⟩).run steps).gaveUp number <;> rfl

/-- One permit of two is released twice and then dropped; its place can be had again. -/
theorem conserves_pair
    : ∃ semaphore,
        Semaphore.create "pair" 2 = .ok semaphore
        ∧ ((start semaphore).run
            [.acquire, .acquire, .acquire, .release 0, .release 0, .drop 0, .acquire]).Conserves 2
        ∧ lowered 0 (start semaphore)
            [.acquire, .acquire, .acquire, .release 0, .release 0, .drop 0, .acquire] = 1 := by
  obtain ⟨semaphore, created, all⟩ := conserves "pair" (show 1 ≤ 2 by decide)
  cases created
  have both := all [.acquire, .acquire, .acquire, .release 0, .release 0, .drop 0, .acquire]
  exact ⟨_, rfl, both.1, (both.2 0).trans (by decide)⟩

end Session

end Breakwater.Semaphore
