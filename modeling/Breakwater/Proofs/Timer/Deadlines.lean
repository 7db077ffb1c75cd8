import Breakwater.Proofs.Timer.Arena

/-! The deadlines of a timer. They are kept in order, and the timer goes through them up to the
first one that still has a listener waiting for it.
-/

namespace Breakwater.Timer

variable {ι : Type} {timer after : Timer ι} {listener : ι} {handle : TimerHandle}

-----------------------------------------------------------------------------------------
-- Listing a deadline
-----------------------------------------------------------------------------------------

section

variable (deadline first : Deadline) (rest : List Deadline) {deadlines : List Deadline}

theorem insertDeadline_cons
    : insertDeadline deadline (first :: rest)
      = if first.isBefore deadline then first :: insertDeadline deadline rest
        else deadline :: first :: rest := by
  by_cases earlier : first.isBefore deadline <;> simp [insertDeadline, earlier]

variable {deadline first}

/-- Whatever comes before a deadline is due no later. -/
theorem due_le_of_isBefore (before : first.isBefore deadline = true)
    : first.due ≤ deadline.due := by
  simp only [Deadline.isBefore, Bool.or_eq_true, Bool.and_eq_true, decide_eq_true_eq,
    beq_iff_eq] at before
  omega

/-- Whatever does not come before a deadline is due no earlier. -/
theorem due_le_of_not_isBefore (behind : ¬first.isBefore deadline = true)
    : deadline.due ≤ first.due := by
  simp only [Deadline.isBefore, Bool.or_eq_true, Bool.and_eq_true, decide_eq_true_eq,
    beq_iff_eq] at behind
  omega

@[simp]
theorem mem_insertDeadline {other : Deadline}
    : other ∈ insertDeadline deadline deadlines ↔ other = deadline ∨ other ∈ deadlines := by
  induction deadlines with
  | nil => simp [insertDeadline]
  | cons first rest ih =>
      rw [insertDeadline_cons]
      split
      · simp only [List.mem_cons, ih]
        tauto
      · simp only [List.mem_cons]

/-- Deadlines that are in order stay so when one is added. -/
theorem pairwise_insertDeadline (inOrder : deadlines.Pairwise (·.due ≤ ·.due))
    : (insertDeadline deadline deadlines).Pairwise (·.due ≤ ·.due) := by
  induction deadlines with
  | nil => simp [insertDeadline]
  | cons first rest ih =>
      obtain ⟨least, ordered⟩ := List.pairwise_cons.mp inOrder
      rw [insertDeadline_cons]
      split
      · rename_i before
        refine List.pairwise_cons.mpr ⟨fun other member => ?_, ih ordered⟩
        rcases mem_insertDeadline.mp member with rfl | listed
        · exact due_le_of_isBefore before
        · exact least other listed
      · rename_i behind
        refine List.pairwise_cons.mpr ⟨fun other member => ?_, inOrder⟩
        have next := due_le_of_not_isBefore behind
        rcases List.mem_cons.mp member with rfl | listed
        · exact next
        · exact Nat.le_trans next (least other listed)

/-- A deadline is listed after some that are due no later and before others that are due no
earlier.
-/
theorem insertDeadline_split (deadline : Deadline)
    (inOrder : deadlines.Pairwise (·.due ≤ ·.due))
    : ∃ earlier later,
        deadlines = earlier ++ later
          ∧ insertDeadline deadline deadlines = earlier ++ deadline :: later
          ∧ (∀ other ∈ earlier, other.due ≤ deadline.due)
          ∧ ∀ other ∈ later, deadline.due ≤ other.due := by
  induction deadlines with
  | nil => exact ⟨[], [], rfl, rfl, nofun, nofun⟩
  | cons first rest ih =>
      obtain ⟨least, ordered⟩ := List.pairwise_cons.mp inOrder
      rw [insertDeadline_cons]
      split
      · rename_i before
        obtain ⟨earlier, later, rfl, joined, sooner, behind⟩ := ih ordered
        refine ⟨first :: earlier, later, rfl, congrArg _ joined, ?_, behind⟩
        exact List.forall_mem_cons.mpr ⟨due_le_of_isBefore before, sooner⟩
      · rename_i behind
        have next := due_le_of_not_isBefore behind
        refine ⟨[], first :: rest, rfl, rfl, nofun, ?_⟩
        exact List.forall_mem_cons.mpr
          ⟨next, fun other listed => Nat.le_trans next (least other listed)⟩

end

/-- A timer that is shut down registers nothing. -/
theorem register_of_shutdown (stopped : timer.isShutdown = true) (listener : ι) (due : Nat)
    : timer.register listener due = .error (.shutdown timer.name) := by
  simp [register, stopped]

theorem deadlines_allocate (timer : Timer ι) (listener : ι)
    : (timer.allocate listener).2.deadlines = timer.deadlines := by
  simp only [allocate]
  split <;> rfl

theorem isShutdown_allocate (timer : Timer ι) (listener : ι)
    : (timer.allocate listener).2.isShutdown = timer.isShutdown := by
  simp only [allocate]
  split <;> rfl

/-- A timer that runs registers whoever asks. -/
theorem register_of_running (running : timer.isShutdown = false) (listener : ι) (due : Nat)
    : ∃ handle after,
        timer.register listener due = .ok (handle, after) ∧ after.isShutdown = false := by
  refine ⟨_, _, if_neg (by simp [running]), ?_⟩
  exact (timer.isShutdown_allocate listener).trans running

/-- Registering a listener lists its deadline. -/
theorem deadlines_of_register {due : Nat}
    (taken : timer.register listener due = .ok (handle, after))
    : after.deadlines = insertDeadline ⟨due, handle.token⟩ timer.deadlines
      ∧ timer.isShutdown = false ∧ after.isShutdown = false := by
  simp only [register] at taken
  split at taken
  · cases taken
  · rename_i running
    have running : timer.isShutdown = false := eq_false_of_ne_true running
    cases taken
    refine ⟨congrArg (insertDeadline _) (timer.deadlines_allocate listener), running, ?_⟩
    exact (timer.isShutdown_allocate listener).trans running

-----------------------------------------------------------------------------------------
-- Going through the deadlines
-----------------------------------------------------------------------------------------

/-- A timer that is shut down fires nothing. -/
theorem fire?_of_shutdown (stopped : timer.isShutdown = true) (token : TimerToken)
    : timer.fire? token = none := by
  simp [fire?, stopped]

/-- What waits fires, as long as the timer runs. -/
theorem fire?_of_holds (running : timer.isShutdown = false) (holds : timer.Holds listener handle)
    : timer.fire? handle.token = some (listener, timer.drop handle .fired) := by
  unfold Holds at holds
  simp [fire?, running, slot?, holds, drop]

/-- What fires is the first registration whose listener still waits; what is passed over on the way
fires nothing.
-/
theorem fireFirst?_cases {horizon : Nat} {deadlines : List Deadline}
    (fired : timer.fireFirst? horizon deadlines = some (listener, after))
    : ∃ passed deadline rest number,
        deadlines = passed ++ deadline :: rest
        ∧ (∀ earlier ∈ passed, timer.fire? earlier.token = none)
        ∧ deadline.due < horizon
        ∧ timer.isShutdown = false
        ∧ timer.Holds listener ⟨deadline.token, number⟩
        ∧ after = { timer.drop ⟨deadline.token, number⟩ .fired with deadlines := rest } := by
  induction deadlines with
  | nil => cases fired
  | cons first rest ih =>
      rw [fireFirst?] at fired
      split at fired
      · rename_i early
        split at fired
        · rename_i ticks settled found
          cases fired
          obtain ⟨number, holds, rfl⟩ := fire?_cases found
          have running : timer.isShutdown = false := by
            cases stopped : timer.isShutdown with
            | false => rfl
            | true =>
                rw [fire?_of_shutdown stopped] at found
                cases found
          refine ⟨[], first, rest, number, rfl, ?_, early, running, holds, rfl⟩
          exact fun earlier member => absurd member List.not_mem_nil
        · rename_i nothing
          obtain ⟨passed, deadline, later, number, rfl, silent, onward⟩ := ih fired
          refine ⟨first :: passed, deadline, later, number, rfl, fun earlier member => ?_, onward⟩
          rcases List.mem_cons.mp member with rfl | listed
          · exact nothing
          · exact silent earlier listed
      · cases fired

/-- If nothing fires, nobody waits for any of the deadlines before the horizon. -/
theorem fire?_of_fireFirst?_eq_none {horizon : Nat} {deadlines : List Deadline}
    (inOrder : deadlines.Pairwise (·.due ≤ ·.due))
    (nothing : timer.fireFirst? horizon deadlines = none) {deadline : Deadline}
    (listed : deadline ∈ deadlines) (early : deadline.due < horizon)
    : timer.fire? deadline.token = none := by
  induction deadlines with
  | nil => cases listed
  | cons first rest ih =>
      obtain ⟨least, ordered⟩ := List.pairwise_cons.mp inOrder
      rw [fireFirst?] at nothing
      split at nothing
      · split at nothing
        · cases nothing
        · rename_i silent
          rcases List.mem_cons.mp listed with rfl | later
          · exact silent
          · exact ih ordered nothing later
      · rename_i late
        rcases List.mem_cons.mp listed with rfl | later
        · exact absurd early late
        · have := least deadline later
          omega

end Breakwater.Timer
