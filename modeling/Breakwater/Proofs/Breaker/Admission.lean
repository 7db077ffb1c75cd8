import Breakwater.Config.Validation
import Breakwater.Proofs.Breaker.Transitions

/-! Whether what a circuit says of itself agrees with what it lets pass. It does for all settings
that do not force it closed, except those that switch it off and force it open at once: such a
circuit says that it is open and lets everything pass.
-/

namespace Breakwater.Breaker

variable {σ : Type} [HealthSource σ]

/-- What a circuit says of itself agrees with what it lets pass. -/
structure AgreesWithAdmission (breaker : Breaker σ) : Prop where
  /-- Once the circuit has said that it is open, a request only passes as a probe, which is
  reported and makes the circuit look half open.
  -/
  passes
    : ∀ now later, (breaker.isOpen now).1 = true
        → ((breaker.isOpen now).2.1.allowRequest later).1 = true
        → ((breaker.isOpen now).2.1.allowRequest later).2.2.map (·.kind) = [.probed]
          ∧ ((breaker.isOpen now).2.1.allowRequest later).2.1.state = .halfOpen
  /-- After a request that did not pass, the circuit does not look closed. -/
  refuses
    : ∀ now, (breaker.allowRequest now).1 = false
        → (breaker.allowRequest now).2.1.state ≠ .closed
  /-- A circuit that is forced open lets nothing pass. -/
  forced : breaker.config.forceOpen = true → ∀ now, (breaker.allowRequest now).1 = false

variable {breaker : Breaker σ}

theorem allowRequest_of_forcedOpen (enabled : breaker.config.enabled = true)
    (forced : breaker.config.forceOpen = true) (now : Nat)
    : breaker.allowRequest now = (false, breaker, []) := by
  simp [allowRequest, enabled, forced]

theorem allowRequest_of_disabled (disabled : breaker.config.enabled = false) (now : Nat)
    : breaker.allowRequest now = (true, breaker, []) := by
  simp [allowRequest, disabled]

omit [HealthSource σ] in
theorem state_ne_closed (visible : breaker.config.forceOpen = true ∨ breaker.opened = true)
    : breaker.state ≠ .closed := by
  cases waits : breaker.probing <;> rcases visible with forced | opened <;>
    simp_all [state]

/-- A request that passes at an open circuit which is in use passes as a probe. -/
theorem probed_of_passes (opened : breaker.opened = true) (enabled : breaker.config.enabled = true)
    (unforced : breaker.config.forceClosed = false) {now : Nat}
    (passes : (breaker.allowRequest now).1 = true)
    : (breaker.allowRequest now).2.2.map (·.kind) = [.probed]
      ∧ (breaker.allowRequest now).2.1.state = .halfOpen := by
  rcases breaker.allowRequest_cases now with ⟨closed, _⟩ | ⟨_, _, probed⟩
    | ⟨answer, stays, refused, _⟩
  · exact absurd (closed.symm.trans opened) Bool.false_ne_true
  · rw [probed]
    refine ⟨rfl, ?_⟩
    simp [state, Breaker.probed, opened]
  · rw [stays] at passes
    exact absurd (unforced.symm.trans (refused passes opened enabled)) Bool.false_ne_true

/-- A sound circuit that is in use, or at least not forced open, agrees with what it lets pass. -/
theorem Sound.agreesWithAdmission (sound : breaker.Sound)
    (unforced : breaker.config.forceClosed = false)
    (consistent : breaker.config.enabled = true ∨ breaker.config.forceOpen = false)
    : breaker.AgreesWithAdmission := by
  have enabled_of_forced (forced : breaker.config.forceOpen = true)
      : breaker.config.enabled = true := by
    rcases consistent with enabled | notForced
    · exact enabled
    · exact absurd (notForced.symm.trans forced) Bool.false_ne_true
  constructor
  case passes =>
    intro now later said passes
    rcases breaker.isOpen_cases now with ⟨_, enabled, _, trips⟩ | stays
    · rw [trips] at passes ⊢
      exact @probed_of_passes σ _ (breaker.trip now) rfl enabled unforced later passes
    · rw [stays] at said passes ⊢
      cases opened : breaker.opened with
      | true => exact probed_of_passes opened (sound.judged opened).1 unforced passes
      | false =>
          have forced : breaker.config.forceOpen = true := by simpa [opened] using said
          rw [allowRequest_of_forcedOpen (enabled_of_forced forced) forced] at passes
          exact absurd passes Bool.false_ne_true
  case refuses =>
    intro now refused
    rcases breaker.allowRequest_cases now with ⟨_, _, _, trips⟩ | ⟨_, _, probed⟩
      | ⟨answer, stays, _, visible⟩
    · rw [trips]
      exact state_ne_closed (.inr rfl)
    · rw [probed] at refused
      exact absurd refused.symm Bool.false_ne_true
    · rw [stays] at refused ⊢
      exact state_ne_closed (visible refused)
  case forced =>
    intro forced now
    rw [allowRequest_of_forcedOpen (enabled_of_forced forced) forced]

/-- Whatever happened to a circuit that is not forced closed, what it says of itself agrees with
what it lets pass exactly if its settings do not switch it off and force it open at once.
-/
theorem admission_agrees_iff (settings : CommandConfig)
    (unforced : settings.breaker.forceClosed = false) (name : String) (listeners : Listeners)
    (source : σ) (history : List (Occurrence σ))
    : ((create name settings.breaker listeners source).replay history).AgreesWithAdmission
      ↔ settings.breaker.enabled = true ∨ settings.breaker.forceOpen = false := by
  have fresh := sound_create name settings.breaker listeners source
  have config : ((create name settings.breaker listeners source).replay history).config
      = settings.breaker := config_replay fresh history
  have sound := fresh.replay history
  generalize (create name settings.breaker listeners source).replay history = breaker
    at config sound
  rw [← config] at unforced ⊢
  constructor
  · intro agrees
    cases forced : breaker.config.forceOpen with
    | false => exact .inr rfl
    | true =>
        cases enabled : breaker.config.enabled with
        | true => exact .inl rfl
        | false =>
            have refused := agrees.forced forced 0
            rw [allowRequest_of_disabled enabled] at refused
            exact absurd refused.symm Bool.false_ne_true
  · exact sound.agreesWithAdmission unforced

/-- A circuit with the usual settings but a threshold of one request trips, says that it is open and
lets a probe pass once its sleep window is over.
-/
theorem admission_agrees_iff_tripped
    : let settings : CommandConfig := { breaker := { volumeThreshold := 1 } }
      let start : Breaker HealthGauge :=
        create "sample" settings.breaker .all ⟨⟨2, 1, 50⟩, 0⟩
      let history : List (Occurrence HealthGauge) := [.step 0 .isOpen]
      settings.validate = .ok () ∧ settings.breaker.forceClosed = false
        ∧ ((start.replay history).isOpen 5001).1 = true
        ∧ (((start.replay history).isOpen 5001).2.1.allowRequest 5001).1 = true
        ∧ (start.replay history).AgreesWithAdmission := by
  intro settings start history
  have accepted : settings.validate = .ok () :=
    CommandConfig.validate_eq_ok_iff.mpr (by decide +kernel)
  exact ⟨accepted, rfl, by decide, by decide,
    (admission_agrees_iff settings rfl "sample" .all _ history).mpr (.inl rfl)⟩

/-- Settings that are accepted can switch a circuit off and force it open: it says that it is open,
looks open, and lets everything pass, which is no probe.
-/
theorem switched_off_forced_open_admits
    : let settings : CommandConfig := { breaker := { enabled := false, forceOpen := true } }
      let breaker : Breaker HealthGauge :=
        create "sample" settings.breaker .all ⟨.empty, 0⟩
      settings.validate = .ok () ∧ settings.breaker.forceClosed = false
        ∧ (breaker.isOpen 0).1 = true
        ∧ ((breaker.isOpen 0).2.1.allowRequest 0).1 = true
        ∧ ((breaker.isOpen 0).2.1.allowRequest 0).2.2 = []
        ∧ ((breaker.isOpen 0).2.1.allowRequest 0).2.1.state = .isOpen
        ∧ ¬(breaker.replay []).AgreesWithAdmission := by
  intro settings breaker
  have accepted : settings.validate = .ok () :=
    CommandConfig.validate_eq_ok_iff.mpr (by decide +kernel)
  refine ⟨accepted, rfl, by decide, by decide, by decide, by decide, fun agrees => ?_⟩
  have admitted : (breaker.allowRequest 0).1 = true := by decide
  exact absurd ((agrees.forced rfl 0).symm.trans admitted) Bool.false_ne_true

end Breakwater.Breaker
