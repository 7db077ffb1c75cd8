import Mathlib.Computability.Language
import Mathlib.Data.List.Induction
import Breakwater.Proofs.Breaker.Run

/-! What a circuit reports and what becomes of it correspond one to one, whatever its settings are
and however its clock and its health jump: it reports openings, probes and closings as they happen,
in cycles, and starts its health afresh with each closing.
-/

namespace Breakwater.Breaker

open Computability

/-- One thing that happens to a circuit in a history of any kind. -/
inductive Occurrence (σ : Type) where
  /-- A step, at a reading of the clock. Nothing is asked of the readings: a clock can be set, or
  start again at zero.
  -/
  | step (now : Nat) (step : Step σ)
  /-- The jitter draws another sleep window. -/
  | draw (window : Nat)

namespace Occurrence

variable {σ : Type}

/-- What an occurrence does to the source of the health by itself. -/
def ownChange : Occurrence σ → σ → σ
  | step _ (.changeSource change) => change
  | _ => id

end Occurrence

variable {σ : Type} [HealthSource σ]

section

variable (breaker : Breaker σ)

/-- What becomes of a circuit at an occurrence, and what it reports. -/
def occur : Occurrence σ → Breaker σ × List Transition
  | .step now step => (Moment.respond ⟨now, breaker⟩ step).2
  | .draw window => (breaker.draw window, [])

/-- A circuit after a history. -/
def replay (history : List (Occurrence σ)) : Breaker σ :=
  history.foldl (fun breaker occurrence => (breaker.occur occurrence).1) breaker

/-- All that a circuit reports in a history, the earliest first. -/
def reported (breaker : Breaker σ) : List (Occurrence σ) → List Transition
  | [] => []
  | occurrence :: rest =>
      (breaker.occur occurrence).2 ++ reported (breaker.occur occurrence).1 rest

/-- The kinds of all reports in a history, the earliest first. -/
def told (history : List (Occurrence σ)) : List TransitionKind :=
  (breaker.reported history).map (·.kind)

/-- What the listeners of a circuit hear of an occurrence. -/
def heardAt (occurrence : Occurrence σ) : List TransitionKind :=
  ((breaker.occur occurrence).2.map (·.kind)).filter breaker.listeners.hears

/-- All that the listeners of a circuit hear in a history, the earliest first. -/
def heard (breaker : Breaker σ) : List (Occurrence σ) → List TransitionKind
  | [] => []
  | occurrence :: rest =>
      breaker.heardAt occurrence ++ heard (breaker.occur occurrence).1 rest

/-- Whether a closed circuit opens. -/
def opensAt (occurrence : Occurrence σ) : Bool :=
  !breaker.opened && (breaker.occur occurrence).1.opened

/-- Whether a probe is admitted: the circuit is open, and a request passes for another reason than
that the circuit is forced closed.
-/
def admitsAt : Occurrence σ → Bool
  | .step now .allowSingleTest => breaker.opened && (breaker.allowSingleTest now).1
  | .step now .allowRequest =>
      breaker.opened && !breaker.config.forceClosed && (breaker.allowRequest now).1
  | _ => false

/-- Whether an open circuit closes. -/
def closesAt (occurrence : Occurrence σ) : Bool :=
  breaker.opened && !(breaker.occur occurrence).1.opened

/-- What happens to the circuit at an occurrence, as it can be seen from outside. -/
def changesAt (occurrence : Occurrence σ) : List TransitionKind :=
  (if breaker.opensAt occurrence then [.opened] else [])
    ++ (if breaker.admitsAt occurrence then [.probed] else [])
    ++ (if breaker.closesAt occurrence then [.closed] else [])

@[simp]
theorem replay_nil : breaker.replay [] = breaker := rfl

/-- A history with one more occurrence is replayed by that one last. -/
theorem replay_snoc (history : List (Occurrence σ)) (last : Occurrence σ)
    : breaker.replay (history ++ [last]) = ((breaker.replay history).occur last).1 :=
  List.foldl_append

/-- What is told of a history is what is told of its first occurrence, and then of the rest. -/
theorem told_cons (first : Occurrence σ) (rest : List (Occurrence σ))
    : breaker.told (first :: rest)
      = (breaker.occur first).2.map (·.kind) ++ (breaker.occur first).1.told rest :=
  List.map_append

/-- One more occurrence adds what it reports itself. -/
theorem told_snoc (history : List (Occurrence σ)) (last : Occurrence σ)
    : breaker.told (history ++ [last])
      = breaker.told history ++ ((breaker.replay history).occur last).2.map (·.kind) := by
  induction history generalizing breaker with
  | nil => simp [told, reported]
  | cons first rest ih =>
      rw [List.cons_append, told_cons, ih, told_cons, List.append_assoc]
      rfl

end

-----------------------------------------------------------------------------------------
-- What a circuit does when it is asked and told
-----------------------------------------------------------------------------------------

section

variable (breaker : Breaker σ) (now : Nat)

/-- A circuit that is asked whether it is open trips, which only a closed one does that is in use
and not forced open, or it stays as it is.
-/
theorem isOpen_cases
    : (breaker.opened = false ∧ breaker.config.enabled = true ∧ breaker.config.forceOpen = false
        ∧ breaker.isOpen now = (true, breaker.trip now, [breaker.report .opened now]))
      ∨ breaker.isOpen now = (breaker.config.forceOpen || breaker.opened, breaker, []) := by
  cases forced : breaker.config.forceOpen <;> cases opened : breaker.opened <;>
    cases enabled : breaker.config.enabled <;> cases warranted : breaker.warrantsTrip <;>
      simp [isOpen, forced, opened, enabled, warranted]

/-- An open circuit that is asked for a probe admits one or stays as it is, and a closed one stays
as it is.
-/
theorem allowSingleTest_cases
    : (breaker.opened = true
        ∧ breaker.allowSingleTest now = (true, breaker.probed now, [breaker.report .probed now]))
      ∨ breaker.allowSingleTest now = (false, breaker, []) := by
  cases opened : breaker.opened with
  | false => exact .inr (allowSingleTest_of_closed opened now)
  | true =>
      rw [allowSingleTest_of_opened opened]
      split
      · exact .inl ⟨rfl, rfl⟩
      · exact .inr rfl

/-- A request makes a closed circuit trip, in which case it only passes if the circuit is forced
closed; or it passes as the probe of an open one; or the circuit stays as it is, and no request
passes then while an open circuit is in use and not forced closed.
-/
theorem allowRequest_cases
    : (breaker.opened = false ∧ breaker.config.enabled = true ∧ breaker.config.forceOpen = false
        ∧ breaker.allowRequest now
          = (breaker.config.forceClosed, breaker.trip now, [breaker.report .opened now]))
      ∨ (breaker.opened = true ∧ breaker.config.forceClosed = false
        ∧ breaker.allowRequest now = (true, breaker.probed now, [breaker.report .probed now]))
      ∨ ∃ passes,
          breaker.allowRequest now = (passes, breaker, [])
          ∧ (passes = true → breaker.opened = true → breaker.config.enabled = true
              → breaker.config.forceClosed = true)
          ∧ (passes = false → breaker.config.forceOpen = true ∨ breaker.opened = true) := by
  -- No time passes between the trip and the request for a probe.
  have early : (breaker.trip now).allowSingleTest now = (false, breaker.trip now, []) := by
    rw [allowSingleTest_of_opened rfl, if_neg]
    exact Nat.not_lt_of_le (Nat.le_add_right now _)
  cases enabled : breaker.config.enabled with
  | false =>
      refine .inr (.inr ⟨true, ?_, ?_, ?_⟩)
      · simp [allowRequest, enabled]
      · simp
      · simp
  | true =>
      cases forced : breaker.config.forceOpen with
      | true =>
          refine .inr (.inr ⟨false, ?_, ?_, ?_⟩)
          · simp [allowRequest, enabled, forced]
          · simp
          · simp
      | false =>
          rcases breaker.isOpen_cases now with ⟨closed, _, _, trips⟩ | stays
          · refine .inl ⟨closed, rfl, rfl, ?_⟩
            cases kept : breaker.config.forceClosed <;>
              simp [allowRequest, enabled, forced, kept, trips, early]
          · rw [forced, Bool.false_or] at stays
            cases kept : breaker.config.forceClosed with
            | true =>
                refine .inr (.inr ⟨true, ?_, ?_, ?_⟩)
                · simp [allowRequest, enabled, forced, kept, stays]
                · simp
                · simp
            | false =>
                cases opened : breaker.opened with
                | false =>
                    refine .inr (.inr ⟨true, ?_, ?_, ?_⟩)
                    · simp [allowRequest, enabled, forced, kept, stays, opened]
                    · simp
                    · simp
                | true =>
                    have asked : breaker.allowRequest now = breaker.allowSingleTest now :=
                      allowRequest_eq_of_opened ⟨enabled, forced, kept⟩ opened now
                    rcases breaker.allowSingleTest_cases now with ⟨_, passes⟩ | stays
                    · exact .inr (.inl ⟨rfl, rfl, asked.trans passes⟩)
                    · refine .inr (.inr ⟨false, asked.trans stays, ?_, ?_⟩)
                      · simp
                      · simp

end

/-- What holds of every circuit that came about by occurrences. -/
structure Sound (breaker : Breaker σ) : Prop where
  /-- A circuit that waits for a probe is open. -/
  waits : breaker.probing = true → breaker.opened = true
  /-- An open circuit is in use and not forced open. -/
  judged : breaker.opened = true
    → breaker.config.enabled = true ∧ breaker.config.forceOpen = false

/-- What an occurrence does to a circuit. -/
inductive Turn (breaker : Breaker σ) (occurrence : Occurrence σ)
    : Breaker σ × List Transition → Prop
  | opened (now : Nat) (closed : breaker.opened = false)
    (enabled : breaker.config.enabled = true) (unforced : breaker.config.forceOpen = false)
    (aside : occurrence.ownChange = id)
    : Turn breaker occurrence (breaker.trip now, [breaker.report .opened now])
  | probed (now : Nat) (opened : breaker.opened = true)
    (admitted : breaker.admitsAt occurrence = true) (aside : occurrence.ownChange = id)
    : Turn breaker occurrence (breaker.probed now, [breaker.report .probed now])
  | closed (now : Nat) (opened : breaker.opened = true)
    (success : occurrence = .step now .markSuccess)
    : Turn breaker occurrence (breaker.markSuccess now)
  | stayed (after : Breaker σ) (config : after.config = breaker.config)
    (listeners : after.listeners = breaker.listeners)
    (opened : after.opened = breaker.opened)
    (probing : after.probing = true → breaker.probing = true)
    (source : after.source = occurrence.ownChange breaker.source)
    (denied : breaker.opened = true → breaker.admitsAt occurrence = false)
    : Turn breaker occurrence (after, [])

variable {breaker : Breaker σ}

/-- A circuit that is as it was has taken no turn. -/
theorem turn_same {occurrence : Occurrence σ} (aside : occurrence.ownChange = id)
    (denied : breaker.opened = true → breaker.admitsAt occurrence = false)
    : Turn breaker occurrence (breaker, []) :=
  .stayed breaker rfl rfl rfl id (by rw [aside, id]) denied

/-- Asking for a request trips the circuit, lets a probe pass or leaves it. -/
theorem turn_allowRequest (sound : breaker.Sound) (now : Nat)
    : Turn breaker (.step now .allowRequest) (breaker.allowRequest now).2 := by
  rcases breaker.allowRequest_cases now with ⟨closed, enabled, unforced, trips⟩
    | ⟨opened, kept, passes⟩ | ⟨passes, stays, refused, _⟩
  · rw [trips]
    exact .opened now closed enabled unforced rfl
  · have admitted : breaker.admitsAt (.step now .allowRequest) = true := by
      simp [admitsAt, opened, kept, passes]
    rw [passes]
    exact .probed now opened admitted rfl
  · rw [stays]
    refine turn_same rfl fun opened => ?_
    cases passed : passes with
    | false => simp [admitsAt, stays, passed]
    | true =>
        have kept := refused passed opened (sound.judged opened).1
        simp [admitsAt, kept]

/-- Asking for a probe lets one pass or leaves the circuit. -/
theorem turn_allowSingleTest (now : Nat)
    : Turn breaker (.step now .allowSingleTest) (breaker.allowSingleTest now).2 := by
  rcases breaker.allowSingleTest_cases now with ⟨opened, passes⟩ | stays
  · have admitted : breaker.admitsAt (.step now .allowSingleTest) = true := by
      simp [admitsAt, opened, passes]
    rw [passes]
    exact .probed now opened admitted rfl
  · rw [stays]
    refine turn_same rfl fun _ => ?_
    simp [admitsAt, stays]

/-- Whatever happens, a circuit opens, admits a probe, closes at a success or stays open or closed
as it was.
-/
theorem turn_occur (sound : breaker.Sound) (occurrence : Occurrence σ)
    : Turn breaker occurrence (breaker.occur occurrence) := by
  rcases occurrence with ⟨now, step⟩ | window
  · cases step with
    | allowRequest => exact turn_allowRequest sound now
    | isOpen =>
        show Turn breaker _ (breaker.isOpen now).2
        rcases breaker.isOpen_cases now with ⟨closed, enabled, unforced, trips⟩ | stays
        · rw [trips]
          exact .opened now closed enabled unforced rfl
        · rw [stays]
          exact turn_same rfl fun _ => rfl
    | allowSingleTest => exact turn_allowSingleTest now
    | markSuccess =>
        cases opened : breaker.opened with
        | true => exact .closed now opened rfl
        | false =>
            have unheard : breaker.markSuccess now = (breaker, []) := by
              simp [markSuccess, opened]
            show Turn breaker _ (breaker.markSuccess now)
            rw [unheard]
            exact turn_same rfl fun _ => rfl
    | markNonSuccess =>
        show Turn breaker _ (breaker.markNonSuccess, [])
        rw [markNonSuccess]
        split
        · have idle (waits : false = true) : breaker.probing = true :=
            absurd waits Bool.false_ne_true
          exact .stayed _ rfl rfl rfl idle rfl fun _ => rfl
        · exact turn_same rfl fun _ => rfl
    | changeSource change => exact .stayed _ rfl rfl rfl id rfl fun _ => rfl
    | wait millis => exact turn_same rfl fun _ => rfl
  · exact .stayed _ rfl rfl rfl id rfl fun _ => rfl

/-- A success closes an open circuit, which then waits for no probe. -/
theorem markSuccess_of_opened (opened : breaker.opened = true) (now : Nat)
    : (breaker.markSuccess now).1.opened = false
      ∧ (breaker.markSuccess now).1.probing = false
      ∧ (breaker.markSuccess now).1.config = breaker.config
      ∧ (breaker.markSuccess now).1.source
        = (if breaker.config.resetHealthOnClose then HealthSource.reset breaker.source
          else breaker.source)
      ∧ (breaker.markSuccess now).2.map (·.kind) = [.closed] := by
  rw [markSuccess, if_pos opened]
  exact ⟨rfl, rfl, rfl, rfl, rfl⟩

/-- Nothing that happens to a circuit changes its settings. -/
theorem config_occur (sound : breaker.Sound) (occurrence : Occurrence σ)
    : (breaker.occur occurrence).1.config = breaker.config := by
  have turn := turn_occur sound occurrence
  generalize breaker.occur occurrence = result at turn
  cases turn with
  | opened => rfl
  | probed => rfl
  | closed now opened => exact (markSuccess_of_opened opened now).2.2.1
  | stayed _ config => exact config

/-- Nothing that happens to a circuit changes its listeners. -/
theorem listeners_occur (sound : breaker.Sound) (occurrence : Occurrence σ)
    : (breaker.occur occurrence).1.listeners = breaker.listeners := by
  have turn := turn_occur sound occurrence
  generalize breaker.occur occurrence = result at turn
  cases turn with
  | opened => rfl
  | probed => rfl
  | closed now opened =>
      rw [markSuccess, if_pos opened]
  | stayed _ _ listeners => exact listeners

/-- Whatever happens keeps a circuit sound, by cases on the turn it takes. -/
theorem Sound.occur (sound : breaker.Sound) (occurrence : Occurrence σ)
    : (breaker.occur occurrence).1.Sound := by
  have config := config_occur sound occurrence
  have turn := turn_occur sound occurrence
  generalize breaker.occur occurrence = result at config turn
  cases turn with
  | opened now closed enabled unforced => exact ⟨fun _ => rfl, fun _ => ⟨enabled, unforced⟩⟩
  | probed now opened => exact ⟨fun _ => opened, fun _ => sound.judged opened⟩
  | closed now opened =>
      obtain ⟨shut, idle, _⟩ := markSuccess_of_opened opened now
      constructor
      · intro waits
        exact absurd (idle.symm.trans waits) Bool.false_ne_true
      · intro still
        exact absurd (shut.symm.trans still) Bool.false_ne_true
  | stayed after _ _ same probing =>
      constructor
      · intro waits
        exact same.trans (sound.waits (probing waits))
      · intro still
        rw [config]
        exact sound.judged (same.symm.trans still)

omit [HealthSource σ] in
/-- A new circuit is sound. -/
theorem sound_create (name : String) (config : BreakerConfig) (listeners : Listeners) (source : σ)
    : (create name config listeners source).Sound := by
  constructor
  · intro waits
    exact absurd waits Bool.false_ne_true
  · intro opened
    exact absurd opened Bool.false_ne_true

/-- What holds of a circuit at first and is kept by whatever happens to a sound circuit holds after
every history, by induction on the history.
-/
theorem replay_keeps (holds : Breaker σ → Prop)
    (kept
      : ∀ breaker occurrence, breaker.Sound → holds breaker
          → holds (breaker.occur occurrence).1)
    (sound : breaker.Sound) (start : holds breaker) (history : List (Occurrence σ))
    : (breaker.replay history).Sound ∧ holds (breaker.replay history) := by
  induction history generalizing breaker with
  | nil => exact ⟨sound, start⟩
  | cons first rest ih => exact ih (sound.occur first) (kept breaker first sound start)

/-- A circuit is sound after every history, by induction on the occurrences. -/
theorem Sound.replay (sound : breaker.Sound) (history : List (Occurrence σ))
    : (breaker.replay history).Sound :=
  (replay_keeps (fun _ => True) (fun _ _ _ _ => trivial) sound trivial history).1

/-- The settings are the same after every history. -/
theorem config_replay (sound : breaker.Sound) (history : List (Occurrence σ))
    : (breaker.replay history).config = breaker.config := by
  refine (replay_keeps (·.config = breaker.config) ?_ sound rfl history).2
  intro before occurrence sound same
  exact (config_occur sound occurrence).trans same

-----------------------------------------------------------------------------------------
-- What is reported
-----------------------------------------------------------------------------------------

/-- The words of openings, each followed by any number of probes and then by a closing. -/
def cycles : Language TransitionKind :=
  ({[.opened]} * {[.probed]}∗ * {[.closed]})∗

/-- A word of whole cycles, and of the beginning of another one if the circuit is open. -/
def Cycling (opened : Bool) (word : List TransitionKind) : Prop :=
  ∃ finished ∈ cycles, ∃ probes,
    word = finished ++ if opened then .opened :: List.replicate probes .probed else []

theorem nil_mem_cycles : [] ∈ cycles := Language.nil_mem_kstar _

/-- After whole cycles there can be another one. -/
theorem append_mem_cycles {finished : List TransitionKind} (whole : finished ∈ cycles)
    (probes : Nat)
    : finished ++ (.opened :: List.replicate probes .probed ++ [.closed]) ∈ cycles := by
  have repeated : List.replicate probes TransitionKind.probed
      ∈ ({[.probed]} : Language TransitionKind)∗ := by
    refine Language.mem_kstar.mpr ⟨List.replicate probes [.probed], ?_, ?_⟩
    · simp
    · intro word member
      exact List.eq_of_mem_replicate member
  have begun : .opened :: List.replicate probes .probed
      ∈ ({[.opened]} * {[.probed]}∗ : Language TransitionKind) :=
    Language.append_mem_mul (Set.mem_singleton [.opened]) repeated
  have another : .opened :: List.replicate probes .probed ++ [.closed]
      ∈ ({[.opened]} * {[.probed]}∗ * {[.closed]} : Language TransitionKind) :=
    Language.append_mem_mul begun (Set.mem_singleton [TransitionKind.closed])
  obtain ⟨parts, rfl, allowed⟩ := Language.mem_kstar.mp whole
  refine Language.mem_kstar.mpr
    ⟨parts ++ [.opened :: List.replicate probes .probed ++ [.closed]], ?_, ?_⟩
  · simp
  · intro part member
    rcases List.mem_append.mp member with earlier | last
    · exact allowed part earlier
    · rw [List.mem_singleton.mp last]
      exact another

namespace Cycling

variable {word : List TransitionKind}

/-- An opening begins a cycle. -/
theorem opened (cycling : Cycling false word) : Cycling true (word ++ [.opened]) := by
  obtain ⟨finished, whole, probes, rfl⟩ := cycling
  exact ⟨finished, whole, 0, by simp⟩

/-- A probe goes on with the cycle that is under way. -/
theorem probed (cycling : Cycling true word) : Cycling true (word ++ [.probed]) := by
  obtain ⟨finished, whole, probes, rfl⟩ := cycling
  refine ⟨finished, whole, probes + 1, ?_⟩
  simp [List.replicate_succ']

/-- A closing completes the cycle. -/
theorem closed (cycling : Cycling true word) : Cycling false (word ++ [.closed]) := by
  obtain ⟨finished, whole, probes, rfl⟩ := cycling
  refine ⟨_, append_mem_cycles whole probes, 0, ?_⟩
  simp

/-- A cycle that has begun can be ended. -/
theorem prolong {opened : Bool} (cycling : Cycling opened word)
    : ∃ rest, word ++ rest ∈ cycles := by
  obtain ⟨finished, whole, probes, rfl⟩ := cycling
  cases opened with
  | false => exact ⟨[], by simpa using whole⟩
  | true => exact ⟨[.closed], by simpa using append_mem_cycles whole probes⟩

end Cycling

/-- A closed circuit admits no probe. -/
theorem admitsAt_of_closed (closed : breaker.opened = false) (occurrence : Occurrence σ)
    : breaker.admitsAt occurrence = false := by
  rcases occurrence with ⟨now, step⟩ | window
  · cases step <;> simp [admitsAt, closed]
  · rfl

/-- What a circuit reports is what happens to it. -/
theorem told_occur (sound : breaker.Sound) (occurrence : Occurrence σ)
    : (breaker.occur occurrence).2.map (·.kind) = breaker.changesAt occurrence := by
  have turn := turn_occur sound occurrence
  generalize same : breaker.occur occurrence = result at turn ⊢
  cases turn with
  | opened now closed =>
      have denied := admitsAt_of_closed closed occurrence
      simp [changesAt, opensAt, closesAt, same, closed, denied, trip, report]
  | probed now opened admitted =>
      have still : (breaker.probed now).opened = true := opened
      simp [changesAt, opensAt, closesAt, same, opened, admitted, still, report]
  | closed now opened success =>
      obtain ⟨shut, _, _, _, reported⟩ := markSuccess_of_opened opened now
      have denied : breaker.admitsAt occurrence = false := by rw [success]; rfl
      simp only [changesAt, opensAt, closesAt, same, opened, shut, denied, reported]
      rfl
  | stayed after _ _ unmoved _ _ denied =>
      cases opened : breaker.opened with
      | true => simp [changesAt, opensAt, closesAt, same, unmoved, opened, denied opened]
      | false =>
          have denied := admitsAt_of_closed opened occurrence
          simp [changesAt, opensAt, closesAt, same, unmoved, opened, denied]

/-- What a circuit reports goes on with the cycle that it is in. -/
theorem cycling_occur (sound : breaker.Sound) {word : List TransitionKind}
    (cycling : Cycling breaker.opened word) (occurrence : Occurrence σ)
    : Cycling (breaker.occur occurrence).1.opened
        (word ++ (breaker.occur occurrence).2.map (·.kind)) := by
  have turn := turn_occur sound occurrence
  generalize breaker.occur occurrence = result at turn ⊢
  cases turn with
  | opened now closed =>
      rw [closed] at cycling
      exact cycling.opened
  | probed now opened =>
      rw [opened] at cycling
      have still : (breaker.probed now).opened = true := opened
      rw [still]
      exact cycling.probed
  | closed now opened =>
      obtain ⟨shut, _, _, _, reported⟩ := markSuccess_of_opened opened now
      rw [opened] at cycling
      rw [shut, reported]
      exact cycling.closed
  | stayed after _ _ unmoved =>
      rw [unmoved, List.map_nil, List.append_nil]
      exact cycling

/-- All that a closed circuit reports from then on is told in cycles, by induction on the history.
-/
theorem cycling_replay (sound : breaker.Sound) (closed : breaker.opened = false)
    (history : List (Occurrence σ))
    : Cycling (breaker.replay history).opened (breaker.told history) := by
  induction history using List.reverseRecOn with
  | nil =>
      rw [replay_nil, closed]
      exact ⟨[], nil_mem_cycles, 0, rfl⟩
  | append_singleton history last ih =>
      rw [replay_snoc, told_snoc]
      exact cycling_occur (sound.replay history) ih last

/-- Listeners hear what they wait for of all that is reported, by induction on the history. -/
theorem heard_eq (sound : breaker.Sound) (history : List (Occurrence σ))
    : breaker.heard history = (breaker.told history).filter breaker.listeners.hears := by
  induction history generalizing breaker with
  | nil => rfl
  | cons first rest ih =>
      rw [heard, ih (sound.occur first), listeners_occur sound first, told_cons,
        List.filter_append]
      rfl

/-- Listeners for everything hear all that is reported. -/
theorem heard_eq_told (sound : breaker.Sound) (all : breaker.listeners = .all)
    (history : List (Occurrence σ)) : breaker.heard history = breaker.told history := by
  have hears (kind : TransitionKind) : breaker.listeners.hears kind = true := by
    rw [all]
    cases kind <;> rfl
  rw [heard_eq sound]
  exact List.filter_eq_self.mpr fun kind _ => hears kind

-----------------------------------------------------------------------------------------
-- The health
-----------------------------------------------------------------------------------------

/-- The health is started afresh with a closing, if so configured, and by nothing else. -/
theorem source_occur (sound : breaker.Sound) (occurrence : Occurrence σ)
    : (breaker.occur occurrence).1.source
      = if breaker.closesAt occurrence && breaker.config.resetHealthOnClose then
          HealthSource.reset breaker.source
        else occurrence.ownChange breaker.source := by
  have turn := turn_occur sound occurrence
  generalize same : breaker.occur occurrence = result at turn ⊢
  cases turn with
  | opened now closed _ _ aside => simp [closesAt, closed, aside, trip]
  | probed now opened _ aside =>
      simp [closesAt, same, opened, aside, probed]
  | closed now opened success =>
      obtain ⟨shut, _, _, source, _⟩ := markSuccess_of_opened opened now
      have aside : occurrence.ownChange = id := by rw [success]; rfl
      simp [closesAt, same, opened, shut, source, aside]
  | stayed after _ _ unmoved _ source =>
      have stays : breaker.closesAt occurrence = false := by simp [closesAt, same, unmoved]
      rw [stays, Bool.false_and, if_neg Bool.false_ne_true]
      exact source

/-- At most one closing is reported of an occurrence. -/
theorem count_closed_changesAt (breaker : Breaker σ) (occurrence : Occurrence σ)
    : (breaker.changesAt occurrence).count .closed
      = if breaker.closesAt occurrence then 1 else 0 := by
  rw [changesAt]
  cases breaker.opensAt occurrence <;> cases breaker.admitsAt occurrence <;>
    cases breaker.closesAt occurrence <;> rfl

/-- Whatever counts how often the health was started afresh counts the closings that were reported,
by induction on the history.
-/
theorem resets_replay (sound : breaker.Sound) {count : σ → Nat}
    (counts : ∀ source, count (HealthSource.reset source) = count source + 1)
    {history : List (Occurrence σ)}
    (aside
      : ∀ occurrence ∈ history, ∀ source, count (occurrence.ownChange source) = count source)
    : count (breaker.replay history).source
      = count breaker.source
        + if breaker.config.resetHealthOnClose then (breaker.told history).count .closed
          else 0 := by
  induction history using List.reverseRecOn with
  | nil => simp [told, reported]
  | append_singleton history last ih =>
      have earlier := ih fun occurrence member =>
        aside occurrence (List.mem_append_left _ member)
      have own := aside last (List.mem_append_right _ (List.mem_singleton_self _))
      rw [replay_snoc, told_snoc, told_occur (sound.replay history), List.count_append,
        count_closed_changesAt, source_occur (sound.replay history),
        config_replay sound history]
      cases (breaker.replay history).closesAt last <;>
        cases reset : breaker.config.resetHealthOnClose <;>
          simp [own, counts, earlier, reset, Nat.add_assoc]

-----------------------------------------------------------------------------------------
-- One to one
-----------------------------------------------------------------------------------------

/-- A circuit that is not in use or forced open stays closed and reports nothing, by induction on
the history.
-/
theorem quiet_replay (sound : breaker.Sound) (closed : breaker.opened = false)
    (idle : breaker.config.enabled = false ∨ breaker.config.forceOpen = true)
    (history : List (Occurrence σ))
    : (breaker.replay history).opened = false ∧ breaker.told history = [] := by
  induction history using List.reverseRecOn with
  | nil => exact ⟨closed, rfl⟩
  | append_singleton history last ih =>
      obtain ⟨stayed, silent⟩ := ih
      have sound' := sound.replay history
      have config := config_replay sound history
      have turn := turn_occur sound' last
      rw [replay_snoc, told_snoc, silent, List.nil_append]
      generalize (breaker.replay history).occur last = result at turn ⊢
      cases turn with
      | opened now _ enabled unforced =>
          rw [config] at enabled unforced
          simp_all
      | probed now opened => simp_all
      | closed now opened => simp_all
      | stayed after _ _ unmoved => exact ⟨unmoved.trans stayed, rfl⟩

/-- How the reports of a circuit and the resets of its health correspond to what becomes of it,
after a history and at whatever happens next.
-/
structure ToldOneToOne (start : Breaker σ) (history : List (Occurrence σ)) : Prop where
  /-- The reports are the beginning of a word of cycles. -/
  word : ∃ rest, start.told history ++ rest ∈ cycles
  /-- Listeners hear of them what they wait for, -/
  heard : start.heard history = (start.told history).filter start.listeners.hears
  /-- which is all of them if they wait for everything. -/
  attentive : start.listeners = .all → start.heard history = start.told history
  /-- What is reported next is that a closed circuit opens, that a probe is admitted, or that an
  open circuit closes, each of them once and exactly if it happens,
  -/
  changes
    : ∀ next,
        ((start.replay history).occur next).2.map (·.kind) = (start.replay history).changesAt next
  /-- and a closing starts the health afresh, if so configured; nothing else does. -/
  afresh
    : ∀ next,
        ((start.replay history).occur next).1.source
          = if (start.replay history).closesAt next && start.config.resetHealthOnClose then
              HealthSource.reset (start.replay history).source
            else next.ownChange (start.replay history).source
  /-- So whatever counts how often that was done counts the reported closings. -/
  resets
    : ∀ count : σ → Nat,
        (∀ source, count (HealthSource.reset source) = count source + 1)
        → (∀ occurrence ∈ history, ∀ source, count (occurrence.ownChange source) = count source)
        → count (start.replay history).source
          = count start.source
            + if start.config.resetHealthOnClose then (start.told history).count .closed else 0
  /-- A circuit that waits for a probe is open, -/
  waits : (start.replay history).probing = true → (start.replay history).opened = true
  /-- so that one that trips waits for none at first. -/
  trips
    : ∀ next, (start.replay history).opensAt next = true
        → ((start.replay history).occur next).1.state = .isOpen
  /-- Only a success closes an open circuit. -/
  sticky
    : ∀ next, (start.replay history).closesAt next = true → ∃ now, next = .step now .markSuccess
  /-- A circuit that is not in use or forced open does nothing at all. -/
  quiet
    : start.config.enabled = false ∨ start.config.forceOpen = true
        → (start.replay history).opened = false ∧ start.told history = []

/-- Whatever its settings are and whatever happens to it, a circuit reports openings, probes and
closings one to one, and starts its health afresh with each closing.
-/
theorem told_one_to_one (name : String) (config : BreakerConfig) (listeners : Listeners)
    (source : σ) (history : List (Occurrence σ))
    : ToldOneToOne (create name config listeners source) history := by
  generalize fresh : create name config listeners source = start
  have closed : start.opened = false := by rw [← fresh]; rfl
  have sound : start.Sound := by
    rw [← fresh]
    exact sound_create name config listeners source
  have sound' := sound.replay history
  have settings := config_replay sound history
  constructor
  case word => exact (cycling_replay sound closed history).prolong
  case changes => exact told_occur sound'
  case heard => exact heard_eq sound history
  case attentive => exact fun all => heard_eq_told sound all history
  case afresh =>
    intro next
    rw [source_occur sound', settings]
  case resets =>
    intro count counts aside
    exact resets_replay sound counts aside
  case waits => exact sound'.waits
  case trips =>
    intro next opens
    have turn := turn_occur sound' next
    simp only [opensAt, Bool.and_eq_true, Bool.not_eq_true'] at opens
    obtain ⟨shut, opened⟩ := opens
    generalize (start.replay history).occur next = result at turn opened ⊢
    cases turn with
    | opened now =>
        have idle : (start.replay history).probing = false := by
          cases waits : (start.replay history).probing with
          | false => rfl
          | true => exact absurd (shut.symm.trans (sound'.waits waits)) Bool.false_ne_true
        simp [state, trip, idle]
    | probed now before => exact absurd (shut.symm.trans before) Bool.false_ne_true
    | closed now before => exact absurd (shut.symm.trans before) Bool.false_ne_true
    | stayed after _ _ unmoved =>
        exact absurd (shut.symm.trans (unmoved.symm.trans opened)) Bool.false_ne_true
  case sticky =>
    intro next closes
    have turn := turn_occur sound' next
    simp only [closesAt, Bool.and_eq_true, Bool.not_eq_true'] at closes
    obtain ⟨before, shut⟩ := closes
    generalize (start.replay history).occur next = result at turn shut
    cases turn with
    | opened now => cases shut
    | probed now opened => exact absurd (shut.symm.trans opened) Bool.false_ne_true
    | closed now _ success => exact ⟨now, success⟩
    | stayed after _ _ unmoved =>
        exact absurd (shut.symm.trans (unmoved.trans before)) Bool.false_ne_true
  case quiet => exact fun idle => quiet_replay sound closed idle history

/-- A circuit that trips, admits a failing probe and then one that succeeds, after which its clock
has started again at zero, and trips once more.
-/
example
    : let config : BreakerConfig := { volumeThreshold := 1, sleepWindow := 10 }
      let start : Breaker HealthGauge := create "sample" config .all ⟨⟨2, 1, 50⟩, 0⟩
      let history : List (Occurrence HealthGauge) := [
        .step 5 .allowRequest, .step 16 .allowRequest, .step 17 .markNonSuccess,
        .step 27 .allowRequest, .step 28 .markSuccess,
        .step 0 (.changeSource fun gauge => { gauge with reading := ⟨4, 4, 100⟩ }),
        .step 0 .isOpen]
      start.told history = [.opened, .probed, .probed, .closed, .opened]
        ∧ (start.replay history).source.resets = 1 := by
  decide

end Breakwater.Breaker
