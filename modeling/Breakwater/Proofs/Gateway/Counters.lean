import Breakwater.Proofs.Gateway.ExactlyOnce

/-! What the counters of a dependency show after a pump: the completions of the slices that have
ended, no matter when the pumps before it ran.
-/

namespace Breakwater

variable {α : Type}

-----------------------------------------------------------------------------------------
-- The queue of the slices
-----------------------------------------------------------------------------------------

/-- The bus of a ledger has one subscriber. Of the completions told so far, this one has taken
some, and the others wait in its queue.
-/
structure Ledger.Feeding (capacity source : Nat) (taken fresh : List CompletionEvent)
    (ledger : Ledger) : Prop where
  capacity : ledger.bus.capacity = capacity
  subscribers : ledger.bus.subscribers = [⟨source, true, fresh⟩]
  completed : ledger.completions.map (·.2) = taken ++ fresh

namespace Ledger.Feeding

variable {capacity source : Nat} {taken fresh : List CompletionEvent} {ledger : Ledger}

theorem pending_eq (feeding : ledger.Feeding capacity source taken fresh)
    : ledger.bus.pending source = fresh := by
  simp [Bus.pending, Bus.subscriber?, feeding.subscribers]

/-- A completion joins the queue if that has room. -/
theorem publish (feeding : ledger.Feeding capacity source taken fresh)
    (room : fresh.length < capacity) (number : Nat) (event : CompletionEvent)
    : (ledger.publish number event).Feeding capacity source taken (fresh ++ [event]) where
  capacity := feeding.capacity
  subscribers := by
    simp [Ledger.publish, Bus.publish, feeding.subscribers, Bus.offer, Bus.hasRoom,
      feeding.capacity, room]
  completed := by
    simp [Ledger.publish, feeding.completed]

/-- Draining takes all that waited. -/
theorem drain (feeding : ledger.Feeding capacity source taken fresh)
    : { ledger with bus := (ledger.bus.drain source).2 : Ledger }.Feeding capacity source
        (taken ++ fresh) [] where
  capacity := feeding.capacity
  subscribers := by
    simp [Bus.drain, Bus.setPending, feeding.subscribers]
  completed := by
    simp [feeding.completed]

end Ledger.Feeding

/-- Events came in order, none of them before the open slice or after the present moment. -/
structure Timely (start : Nat) (fresh : List CompletionEvent) (now : Nat) : Prop where
  reached : start ≤ now
  sorted : fresh.Pairwise (fun left right => left.completedAt ≤ right.completedAt)
  inTime : ∀ event ∈ fresh, start ≤ event.completedAt
  past : ∀ event ∈ fresh, event.completedAt ≤ now

namespace Timely

variable {start now : Nat} {fresh : List CompletionEvent}

theorem later (timely : Timely start fresh now) {next : Nat} (onward : now ≤ next)
    : Timely start fresh next where
  reached := Nat.le_trans timely.reached onward
  sorted := timely.sorted
  inTime := timely.inTime
  past event member := Nat.le_trans (timely.past event member) onward

theorem snoc (timely : Timely start fresh now) {event : CompletionEvent}
    (stamped : event.completedAt = now) : Timely start (fresh ++ [event]) now := by
  refine ⟨timely.reached, ?_, ?_, ?_⟩
  · rw [List.pairwise_append]
    refine ⟨timely.sorted, List.pairwise_singleton _ _, ?_⟩
    intro earlier member last new
    obtain rfl : last = event := by simpa using new
    exact stamped ▸ timely.past earlier member
  · intro other member
    rcases List.mem_append.mp member with member | new
    · exact timely.inTime other member
    · obtain rfl : other = event := by simpa using new
      exact stamped ▸ timely.reached
  · intro other member
    rcases List.mem_append.mp member with member | new
    · exact timely.past other member
    · obtain rfl : other = event := by simpa using new
      exact Nat.le_of_eq stamped

end Timely

namespace Gateway

variable {before after : Gateway α} {step : Step α}

-----------------------------------------------------------------------------------------
-- What a step tells
-----------------------------------------------------------------------------------------

/-- A step tells the ledger of one completion at most, which it stamps with the present moment. -/
theorem Change.told (change : Change before step after)
    : after.dependency.ledger = before.dependency.ledger
      ∨ (step = .pump ∧ after.dependency.completions = before.dependency.completions)
      ∨ ∃ number event, event.completedAt = before.clock.now
          ∧ after.dependency.ledger = before.dependency.ledger.publish number event := by
  cases change with
  | moved dependency clock => exact .inl (congrArg Dependency.ledger dependency)
  | quiet account clock => exact .inl (congrArg Account.ledger account)
  | pumped asked clock account metrics =>
      exact .inr (.inl ⟨asked, congrArg Account.completions account⟩)
  | created asked clock account => exact .inl (congrArg Account.ledger account)
  | taken asked found ready clock account => exact .inl (congrArg Account.ledger account)
  | turned timer pool found suffix op turn queues fixed stored =>
      subst stored
      cases turn with
      | goesOn stage lifecycle completion ledger => exact .inl ledger
      | ends running pending ending ended => exact .inr (.inr ⟨_, _, rfl, ended.told⟩)

theorem Change.completions (change : Change before step after)
    : after.dependency.completions = before.dependency.completions
      ∨ ∃ number event, event.completedAt = before.clock.now
          ∧ after.dependency.completions
            = before.dependency.completions ++ [(number, event)] := by
  rcases change.told with same | ⟨_, same⟩ | ⟨number, event, stamped, told⟩
  · exact .inl (congrArg Ledger.completions same)
  · exact .inl same
  · exact .inr ⟨number, event, stamped, congrArg Ledger.completions told⟩

theorem Change.meters (change : Change before step after) (other : step ≠ .pump)
    : after.dependency.meters = before.dependency.meters := by
  cases change with
  | moved dependency clock => exact congrArg Dependency.meters dependency
  | quiet account clock => exact congrArg Account.meters account
  | pumped asked clock account metrics => exact absurd asked other
  | created asked clock account => exact congrArg Account.meters account
  | taken asked found ready clock account => exact congrArg Account.meters account
  | turned timer pool found suffix op turn queues fixed stored =>
      subst stored
      exact congrArg Fixed.meters fixed

/-- Time passes at the steps that move the clock, and at no others. -/
theorem Change.clock (change : Change before step after)
    : after.clock.now = before.clock.now
      ∨ (∃ millis, step = .advance millis ∧ after.clock = before.clock.advance millis)
      ∨ ∃ millis, step = .setClock millis ∧ after.clock = before.clock.set millis := by
  cases change with
  | moved dependency clock => exact .inr clock
  | quiet account clock => exact .inl (congrArg Clock.now clock)
  | pumped asked clock account metrics => exact .inl (congrArg Clock.now clock)
  | created asked clock account => exact .inl (congrArg Clock.now clock)
  | taken asked found ready clock account => exact .inl (congrArg Clock.now clock)
  | turned timer pool found suffix op turn queues fixed stored =>
      subst stored
      exact .inl (congrArg Fixed.now fixed)

/-- Only a wrap moves the clock back. -/
theorem Change.onward (change : Change before step after)
    (fits : ∀ millis, step = .advance millis → before.clock.now + millis < Clock.period)
    : before.clock.now ≤ after.clock.now := by
  rcases change.clock with still | ⟨millis, asked, moved⟩ | ⟨millis, asked, moved⟩
  · exact Nat.le_of_eq still.symm
  · rw [moved, Clock.now_advance (fits millis asked)]
    exact Nat.le_add_right _ _
  · rw [moved]
    exact Clock.now_le_set _ _

-----------------------------------------------------------------------------------------
-- What is counted
-----------------------------------------------------------------------------------------

/-- The dependency has counted the completions that its slices took in, from one slice on and up
to another, and will find the others in order in the queue.
-/
structure Metered (config : MetricsConfig) (first present : Nat)
    (taken fresh : List CompletionEvent) (gateway : Gateway α) : Prop where
  collected : ∃ emitted, gateway.dependency.metrics.Collected first present taken emitted
  sliceCount : gateway.dependency.metrics.slices.sliceCount = config.sliceCount
  duration : gateway.dependency.metrics.slices.duration = config.sliceDuration
  feeding
    : gateway.dependency.ledger.Feeding config.busCapacity gateway.dependency.metrics.source
        taken fresh
  timely : Timely gateway.dependency.metrics.slices.start fresh gateway.clock.now

variable {config : MetricsConfig} {first present : Nat} {taken fresh : List CompletionEvent}

theorem Metered.ended (metered : before.Metered config first present taken fresh)
    : before.dependency.completions.length = taken.length + fresh.length := by
  rw [← List.length_append, ← metered.feeding.completed, List.length_map]
  rfl

/-- What was counted stays counted while nothing is pumped. -/
theorem Metered.congr (metered : before.Metered config first present taken fresh)
    (settings : after.dependency.settings = before.dependency.settings)
    (meters : after.dependency.meters = before.dependency.meters)
    {waiting : List CompletionEvent}
    (feeding
      : after.dependency.ledger.Feeding config.busCapacity before.dependency.metrics.source
          taken waiting)
    (timely : Timely before.dependency.metrics.slices.start waiting after.clock.now)
    : after.Metered config first present taken waiting := by
  have slices : after.dependency.metrics.slices = before.dependency.metrics.slices :=
    congrArg Meters.slices meters
  have source : after.dependency.metrics.source = before.dependency.metrics.source :=
    congrArg Settings.source settings
  obtain ⟨emitted, collected⟩ := metered.collected
  constructor
  · exact ⟨emitted, collected.congr meters⟩
  · rw [slices, metered.sliceCount]
  · rw [slices, metered.duration]
  · rwa [source]
  · rwa [slices]

/-- A step that is no pump counts nothing, and a completion finds room if the queue has some. -/
theorem Metered.kept (metered : before.Metered config first present taken fresh)
    (change : Change before step after) (other : step ≠ .pump)
    (onward : before.clock.now ≤ after.clock.now)
    (room
      : after.dependency.completions.length ≤ taken.length + config.busCapacity)
    : ∃ waiting, after.Metered config first present taken waiting := by
  have settings := change.settings
  have meters := change.meters other
  rcases change.told with same | ⟨asked, _⟩ | ⟨number, event, stamped, told⟩
  · refine ⟨fresh, metered.congr settings meters ?_ (metered.timely.later onward)⟩
    rw [same]
    exact metered.feeding
  · exact absurd asked other
  · have published
        : after.dependency.completions = before.dependency.completions ++ [(number, event)] :=
      congrArg Ledger.completions told
    rw [published, List.length_append, List.length_singleton, metered.ended] at room
    have free : fresh.length < config.busCapacity := by omega
    refine ⟨fresh ++ [event], metered.congr settings meters ?_ ?_⟩
    · rw [told]
      exact metered.feeding.publish free number event
    · exact (metered.timely.snoc stamped).later onward

/-- A pump counts all that waited, and opens the slice of the present moment. -/
theorem Metered.pump (metered : before.Metered config first present taken fresh)
    : (before.step .pump).Metered config first (before.clock.now / config.sliceDuration)
        (taken ++ fresh) [] := by
  obtain ⟨emitted, collected⟩ := metered.collected
  have pending : before.dependency.metrics.bus.pending before.dependency.metrics.source = fresh :=
    metered.feeding.pending_eq
  have timely := metered.timely
  rw [← pending] at timely
  obtain ⟨closed, counted, duration, sliceCount⟩ :=
    collected.pump timely.sorted timely.inTime timely.reached timely.past
  rw [pending, metered.duration] at counted
  have account := before.dependency.account_pump before.clock.now
  have source : (before.step .pump).dependency.metrics.source = before.dependency.metrics.source :=
    congrArg (·.settings.source) account
  have ledger
      : (before.step .pump).dependency.ledger
        = { before.dependency.ledger with
            bus := (before.dependency.ledger.bus.drain before.dependency.metrics.source).2 } :=
    congrArg Account.ledger account
  constructor
  · exact ⟨_, counted⟩
  · exact sliceCount.trans metered.sliceCount
  · exact duration.trans metered.duration
  · rw [source, ledger]
    exact metered.feeding.drain
  · refine ⟨?_, .nil, ?_, ?_⟩
    · exact (counted.cut.start_le_iff before.clock.now).mpr
        (Nat.le_of_eq (congrArg (before.clock.now / ·) (duration.trans metered.duration).symm))
    · rintro event ⟨⟩
    · rintro event ⟨⟩

theorem created_of_justBuilt {start : Gateway α} (built : start.JustBuilt)
    : Metrics.create start.dependency.key start.dependency.config.metrics start.clock.now
          = .ok start.dependency.metrics
        ∧ start.dependency.completions = [] := by
  obtain ⟨builder, assembled⟩ := built
  obtain ⟨metrics, created, same⟩ := DependencyBuilder.assemble_eq_ok assembled
  rw [same]
  exact ⟨created, rfl⟩

/-- A dependency that was just put together has counted nothing yet. -/
theorem metered_of_justBuilt {start : Gateway α} (built : start.JustBuilt)
    : start.Metered start.dependency.config.metrics
        (start.clock.now / start.dependency.config.metrics.sliceDuration)
        (start.clock.now / start.dependency.config.metrics.sliceDuration) [] [] := by
  obtain ⟨created, untold⟩ := created_of_justBuilt built
  obtain ⟨_, several, some_duration, same⟩ := Metrics.create_eq_ok created
  have cut := SliceStream.cut_opening completionSlices
    start.dependency.config.metrics.sliceCount (Nat.pos_of_ne_zero some_duration) start.clock.now
  have window := RollingWindow.holds_empty tallySummary (Nat.pos_of_ne_zero several)
  have ledger : start.dependency.ledger = ⟨start.dependency.metrics.bus, []⟩ := by
    rw [← untold]
    rfl
  constructor
  · rw [same]
    exact ⟨[], cut, rfl, window, RunningTotal.holds_empty tallySummary _⟩
  · rw [same]
    rfl
  · rw [same]
    rfl
  · rw [ledger, same]
    exact ⟨rfl, rfl, rfl⟩
  · refine ⟨?_, .nil, ?_, ?_⟩
    · rw [same]
      exact Nat.sub_le _ _
    · rintro event ⟨⟩
    · rintro event ⟨⟩

-----------------------------------------------------------------------------------------
-- Runs
-----------------------------------------------------------------------------------------

/-- No advance of a run takes the clock past its end. -/
def Unwrapped (start : Gateway α) (steps : List (Step α)) : Prop :=
  start.Throughout steps fun gateway step =>
    ∀ millis, step = .advance millis → gateway.clock.now + millis < Clock.period

/-- Where a run does not pump, no more commands end than the bus holds for a subscriber. -/
def Paced (start : Gateway α) (steps : List (Step α)) : Prop :=
  ∀ earlier between later, steps = earlier ++ between ++ later → .pump ∉ between
    → (start.run (earlier ++ between)).dependency.completions.length
      ≤ (start.run earlier).dependency.completions.length
        + start.dependency.config.metrics.busCapacity

theorem Paced.of_append {start : Gateway α} {steps more : List (Step α)}
    (paced : Paced start (steps ++ more)) : Paced start steps := by
  intro earlier between later split unpumped
  refine paced earlier between (later ++ more) ?_ unpumped
  rw [split, List.append_assoc]

/-- Steps with which nothing ends can follow any run. -/
theorem Paced.snoc {start : Gateway α} {steps : List (Step α)} {last : Step α}
    (paced : Paced start steps)
    (quiet
      : (start.run (steps ++ [last])).dependency.completions
        = (start.run steps).dependency.completions)
    : Paced start (steps ++ [last]) := by
  intro earlier between later split unpumped
  rcases List.eq_nil_or_concat later with rfl | ⟨later, other, rfl⟩
  · rw [List.append_nil] at split
    rcases List.eq_nil_or_concat between with rfl | ⟨between, other, rfl⟩
    · rw [List.append_nil]
      exact Nat.le_add_right _ _
    · rw [List.concat_eq_append] at split unpumped ⊢
      rw [← List.append_assoc] at split ⊢
      obtain ⟨rfl, _⟩ := List.append_inj' split rfl
      rw [← split, quiet]
      refine paced earlier between [] (List.append_nil _).symm ?_
      exact fun member => unpumped (List.mem_append_left _ member)
  · rw [List.concat_eq_append, ← List.append_assoc] at split
    obtain ⟨rfl, _⟩ := List.append_inj' split rfl
    exact paced earlier between later rfl unpumped

/-- What is told stays told, by induction on the steps. -/
theorem completions_run (sound : before.Sound) (steps : List (Step α))
    : ∃ more,
        (before.run steps).dependency.completions = before.dependency.completions ++ more := by
  induction steps generalizing before with
  | nil => exact ⟨[], (List.append_nil _).symm⟩
  | cons first rest ih =>
      obtain ⟨more, later⟩ := ih (sound_step sound first)
      rw [run_cons, later]
      rcases (change_step sound.orderly first).completions with same | ⟨number, event, _, told⟩
      · exact ⟨more, by rw [same]⟩
      · exact ⟨(number, event) :: more, by rw [told, List.append_assoc, List.singleton_append]⟩

theorem length_completions_le (sound : before.Sound) (steps : List (Step α))
    : before.dependency.completions.length ≤ (before.run steps).dependency.completions.length := by
  obtain ⟨more, later⟩ := completions_run sound steps
  rw [later, List.length_append]
  exact Nat.le_add_right _ _

/-- A run in which few commands end never overruns the bus. -/
theorem paced_of_few {start : Gateway α} (sound : start.Sound) {steps : List (Step α)}
    (few
      : (start.run steps).dependency.completions.length
        ≤ start.dependency.config.metrics.busCapacity)
    : Paced start steps := by
  intro earlier between later split _
  have total := length_completions_le (sound_run sound (earlier ++ between)) later
  rw [← run_append, ← split] at total
  omega

/-- A dependency after a run: what the slices took in is what had ended when they were last pumped.
-/
structure Tracked (start : Gateway α) (steps : List (Step α)) (present : Nat)
    (taken fresh : List CompletionEvent) : Prop where
  metered
    : (start.run steps).Metered start.dependency.config.metrics
        (start.clock.now / start.dependency.config.metrics.sliceDuration) present taken fresh
  pumped
    : ∃ earlier between, steps = earlier ++ between ∧ .pump ∉ between
        ∧ (start.run earlier).dependency.completions.length = taken.length

theorem tracked_nil {start : Gateway α} (built : start.JustBuilt)
    : Tracked start [] (start.clock.now / start.dependency.config.metrics.sliceDuration) [] [] where
  metered := metered_of_justBuilt built
  pumped := ⟨[], [], rfl, List.not_mem_nil, (metered_of_justBuilt built).ended⟩

theorem Tracked.pump {start : Gateway α} {steps : List (Step α)} {present : Nat}
    {taken fresh : List CompletionEvent} (tracked : Tracked start steps present taken fresh)
    : Tracked start (steps ++ [.pump])
        ((start.run steps).clock.now / start.dependency.config.metrics.sliceDuration)
        (taken ++ fresh) [] := by
  have pumped := tracked.metered.pump
  rw [← run_snoc] at pumped
  exact ⟨pumped, steps ++ [.pump], [], (List.append_nil _).symm, List.not_mem_nil, pumped.ended⟩

/-- Any step but a pump leaves what was taken in, and what ends finds room in the queue. -/
theorem Tracked.kept {start : Gateway α} (sound : start.Sound) {steps : List (Step α)}
    {present : Nat} {taken fresh : List CompletionEvent}
    (tracked : Tracked start steps present taken fresh) {last : Step α} (other : last ≠ .pump)
    (unwrapped : Unwrapped start (steps ++ [last])) (paced : Paced start (steps ++ [last]))
    : ∃ waiting, Tracked start (steps ++ [last]) present taken waiting := by
  obtain ⟨metered, earlier, between, split, unpumped, counted⟩ := tracked
  have change := change_step (sound_run sound steps).orderly last
  have onward := change.onward unwrapped.of_snoc.2
  have whole : steps ++ [last] = earlier ++ (between ++ [last]) := by
    rw [split, List.append_assoc]
  have quiet : .pump ∉ between ++ [last] := by
    simp [unpumped, Ne.symm other]
  have room := paced earlier (between ++ [last]) [] (by rw [whole, List.append_nil]) quiet
  rw [← whole, run_snoc, counted] at room
  obtain ⟨waiting, kept⟩ := metered.kept change other onward room
  rw [← run_snoc] at kept
  exact ⟨waiting, kept, earlier, between ++ [last], whole, quiet, counted⟩

/-- A dependency along a run, by induction on the steps. -/
theorem metered_run {start : Gateway α} (built : start.JustBuilt) (steps : List (Step α))
    : Unwrapped start steps → Paced start steps
      → ∃ present taken fresh, Tracked start steps present taken fresh := by
  induction steps using run_induction with
  | nil => exact fun _ _ => ⟨_, [], [], tracked_nil built⟩
  | snoc steps last ih =>
      intro unwrapped paced
      obtain ⟨present, taken, fresh, tracked⟩ := ih unwrapped.of_snoc.1 paced.of_append
      by_cases asked : last = .pump
      · subst asked
        exact ⟨_, _, [], tracked.pump⟩
      · obtain ⟨waiting, kept⟩ :=
          tracked.kept (sound_of_justBuilt built) asked unwrapped paced
        exact ⟨present, taken, waiting, kept⟩

/-- Each step ends one command at most, and stamps its completion with the clock before the step. -/
def Stamped (start : Gateway α) (steps : List (Step α)) : Prop :=
  start.Throughout steps fun gateway step =>
    (gateway.step step).dependency.completions = gateway.dependency.completions
      ∨ ∃ number event, event.completedAt = gateway.clock.now
          ∧ (gateway.step step).dependency.completions
            = gateway.dependency.completions ++ [(number, event)]

theorem stamped_of_justBuilt {start : Gateway α} (built : start.JustBuilt) (steps : List (Step α))
    : Stamped start steps := by
  intro earlier last later _
  exact (change_step (sound_run (sound_of_justBuilt built) earlier).orderly last).completions

/-- Whatever a dependency did before a pump, the counters then show the completions of the slices
that have ended: those of the window, and all of them. Which pumps ran before does not show.
-/
theorem counters_after_pump {start : Gateway α} (built : start.JustBuilt) {steps : List (Step α)}
    (unwrapped : Unwrapped start steps) (paced : Paced start steps)
    : let after := start.run (steps ++ [.pump])
      after.dependency.metrics.Shows start.dependency.config.metrics start.clock.now
          after.clock.now (after.dependency.completions.map (·.2))
        ∧ Stamped start (steps ++ [.pump]) := by
  obtain ⟨_, taken, fresh, metered, _⟩ := metered_run built steps unwrapped paced
  obtain ⟨_, some_slices, _, _⟩ := Metrics.create_eq_ok (created_of_justBuilt built).1
  have pumped := metered.pump
  obtain ⟨emitted, collected⟩ := pumped.collected
  have completed : ((start.run steps).step .pump).dependency.completions.map (·.2)
      = taken ++ fresh := by
    rw [← List.append_nil (taken ++ fresh)]
    exact pumped.feeding.completed
  dsimp only
  refine ⟨?_, stamped_of_justBuilt built _⟩
  rw [run_snoc, completed]
  exact collected.shows pumped.sliceCount pumped.duration (Nat.pos_of_ne_zero some_slices)

/-- A success that is counted once its slice has ended. -/
theorem counters_after_pump_success
    : let start : Gateway Nat := ofBuilder { key := "sample" } rfl
      let steps : List (Step Nat) :=
        [.create false, .submit 0, .workReturned 0 (.ok 7), .advance 1000]
      let after := start.run (steps ++ [.pump])
      start.JustBuilt ∧ Unwrapped start steps ∧ Paced start steps
        ∧ after.dependency.metrics.Shows start.dependency.config.metrics start.clock.now
          after.clock.now (after.dependency.completions.map (·.2))
        ∧ after.dependency.metrics.rollingCounts.count .success = 1 := by
  intro start steps
  have built : start.JustBuilt := justBuilt_ofBuilder { key := "sample" } rfl
  have unwrapped : Unwrapped start steps := by
    refine throughout_cons.mpr ⟨nofun, throughout_cons.mpr ⟨nofun, throughout_cons.mpr ⟨nofun,
      throughout_cons.mpr ⟨?_, throughout_nil⟩⟩⟩⟩
    rintro millis ⟨⟩
    decide
  have ended : (start.run steps).dependency.completions.length = 1 := rfl
  have room : start.dependency.config.metrics.busCapacity = 1024 := rfl
  have paced : Paced start steps := by
    apply paced_of_few (sound_of_justBuilt built)
    rw [ended, room]
    decide
  have shows := (counters_after_pump built unwrapped paced).1
  refine ⟨built, unwrapped, paced, shows, ?_⟩
  decide +kernel

end Gateway

end Breakwater
