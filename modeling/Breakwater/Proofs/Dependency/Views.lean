import Breakwater.Dependency
import Breakwater.Proofs.Metrics.Collected

/-! Views of a dependency, each of which only a few operations change: the ledger of
completions, the switch of the circuit, the pool, what is lent out, and the frame that commands
leave alone.
-/

namespace Breakwater

variable {α : Type}

/-- The completion that a notice reports, with the number of its command. -/
def Notice.completion? : Notice → Option (Nat × CompletionEvent)
  | .finished number event => some (number, event)
  | _ => none

/-- The completions of commands so far, the earliest first. -/
def Dependency.completions (dependency : Dependency α) : List (Nat × CompletionEvent) :=
  dependency.journal.reverse.filterMap Notice.completion?

/-- Whether a notice tells how far a command has come: that its work was started, or that it has
ended.
-/
def Notice.isMilestone : Notice → Bool
  | .workStarted _ | .finished _ _ => true
  | _ => false

/-- How far the commands have come, the earliest notice first. -/
def Dependency.milestones (dependency : Dependency α) : List Notice :=
  dependency.journal.reverse.filter Notice.isMilestone

/-- What is noted of commands that run their work: how many there are, and how far they and the
others have come.
-/
structure Diary where
  running : Nat
  milestones : List Notice

def Dependency.diary (dependency : Dependency α) : Diary :=
  ⟨dependency.metrics.concurrent, dependency.milestones⟩

/-- The command whose fallback a notice tells of, with the error that the fallback was handed. -/
def Notice.rescue? : Notice → Option (Nat × CommandError)
  | .fallbackStarted command cause => some (command, cause)
  | _ => none

/-- The fallbacks that were started so far, the earliest first. -/
def Dependency.rescues (dependency : Dependency α) : List (Nat × CommandError) :=
  dependency.journal.reverse.filterMap Notice.rescue?

/-- Where completions are told: on the bus and in the journal. -/
structure Ledger where
  bus : Bus CompletionEvent
  completions : List (Nat × CompletionEvent)

/-- The ledger after one more completion. -/
def Ledger.publish (ledger : Ledger) (number : Nat) (event : CompletionEvent) : Ledger where
  bus := ledger.bus.publish event
  completions := ledger.completions ++ [(number, event)]

def Dependency.ledger (dependency : Dependency α) : Ledger :=
  ⟨dependency.metrics.bus, dependency.completions⟩

/-- The moving parts of a circuit. -/
structure Switch where
  opened : Bool
  probing : Bool
  lastAttempt : Nat
  sleepWindow : Nat
  deriving DecidableEq

def Breaker.switch {σ : Type} (breaker : Breaker σ) : Switch :=
  ⟨breaker.opened, breaker.probing, breaker.lastAttempt, breaker.sleepWindow⟩

/-- What shows in a circuit of the commands it is told of: its moving parts, and the window of its
health if closing starts that afresh.
-/
structure Pulse where
  switch : Switch
  health : RollingWindow Tally Health
  resetOnClose : Bool

def Dependency.pulse (dependency : Dependency α) : Pulse where
  switch := dependency.circuit.switch
  health := dependency.metrics.health
  resetOnClose := dependency.circuit.config.resetHealthOnClose

def Dependency.meters (dependency : Dependency α) : Meters := dependency.metrics.meters

/-- The commands that wait in the queue of the pool, if there is one. -/
def Dependency.waiting (dependency : Dependency α) : List Nat :=
  (dependency.pool.map (·.queue)).getD []

/-- The workers of a pool: how many of them wait for a task, and how many are at one. -/
structure Crew where
  idle : Nat
  active : Nat

/-- A worker at a task becomes idle. -/
def Crew.leave (crew : Crew) : Crew := ⟨crew.idle + 1, crew.active - 1⟩

def WorkerPool.crew {τ : Type} (pool : WorkerPool τ) : Crew := ⟨pool.idle, pool.active⟩

/-- The workers of the pool, if there is one. -/
def Dependency.crew (dependency : Dependency α) : Option Crew :=
  dependency.pool.map WorkerPool.crew

/-- What a dependency lends out: places in its semaphores, some of them to others than its commands,
and the workers of its pool.
-/
structure Loans where
  semaphore : Semaphore
  fallbackSemaphore : Semaphore
  outside : List OutsidePermit
  crew : Option Crew

/-- A worker of the pool has ended its task. -/
def Loans.relieved (loans : Loans) : Loans := { loans with crew := loans.crew.map Crew.leave }

def Dependency.loans (dependency : Dependency α) : Loans where
  semaphore := dependency.semaphore
  fallbackSemaphore := dependency.fallbackSemaphore
  outside := dependency.outside
  crew := dependency.crew

/-- The parts of a dependency that the way of one command leaves alone, but for its joining the
queue.
-/
structure Frame (α : Type) where
  waiting : List Nat
  id : Nat
  key : String
  config : CommandConfig
  classifier : Classifier
  timer : Nat
  commands : List (Command α)
  outside : List OutsidePermit
  circuitName : String
  circuitConfig : BreakerConfig
  listeners : Listeners
  metricsKey : String
  source : Nat
  meters : Meters

def Dependency.frame (dependency : Dependency α) : Frame α where
  waiting := dependency.waiting
  id := dependency.id
  key := dependency.key
  config := dependency.config
  classifier := dependency.classifier
  timer := dependency.timer
  commands := dependency.commands
  outside := dependency.outside
  circuitName := dependency.circuit.name
  circuitConfig := dependency.circuit.config
  listeners := dependency.circuit.listeners
  metricsKey := dependency.metrics.key
  source := dependency.metrics.source
  meters := dependency.meters

namespace Dependency

variable (dependency : Dependency α)

/-- Notices of the circuit are no completions, by induction on the reports. -/
theorem completions_noteAll (reports : List Transition)
    : (dependency.noteAll reports).completions = dependency.completions := by
  induction reports generalizing dependency with
  | nil => rfl
  | cons report rest ih =>
      have noted : (dependency.note (.circuit report)).completions = dependency.completions := by
        simp [completions, note, Notice.completion?]
      exact (ih (dependency.note (.circuit report))).trans noted

/-- Writing reports of the circuit touches nothing but the journal. -/
theorem noteAll_eq (reports : List Transition)
    : dependency.noteAll reports
      = { dependency with
          journal := (reports.map Notice.circuit).reverse ++ dependency.journal } := by
  induction reports generalizing dependency with
  | nil => rfl
  | cons report rest ih =>
      rw [noteAll, List.foldl_cons, ← noteAll, ih]
      simp [note]

/-- Reports of the circuit are no completions, so the ledger stays, by induction on them. -/
@[simp]
theorem ledger_noteAll (reports : List Transition)
    : (dependency.noteAll reports).ledger = dependency.ledger := by
  have same := completions_noteAll dependency reports
  rw [ledger, same, noteAll_eq]
  rfl

/-- Reports of the circuit go into the journal, which is no part of the frame. -/
@[simp]
theorem frame_noteAll (reports : List Transition)
    : (dependency.noteAll reports).frame = dependency.frame := by
  rw [noteAll_eq]
  rfl

/-- Reports of the circuit do not change it. -/
@[simp]
theorem pulse_noteAll (reports : List Transition)
    : (dependency.noteAll reports).pulse = dependency.pulse := by
  rw [noteAll_eq]
  rfl

/-- Reports of the circuit lend nothing out. -/
@[simp]
theorem loans_noteAll (reports : List Transition)
    : (dependency.noteAll reports).loans = dependency.loans := by
  rw [noteAll_eq]
  rfl

/-- Notices of the circuit say nothing of commands, by induction on the reports. -/
@[simp]
theorem diary_noteAll (reports : List Transition)
    : (dependency.noteAll reports).diary = dependency.diary := by
  induction reports generalizing dependency with
  | nil => rfl
  | cons report rest ih =>
      have noted : (dependency.note (.circuit report)).diary = dependency.diary := by
        simp [diary, milestones, note, Notice.isMilestone, metrics]
      exact (ih (dependency.note (.circuit report))).trans noted

/-- A worker that becomes idle is one more to lend out. -/
theorem loans_finish
    : Dependency.loans { dependency with pool := dependency.pool.map WorkerPool.finish }
      = dependency.loans.relieved := by
  have crew : (dependency.pool.map WorkerPool.finish).map WorkerPool.crew
      = (dependency.pool.map WorkerPool.crew).map Crew.leave := by
    rw [Option.map_map, Option.map_map]
    rfl
  simp only [loans, Loans.relieved, Dependency.crew, crew]

/-- Reports of the circuit leave its moving parts. -/
@[simp]
theorem switch_noteAll (reports : List Transition)
    : (dependency.noteAll reports).circuit.switch = dependency.circuit.switch :=
  congrArg Pulse.switch (pulse_noteAll dependency reports)

/-- The notice of an end adds its completion to the ledger. -/
theorem ledger_note_finished (number : Nat) (event : CompletionEvent)
    : (dependency.note (.finished number event)).ledger
      = { dependency.ledger with completions := dependency.completions ++ [(number, event)] } := by
  simp [ledger, completions, note, Notice.completion?, metrics]

/-- A notice of anything but an end leaves the ledger. -/
theorem ledger_note {notice : Notice} (other : notice.completion? = none)
    : (dependency.note notice).ledger = dependency.ledger := by
  simp [ledger, completions, note, other, metrics]

/-- A notice that the diary tells of is added to it. -/
theorem diary_note_milestone {notice : Notice} (told : notice.isMilestone = true)
    : (dependency.note notice).diary
      = { dependency.diary with milestones := dependency.milestones ++ [notice] } := by
  simp [diary, milestones, note, told, metrics]

/-- Any other notice leaves the diary. -/
theorem diary_note {notice : Notice} (other : notice.isMilestone = false)
    : (dependency.note notice).diary = dependency.diary := by
  simp [diary, milestones, note, other, metrics]

/-- A notice of anything but the start of a fallback leaves the list of these. -/
theorem rescues_note {notice : Notice} (other : notice.rescue? = none)
    : (dependency.note notice).rescues = dependency.rescues := by
  simp [rescues, note, other]

/-- The start of a fallback is listed with the error that it is handed. -/
theorem rescues_note_started (number : Nat) (cause : CommandError)
    : (dependency.note (.fallbackStarted number cause)).rescues
      = dependency.rescues ++ [(number, cause)] := by
  simp [rescues, note, Notice.rescue?]

/-- Reports of the circuit tell of no fallback, by induction on the reports. -/
@[simp]
theorem rescues_noteAll (reports : List Transition)
    : (dependency.noteAll reports).rescues = dependency.rescues := by
  induction reports generalizing dependency with
  | nil => rfl
  | cons report rest ih =>
      exact (ih (dependency.note (.circuit report))).trans (dependency.rescues_note rfl)

-----------------------------------------------------------------------------------------
-- The circuit
-----------------------------------------------------------------------------------------

/-- The metrics start no fallback. -/
@[simp]
theorem rescues_mapMetrics (change : Metrics → Metrics)
    : (dependency.mapMetrics change).rescues = dependency.rescues := rfl

@[simp]
theorem rescues_markSuccess (now : Nat)
    : (dependency.markSuccess now).rescues = dependency.rescues := by
  rw [markSuccess, rescues_noteAll]
  rfl

@[simp]
theorem rescues_markNonSuccess : dependency.markNonSuccess.rescues = dependency.rescues := rfl

@[simp]
theorem rescues_allowRequest (now : Nat)
    : (dependency.allowRequest now).2.rescues = dependency.rescues := by
  rw [allowRequest, rescues_noteAll]
  rfl

@[simp]
theorem rescues_isCircuitOpen (now : Nat)
    : (dependency.isCircuitOpen now).2.rescues = dependency.rescues := by
  rw [isCircuitOpen, rescues_noteAll]
  rfl

@[simp]
theorem diary_markSuccess (now : Nat) : (dependency.markSuccess now).diary = dependency.diary := by
  simp only [markSuccess, diary_noteAll, Breaker.markSuccess]
  split
  · split <;> rfl
  · rfl

@[simp]
theorem diary_markNonSuccess : dependency.markNonSuccess.diary = dependency.diary := by
  simp only [markNonSuccess, Breaker.markNonSuccess]
  split <;> rfl

@[simp]
theorem diary_isCircuitOpen (now : Nat)
    : (dependency.isCircuitOpen now).2.diary = dependency.diary := by
  simp only [isCircuitOpen, diary_noteAll, Breaker.isOpen]
  split
  · rfl
  · split <;> rfl

@[simp]
theorem diary_allowRequest (now : Nat)
    : (dependency.allowRequest now).2.diary = dependency.diary := by
  simp only [allowRequest, diary_noteAll, Breaker.allowRequest, Breaker.isOpen,
    Breaker.allowSingleTest]
  repeat' split
  all_goals rfl

@[simp]
theorem ledger_markSuccess (now : Nat)
    : (dependency.markSuccess now).ledger = dependency.ledger := by
  simp only [markSuccess, ledger_noteAll, Breaker.markSuccess]
  split
  · split <;> rfl
  · rfl

@[simp]
theorem frame_markSuccess (now : Nat)
    : (dependency.markSuccess now).frame = dependency.frame := by
  simp only [markSuccess, frame_noteAll, Breaker.markSuccess]
  split
  · split <;> rfl
  · rfl

@[simp]
theorem ledger_markNonSuccess : dependency.markNonSuccess.ledger = dependency.ledger := by
  simp only [markNonSuccess, Breaker.markNonSuccess]
  split <;> rfl

@[simp]
theorem frame_markNonSuccess : dependency.markNonSuccess.frame = dependency.frame := by
  simp only [markNonSuccess, Breaker.markNonSuccess]
  split <;> rfl

@[simp]
theorem loans_markSuccess (now : Nat)
    : (dependency.markSuccess now).loans = dependency.loans := by
  rw [markSuccess, loans_noteAll]
  rfl

@[simp]
theorem loans_markNonSuccess : dependency.markNonSuccess.loans = dependency.loans := rfl

@[simp]
theorem loans_isCircuitOpen (now : Nat)
    : (dependency.isCircuitOpen now).2.loans = dependency.loans := by
  rw [isCircuitOpen, loans_noteAll]
  rfl

@[simp]
theorem loans_allowRequest (now : Nat)
    : (dependency.allowRequest now).2.loans = dependency.loans := by
  rw [allowRequest, loans_noteAll]
  rfl

/-- Asking a circuit moves its switch at most. -/
theorem pulse_isCircuitOpen (now : Nat)
    : (dependency.isCircuitOpen now).2.pulse
      = { dependency.pulse with switch := (dependency.isCircuitOpen now).2.circuit.switch } := by
  simp only [isCircuitOpen, pulse_noteAll, switch_noteAll, Breaker.isOpen]
  split
  · rfl
  · split <;> rfl

/-- A circuit that is asked moves its own parts, and leaves its health and its settings. -/
theorem pulse_allowRequest (now : Nat)
    : (dependency.allowRequest now).2.pulse
      = { dependency.pulse with switch := (dependency.allowRequest now).2.circuit.switch } := by
  simp only [allowRequest, pulse_noteAll, switch_noteAll, Breaker.allowRequest, Breaker.isOpen,
    Breaker.allowSingleTest]
  repeat' split
  all_goals rfl

@[simp]
theorem frame_isCircuitOpen (now : Nat)
    : (dependency.isCircuitOpen now).2.frame = dependency.frame := by
  simp only [isCircuitOpen, frame_noteAll, Breaker.isOpen]
  split
  · rfl
  · split <;> rfl

@[simp]
theorem ledger_isCircuitOpen (now : Nat)
    : (dependency.isCircuitOpen now).2.ledger = dependency.ledger := by
  simp only [isCircuitOpen, ledger_noteAll, Breaker.isOpen]
  split
  · rfl
  · split <;> rfl

/-- The circuit has no part in the pool. -/
@[simp]
theorem pool_allowRequest (now : Nat)
    : (dependency.allowRequest now).2.pool = dependency.pool := by
  simp only [allowRequest, noteAll_eq]

@[simp]
theorem frame_allowRequest (now : Nat)
    : (dependency.allowRequest now).2.frame = dependency.frame := by
  simp only [allowRequest, frame_noteAll, Breaker.allowRequest, Breaker.isOpen,
    Breaker.allowSingleTest]
  repeat' split
  all_goals rfl

@[simp]
theorem ledger_allowRequest (now : Nat)
    : (dependency.allowRequest now).2.ledger = dependency.ledger := by
  simp only [allowRequest, ledger_noteAll, Breaker.allowRequest, Breaker.isOpen,
    Breaker.allowSingleTest]
  repeat' split
  all_goals rfl

end Dependency

end Breakwater
