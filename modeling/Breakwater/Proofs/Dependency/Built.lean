import Breakwater.Dependency

/-! What a dependency looks like when it was just put together. -/

namespace Breakwater

variable {α : Type}

theorem bind_eq_ok {ε β γ : Type} {first : Except ε β} {next : β → Except ε γ} {result : γ}
    : (first >>= next) = .ok result ↔ ∃ value, first = .ok value ∧ next value = .ok result := by
  cases first with
  | error fault =>
      constructor
      · rintro ⟨⟩
      · rintro ⟨value, ⟨⟩, _⟩
  | ok value =>
      constructor
      · exact fun given => ⟨value, rfl, given⟩
      · rintro ⟨_, ⟨⟩, given⟩
        exact given

theorem Metrics.create_eq_ok {key : String} {config : MetricsConfig} {now : Nat}
    {metrics : Metrics} (created : Metrics.create key config now = .ok metrics)
    : config.busCapacity ≠ 0 ∧ config.sliceCount ≠ 0 ∧ config.sliceDuration ≠ 0
      ∧ metrics
        = { key
            bus := (Bus.empty config.busCapacity).subscribe.2
            source := 0
            slices :=
              .opening completionSlices config.sliceCount config.sliceDuration now
            health := .empty config.sliceCount
            rolling := .empty config.sliceCount
            totals := .empty tallySummary config.sliceCount
            concurrent := 0 } := by
  simp only [create, Bus.create, SliceStream.create, RollingWindow.create] at created
  split at created
  · cases created
  · rename_i capacity
    split at created
    · cases created
    · rename_i count
      split at created
      · cases created
      · rename_i duration
        refine ⟨capacity, count, duration, ?_⟩
        cases created
        rfl

theorem Semaphore.create_eq_ok {name : String} {limit : Nat} {semaphore : Semaphore}
    (created : Semaphore.create name limit = .ok semaphore) : semaphore = ⟨name, limit, 0⟩ := by
  unfold create at created
  split at created
  · cases created
  · cases created
    rfl

namespace DependencyBuilder

variable (builder : DependencyBuilder)

/-- The pool that the isolation asks for. -/
def freshPool : Option (WorkerPool Nat) :=
  match builder.config.isolation with
  | .semaphore => none
  | .threadPool => some (.create builder.key builder.config.pool)

theorem queue_of_freshPool {pool : WorkerPool Nat} (fresh : builder.freshPool = some pool)
    : pool.queue = [] := by
  unfold freshPool at fresh
  split at fresh
  · cases fresh
  · cases fresh
    rfl

variable {builder}

/-- The parts that a dependency is put together from. -/
theorem assemble_eq_ok {id timer now : Nat} {dependency : Dependency α}
    (assembled : builder.assemble id timer now = .ok dependency)
    : ∃ metrics,
        Metrics.create builder.key builder.config.metrics now = .ok metrics
          ∧ dependency
            = { id, timer
                key := builder.key
                config := builder.config
                classifier := builder.classifier
                circuit :=
                  .create builder.key builder.config.breaker builder.listeners metrics
                semaphore := ⟨builder.key, builder.config.maxConcurrent, 0⟩
                fallbackSemaphore :=
                  ⟨s!"{builder.key}-fallback", builder.config.fallbackMaxConcurrent, 0⟩
                pool := builder.freshPool
                commands := []
                outside := []
                journal := [] } := by
  unfold assemble at assembled
  obtain ⟨metrics, created, assembled⟩ := bind_eq_ok.mp assembled
  obtain ⟨semaphore, main, assembled⟩ := bind_eq_ok.mp assembled
  obtain ⟨fallbackSemaphore, fallback, assembled⟩ := bind_eq_ok.mp assembled
  obtain rfl := Semaphore.create_eq_ok main
  obtain rfl := Semaphore.create_eq_ok fallback
  cases assembled
  exact ⟨metrics, created, rfl⟩

/-- Whatever passes the check of the settings is put together. -/
theorem assemble_of_build {id timer now : Nat} {dependency : Dependency α}
    (built : builder.build id timer now = .ok dependency)
    : builder.assemble id timer now = .ok dependency := by
  unfold build at built
  split at built
  · cases built
  · split at built
    · cases built
    · rename_i assembled
      cases built
      exact assembled

/-- A dependency is put together the same way whatever places it gets. -/
theorem build_place (builder : DependencyBuilder) (id timer now : Nat)
    : (builder.build id timer now : Except _ (Dependency α))
      = (builder.build 0 0 now).map ({ · with id, timer }) := by
  have parts : (builder.assemble id timer now : Except _ (Dependency α))
      = (builder.assemble 0 0 now).map ({ · with id, timer }) := by
    simp only [assemble]
    cases Metrics.create builder.key builder.config.metrics now with
    | error fault => rfl
    | ok metrics =>
        cases Semaphore.create builder.key builder.config.maxConcurrent with
        | error fault => rfl
        | ok semaphore =>
            cases Semaphore.create s!"{builder.key}-fallback"
                builder.config.fallbackMaxConcurrent with
            | error fault => rfl
            | ok fallbackSemaphore => rfl
  simp only [build, parts]
  cases builder.config.validate with
  | error fault => rfl
  | ok _ =>
      cases (builder.assemble 0 0 now : Except _ (Dependency α)) with
      | error fault => rfl
      | ok dependency => rfl

end DependencyBuilder

end Breakwater
