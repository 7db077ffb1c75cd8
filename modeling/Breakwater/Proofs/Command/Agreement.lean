import Breakwater.Proofs.Command.Stage
import Breakwater.Proofs.Tally

/-! What the record of a command says and what its waiter is told agree, for every way in which
the command can end.
-/

namespace Breakwater

variable {α : Type}

-----------------------------------------------------------------------------------------
-- Records
-----------------------------------------------------------------------------------------

/-- Tags of errors that call for the fallback. -/
def Tag.isPrimary : Tag → Bool
  | failure | timeout | shortCircuited | semaphoreRejected | threadPoolRejected => true
  | _ => false

/-- Tags of what became of the fallback. -/
def Tag.isRescue : Tag → Bool
  | fallbackSuccess | fallbackFailure | fallbackRejection | fallbackMissing => true
  | _ => false

/-- The tags that the record of one command can carry. -/
inductive TagForm (fallbacks : Bool) : List Tag → Prop
  | success : TagForm fallbacks [.success]
  | badRequest : TagForm fallbacks [.badRequest]
  | alone {primary} (off : fallbacks = false) (isPrimary : primary.isPrimary)
    : TagForm fallbacks [primary]
  | rescued {primary rescue} (on : fallbacks = true) (isPrimary : primary.isPrimary)
    (isRescue : rescue.isRescue) : TagForm fallbacks [primary, rescue]
  | cancelled : TagForm fallbacks [.cancelled]
  | cancelledLate {primary} (isPrimary : primary.isPrimary)
    : TagForm fallbacks [primary, .cancelled]

theorem CommandError.Primary.isPrimary {cause : CommandError} {tag : Tag}
    (primary : cause.Primary tag) : tag.isPrimary := by
  cases primary with
  | shortCircuited key => rfl
  | rejected key isolation => cases isolation <;> rfl
  | timeout key limit => rfl
  | failed key source => rfl

theorem CommandError.Primary.tag {cause : CommandError} {tag : Tag} (primary : cause.Primary tag)
    : cause.tag? = some tag := by
  cases primary <;> rfl

theorem CommandError.Primary.rootCause {cause : CommandError} {tag : Tag}
    (primary : cause.Primary tag) : cause.rootCause = cause := by
  cases primary <;> rfl

theorem Ending.tagForm {key : String} {config : CommandConfig} {number : Nat}
    {step : Gateway.Step α} {tags : List Tag} {outcome : Outcome α}
    (ending : Ending key config number step tags outcome)
    : TagForm config.fallbackEnabled tags := by
  cases ending with
  | succeeded value => exact .success
  | declined error => exact .badRequest
  | unaided prompted primary ends =>
      cases ends with
      | disabled off => exact .alone off primary.isPrimary
      | missing on => exact .rescued on primary.isPrimary rfl
      | refused on => exact .rescued on primary.isPrimary rfl
  | rescued primary on value => exact .rescued on primary.isPrimary rfl
  | unrescued primary on error => exact .rescued on primary.isPrimary rfl
  | cancelled => exact .cancelled
  | cancelledLate primary => exact .cancelledLate primary.isPrimary

theorem TagForm.nodup {fallbacks : Bool} {tags : List Tag} (form : TagForm fallbacks tags)
    : tags.Nodup := by
  cases form with
  | @rescued primary rescue on isPrimary isRescue =>
      have different : primary ≠ rescue := by
        rintro rfl
        cases primary <;> cases isPrimary <;> cases isRescue
      simp [different]
  | @cancelledLate primary isPrimary =>
      have different : primary ≠ .cancelled := by
        rintro rfl
        cases isPrimary
      simp [different]
  | _ => exact List.pairwise_singleton _ _

theorem TagForm.short {fallbacks : Bool} {tags : List Tag} (form : TagForm fallbacks tags)
    : tags.length < Tally.ceiling := by
  cases form <;> simp [Tally.ceiling]

/-- Of the tags of one command at most one satisfies a test that only primary tags, successes and
bad requests can satisfy.
-/
theorem TagForm.countP_eq {fallbacks : Bool} {tags : List Tag} (form : TagForm fallbacks tags)
    (test : Tag → Bool) (rescues : ∀ tag : Tag, tag.isRescue → test tag = false)
    (cancels : test .cancelled = false)
    : tags.countP test = if tags.any test then 1 else 0 := by
  have single (tag : Tag) : [tag].countP test = if [tag].any test then 1 else 0 := by
    simp [List.countP_cons]
  have pair (first : Tag) {second : Tag} (fails : test second = false)
      : [first, second].countP test = if [first, second].any test then 1 else 0 := by
    simp [List.countP_cons, fails]
  cases form with
  | rescued on isPrimary isRescue => exact pair _ (rescues _ isRescue)
  | cancelledLate isPrimary => exact pair _ cancels
  | _ => exact single _

/-- The health gains one request at most. -/
theorem TagForm.requestsIn_eq {fallbacks : Bool} {tags : List Tag} (form : TagForm fallbacks tags)
    : Health.requestsIn (.ofTags tags) = if tags.any Tag.countsTowardHealth then 1 else 0 := by
  rw [Health.requestsIn, Tally.sumWhere_ofTags _ form.short]
  exact form.countP_eq Tag.countsTowardHealth
    (fun tag rescue => by cases tag <;> first | rfl | exact absurd rescue (by decide)) rfl

theorem TagForm.errorsIn_eq {fallbacks : Bool} {tags : List Tag} (form : TagForm fallbacks tags)
    : Health.errorsIn (.ofTags tags) = if tags.any Tag.isHealthError then 1 else 0 := by
  rw [Health.errorsIn, Tally.sumWhere_ofTags _ form.short]
  exact form.countP_eq Tag.isHealthError
    (fun tag rescue => by cases tag <;> first | rfl | exact absurd rescue (by decide)) rfl

/-- The health gains one request for a success, a failure, a timeout or a rejection. -/
theorem TagForm.requests {fallbacks : Bool} {tags : List Tag} (form : TagForm fallbacks tags)
    : Health.requestsIn (.ofTags tags)
      = if .success ∈ tags ∨ .failure ∈ tags ∨ .timeout ∈ tags ∨ .semaphoreRejected ∈ tags
          ∨ .threadPoolRejected ∈ tags then 1 else 0 := by
  have counted : tags.any Tag.countsTowardHealth
      ↔ .success ∈ tags ∨ .failure ∈ tags ∨ .timeout ∈ tags ∨ .semaphoreRejected ∈ tags
          ∨ .threadPoolRejected ∈ tags := by
    rw [List.any_eq_true]
    constructor
    · rintro ⟨tag, member, counts⟩
      cases tag <;> first | exact absurd counts (by decide) | simp [member]
    · rintro (member | member | member | member | member) <;> exact ⟨_, member, rfl⟩
  simp only [form.requestsIn_eq, counted]

/-- All of these but the success are errors. -/
theorem TagForm.errors {fallbacks : Bool} {tags : List Tag} (form : TagForm fallbacks tags)
    : Health.errorsIn (.ofTags tags)
      = if .failure ∈ tags ∨ .timeout ∈ tags ∨ .semaphoreRejected ∈ tags
          ∨ .threadPoolRejected ∈ tags then 1 else 0 := by
  have counted : tags.any Tag.isHealthError
      ↔ .failure ∈ tags ∨ .timeout ∈ tags ∨ .semaphoreRejected ∈ tags
          ∨ .threadPoolRejected ∈ tags := by
    rw [List.any_eq_true]
    constructor
    · rintro ⟨tag, member, counts⟩
      cases tag <;> first | exact absurd counts (by decide) | simp [member]
    · rintro (member | member | member | member) <;> exact ⟨_, member, rfl⟩
  simp only [form.errorsIn_eq, counted]

-----------------------------------------------------------------------------------------
-- Outcomes
-----------------------------------------------------------------------------------------

/-- What a waiter is told matches the tags of the record, given the step that ended the command.
-/
structure Matches (key : String) (number : Nat) (step : Gateway.Step α) (tags : List Tag)
    (outcome : Outcome α) : Prop where
  /-- The waiter has the value of the work exactly with the tag of a success. -/
  worked
    : tags = [.success]
      ↔ ∃ value, step = .workReturned number (.ok value) ∧ outcome = .ok value
  /-- The waiter has the value of the fallback exactly with the tag of its success. -/
  rescued
    : .fallbackSuccess ∈ tags
      ↔ ∃ value, step = .fallbackReturned number (.ok value) ∧ outcome = .ok value
  value : ∀ value, outcome = .ok value → tags = [.success] ∨ .fallbackSuccess ∈ tags
  /-- An error and its root cause are both recorded. -/
  error
    : ∀ error, outcome = .error error
        → (∃ tag ∈ tags, error.tag? = some tag) ∧ ∃ tag ∈ tags, error.rootCause.tag? = some tag
  fallbackFailed
    : .fallbackFailure ∈ tags
      ↔ ∃ cause source, outcome = .error (.fallbackFailed key cause source)
  fallbackRejected
    : .fallbackRejection ∈ tags ↔ ∃ cause, outcome = .error (.fallbackRejected key cause)
  cancelled : .cancelled ∈ tags ↔ outcome = .error (.cancelled key)
  badRequest : .badRequest ∈ tags ↔ ∃ source, outcome = .error (.badRequest key source)

/-- Every way in which a command can end tells its waiter what the record says, by the cases of
the end, of the error that came first and of what was done about it.
-/
theorem Ending.matches {key : String} {config : CommandConfig} {number : Nat}
    {step : Gateway.Step α} {tags : List Tag} {outcome : Outcome α}
    (ending : Ending key config number step tags outcome)
    : Matches key number step tags outcome := by
  cases ending with
  | succeeded value => constructor <;> simp
  | declined error => constructor <;> simp [CommandError.tag?, CommandError.rootCause]
  | unaided prompted primary ends =>
      cases primary with
      | rejected key isolation =>
          cases isolation <;> cases prompted <;> cases ends <;> constructor <;>
            simp [Isolation.rejectionTag, CommandError.tag?, CommandError.rootCause]
      | _ =>
          cases prompted
          cases ends <;> constructor <;> simp [CommandError.tag?, CommandError.rootCause]
  | rescued primary on value =>
      cases primary with
      | rejected key isolation =>
          cases isolation <;> constructor <;> simp [Isolation.rejectionTag]
      | _ => constructor <;> simp
  | unrescued primary on error =>
      cases primary with
      | rejected key isolation =>
          cases isolation <;> constructor <;>
            simp [Isolation.rejectionTag, CommandError.tag?, CommandError.rootCause]
      | _ => constructor <;> simp [CommandError.tag?, CommandError.rootCause]
  | cancelled => constructor <;> simp [CommandError.tag?, CommandError.rootCause]
  | cancelledLate primary =>
      cases primary with
      | rejected key isolation =>
          cases isolation <;> constructor <;>
            simp [Isolation.rejectionTag, CommandError.tag?, CommandError.rootCause]
      | _ => constructor <;> simp [CommandError.tag?, CommandError.rootCause]

end Breakwater
