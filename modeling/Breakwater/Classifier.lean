import Breakwater.Error

/-!
A classifier decides which errors of the work count against the dependency. An error it
declines is a bad request: it skips the fallback and leaves the health alone.
-/

namespace Breakwater

/-- What a classifier is told about a failed execution. -/
structure FailureContext where
  key : String
  error : WorkError
  duration : Nat
  deriving DecidableEq, Repr

/-- A test on failures, with the name that descriptions show. -/
structure Classifier where
  name : String
  /-- Whether the failure counts against the dependency. -/
  trips : FailureContext → Bool

namespace Classifier

/-- Every failure counts. -/
def default : Classifier := ⟨"DefaultClassifier", fun _ => true⟩

instance : Inhabited Classifier := ⟨default⟩

/-- A classifier given by its test. -/
def ofTest (test : FailureContext → Bool) : Classifier :=
  ⟨"PredicateClassifier \x7b predicate: \"<closure>\" \x7d", test⟩

/-- Validation errors are bad requests. -/
def declineValidation : Classifier where
  name := "BadRequestOn<ValidationError>"
  trips context := match context.error with
    | .validation _ => false
    | _ => true

/-- No failure counts. -/
def never : Classifier := ofTest (fun _ => false)

/-- Only failures that took longer than the limit count. -/
def slowerThan (limit : Nat) : Classifier := ofTest (fun context => limit < context.duration)

/-- Every failure counts but the ones with this text. -/
def messageIsNot (text : String) : Classifier :=
  ofTest (fun context => context.error.message != text)

/-- Only failures of this key count. -/
def keyIs (key : String) : Classifier := ofTest (fun context => context.key == key)

/-- Of the HTTP errors, only those of the server count. -/
def serverErrors : Classifier :=
  ofTest fun context => match context.error with
    | .http _ status => 500 ≤ status
    | _ => true

end Classifier

end Breakwater
