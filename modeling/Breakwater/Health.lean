import Breakwater.Tally

/-!
The health of a dependency: how many requests a window saw, how many of them were errors,
and the rounded percentage that the circuit compares with its threshold.
-/

namespace Breakwater

/-- Requests, errors and the error percentage over a window. -/
structure Health where
  total : Nat
  errors : Nat
  percentage : Nat
  deriving DecidableEq, Repr, Inhabited

namespace Health

/-- The whole number nearest to a double that is not negative, rounded half away from zero. What is
cut off is a double again, so that no second rounding comes in; `Float.round` cannot be computed in
proofs.
-/
def nearestWhole (number : Float) : Nat :=
  let whole := number.toUInt64
  if number - whole.toFloat < 0.5 then whole.toNat else whole.toNat + 1

/-- Errors per hundred requests, computed in doubles and rounded half away from zero.
A window without requests has none; a percentage beyond 32 bits stays at the largest one.
-/
def percentageOf (total errors : Nat) : Nat :=
  if total = 0 then 0
  else min (nearestWhole ((errors.toUInt64.toFloat / total.toUInt64.toFloat) * 100.0)) 4294967295

example : percentageOf 3 2 = 67 := by decide

/-- In doubles, 29 of 200 are a little less than 14.5 percent. -/
example : percentageOf 200 29 = 14 := by decide

/-- Health of a window with the given totals. -/
def ofTotals (total errors : Nat) : Health where
  total := total
  errors := errors
  percentage := percentageOf total errors

/-- Health of a window that saw nothing. -/
def empty : Health := ⟨0, 0, 0⟩

/-- Requests in a tally that count toward health. -/
def requestsIn (tally : Tally) : Nat := tally.sumWhere Tag.countsTowardHealth

/-- Errors in a tally. -/
def errorsIn (tally : Tally) : Nat := tally.sumWhere Tag.isHealthError

/-- Health after one more slice. -/
def plus (health : Health) (slice : Tally) : Health :=
  ofTotals (health.total + requestsIn slice) (health.errors + errorsIn slice)

@[simp]
theorem total_ofTotals (total errors : Nat) : (ofTotals total errors).total = total := rfl

@[simp]
theorem errors_ofTotals (total errors : Nat) : (ofTotals total errors).errors = errors := rfl

@[simp]
theorem total_plus (health : Health) (slice : Tally)
    : (health.plus slice).total = health.total + requestsIn slice := rfl

@[simp]
theorem errors_plus (health : Health) (slice : Tally)
    : (health.plus slice).errors = health.errors + errorsIn slice := rfl

end Health

end Breakwater
