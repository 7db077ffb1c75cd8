/-!
Decimal numerals and the doubles they stand for. A numeral is read in two steps: its leading
digits as a whole number of 64 bits, then one product or quotient with a power of ten, each
rounded to the nearest double.
-/

namespace Breakwater.Text

/-- A decimal number: its leading digits times a power of ten. -/
structure Decimal where
  negative : Bool
  /-- The leading digits as a whole number below two to the power of 64. -/
  digits : Nat
  power : Int
  deriving DecidableEq, Repr, Inhabited

namespace Decimal

/-- The greatest power of ten that is a finite double. -/
def maxPower : Nat := 308

/-- The value of a digit. -/
def digitValue (c : Char) : Nat := c.toNat - '0'.toNat

/-- The value of digits written after those of `value`. -/
def valueAfter (value : Nat) (digits : List Char) : Nat :=
  digits.foldl (fun value c => 10 * value + digitValue c) value

/-- Read digits after those of `value` while the whole fits 64 bits; also the digits left over. -/
def readLeading (value : Nat) : List Char → Nat × List Char
  | [] => (value, [])
  | c :: rest =>
      let next := 10 * value + digitValue c
      if next < 0x10000000000000000 then readLeading next rest else (value, c :: rest)

/-- The number with these digits before and after the point, times a power of ten. Digits beyond
the leading ones count for their places only.
-/
def ofParts (negative : Bool) (whole fraction : List Char) (power : Int) : Decimal :=
  match readLeading 0 whole with
  | (leading, []) =>
      let (digits, left) := readLeading leading fraction
      ⟨negative, digits, power + left.length - fraction.length⟩
  | (leading, left) => ⟨negative, leading, power + left.length⟩

/-- The double next to a power of ten. -/
def tenTo (power : Nat) : Float := Float.ofScientific 1 false power

/-- Divide by a power of ten, in several steps where it is too great for a double. -/
def divide (value : Float) (power : Nat) : Float :=
  if value == 0 then value
  else if power ≤ maxPower then value / tenTo power
  else divide (value / tenTo maxPower) (power - maxPower)
termination_by power
decreasing_by unfold maxPower at *; omega

/-- The double that the digits and the power give, unless it is out of range. -/
def magnitude? (digits : Nat) (power : Int) : Option Float :=
  let value := Float.ofScientific digits false 0
  match power with
  | .negSucc below => some (divide value (below + 1))
  | .ofNat above =>
      if digits = 0 then some 0
      else if above ≤ maxPower then
        let product := value * tenTo above
        if product.isFinite then some product else none
      else none

/-- The double that a decimal number stands for, unless it is out of range. -/
def toFloat? (decimal : Decimal) : Option Float :=
  (magnitude? decimal.digits decimal.power).map fun value =>
    if decimal.negative then -value else value

end Decimal

end Breakwater.Text
