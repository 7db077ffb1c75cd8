/-!
The shortest decimal text of a double: the fewest digits that read back as the same double,
and of those the nearest to it.
-/

namespace Breakwater.Text.Shortest

/-- Power of two; that of a negative exponent is one. -/
def twoTo (exponent : Int) : Nat := Nat.pow 2 exponent.toNat

/-- Power of ten; that of a negative exponent is one. -/
def tenTo (exponent : Int) : Nat := Nat.pow 10 exponent.toNat

/-- Whether `digits * 10 ^ power` is at most `quarters * 2 ^ (exponent - 2)`. -/
def decimalLe (digits : Nat) (power : Int) (quarters : Nat) (exponent : Int) : Bool :=
  digits * tenTo power * twoTo (2 - exponent)
    ≤ quarters * twoTo (exponent - 2) * tenTo (-power)

/-- Whether `digits * 10 ^ power` is at least `quarters * 2 ^ (exponent - 2)`. -/
def decimalGe (digits : Nat) (power : Int) (quarters : Nat) (exponent : Int) : Bool :=
  quarters * twoTo (exponent - 2) * tenTo (-power)
    ≤ digits * tenTo power * twoTo (2 - exponent)

/-- Quarter steps from the double `mantissa * 2 ^ exponent` down to the least real that reads
back as it: the step below a power of two is half as wide.
-/
def quartersBelow (mantissa : Nat) (exponent : Int) : Nat :=
  if mantissa = twoTo 52 ∧ -1074 < exponent then 1 else 2

/-- Whether `digits * 10 ^ power` reads back as `mantissa * 2 ^ exponent`. The ends of the
interval belong to the even mantissa.
-/
def readsBack (mantissa : Nat) (exponent : Int) (digits : Nat) (power : Int) : Bool :=
  let low := 4 * mantissa - quartersBelow mantissa exponent
  let high := 4 * mantissa + 2
  if mantissa % 2 = 0 then
    decimalGe digits power low exponent && decimalLe digits power high exponent
  else
    !decimalLe digits power low exponent && !decimalGe digits power high exponent

/-- The neighbour from below of `mantissa * 2 ^ exponent` on the grid of `10 ^ power`. -/
def floorOnGrid (mantissa : Nat) (exponent power : Int) : Nat :=
  mantissa * twoTo exponent * tenTo (-power) / (tenTo power * twoTo (-exponent))

/-- Whether the grid point `digits` is nearer to the double than the next one. -/
def isNearer (mantissa : Nat) (exponent : Int) (digits : Nat) (power : Int) : Bool :=
  !decimalLe (2 * digits + 1) power (8 * mantissa) exponent

/-- The grid point next to the double that reads back as it, if one does. -/
def gridPoint? (mantissa : Nat) (exponent power : Int) : Option Nat :=
  let below := floorOnGrid mantissa exponent power
  let lowReads := below != 0 && readsBack mantissa exponent below power
  let highReads := readsBack mantissa exponent (below + 1) power
  if lowReads && highReads then
    some (if isNearer mantissa exponent below power then below else below + 1)
  else if lowReads then some below
  else if highReads then some (below + 1)
  else none

/-- The first grid with a point that reads back, from coarse to fine. -/
def search (mantissa : Nat) (exponent : Int) : Nat → Int → Nat × Int
  | 0, power => (floorOnGrid mantissa exponent power, power)
  | fuel + 1, power =>
      match gridPoint? mantissa exponent power with
      | some digits => (digits, power)
      | none => search mantissa exponent fuel (power - 1)

/-- Digits and power of ten of the shortest decimal of a positive double. -/
def ofDyadic (mantissa : Nat) (exponent : Int) : Nat × Int :=
  search mantissa exponent 640 309

/-- Digits with the decimal point after the first `point` of them, and a digit on both sides. -/
def positional (digits : List Char) (point : Int) : List Char :=
  let zeros := fun count : Int => List.replicate count.toNat '0'
  if point ≤ 0 then ['0', '.'] ++ zeros (-point) ++ digits
  else if digits.length ≤ point.toNat then
    digits ++ zeros (point - (digits.length : Int)) ++ ['.', '0']
  else digits.take point.toNat ++ ['.'] ++ digits.drop point.toNat

/-- One digit, the others after a point, and the power of ten. -/
def scientific (digits : List Char) (point : Int) : List Char :=
  let fraction := match digits.drop 1 with
    | [] => []
    | rest => '.' :: rest
  digits.take 1 ++ fraction ++ ['e'] ++ (toString (point - 1)).toList

/-- Text of the positive double `mantissa * 2 ^ exponent`; numbers from `1e-4` up to `1e16` are
written positionally.
-/
def positiveText (mantissa : Nat) (exponent : Int) : List Char :=
  let (digits, power) := ofDyadic mantissa exponent
  let text := Nat.toDigits 10 digits
  let point := (text.length : Int) + power
  if -3 ≤ point ∧ point ≤ 16 then positional text point else scientific text point

/-- Text of a double. -/
def ofFloat (value : Float) : String :=
  let bits := value.toBits.toNat
  let sign := if twoTo 63 ≤ bits then ['-'] else []
  let biased : Nat := bits / twoTo 52 % 2048
  let fraction := bits % twoTo 52
  if biased = 2047 then
    if fraction = 0 then String.ofList (sign ++ "inf".toList) else "NaN"
  else if biased = 0 ∧ fraction = 0 then String.ofList (sign ++ "0.0".toList)
  else if biased = 0 then String.ofList (sign ++ positiveText fraction (-1074))
  else String.ofList (sign ++ positiveText (fraction + twoTo 52) ((biased : Int) - 1075))

end Breakwater.Text.Shortest
