import Breakwater.Config.Setting
import Breakwater.Text.Decimal

/-!
Reading a tree of settings from its JSON text. Reading is a function of the characters alone:
every reader takes what it reads off the front of them and hands on the rest.
-/

namespace Breakwater.Setting

open Breakwater.Text

/-- Blanks between the parts of a text. -/
def isBlank (c : Char) : Bool := c == ' ' || c == '\t' || c == '\n' || c == '\r'

/-- What follows the blanks at the front. -/
def skipBlanks (chars : List Char) : List Char := chars.dropWhile isBlank

/-- The value of a hexadecimal digit of either case. -/
def hexDigit? (c : Char) : Option Nat :=
  if '0' ≤ c && c ≤ '9' then some (c.toNat - '0'.toNat)
  else if 'a' ≤ c && c ≤ 'f' then some (c.toNat - 'a'.toNat + 10)
  else if 'A' ≤ c && c ≤ 'F' then some (c.toNat - 'A'.toNat + 10)
  else none

/-- The code unit that hexadecimal digits write. -/
def hexUnit? (digits : List Char) : Option Nat :=
  digits.foldlM (fun unit c => (hexDigit? c).map (16 * unit + ·)) 0

/-- The character that stands for itself or for a control after a backslash. -/
def escaped? (c : Char) : Option Char :=
  match c with
  | '"' | '\\' | '/' => some c
  | 'b' => some '\x08'
  | 'f' => some '\x0c'
  | 'n' => some '\n'
  | 'r' => some '\r'
  | 't' => some '\t'
  | _ => none

/-- Code units of a text up to the quote that closes it, after those read so far. -/
def readUnits (units : List Nat) : List Char → Option (List Nat × List Char)
  | '"' :: rest => some (units.reverse, rest)
  | '\\' :: 'u' :: a :: b :: c :: d :: rest => do
      let unit ← hexUnit? [a, b, c, d]
      readUnits (unit :: units) rest
  | '\\' :: c :: rest => do
      let char ← escaped? c
      readUnits (char.toNat :: units) rest
  | c :: rest => if c.toNat < 0x20 then none else readUnits (c.toNat :: units) rest
  | [] => none

/-- Whether a unit is the first half of a pair that writes one character. -/
def isHighHalf (unit : Nat) : Bool := 0xd800 ≤ unit && unit < 0xdc00

/-- Whether a unit is the second half of a pair that writes one character. -/
def isLowHalf (unit : Nat) : Bool := 0xdc00 ≤ unit && unit < 0xe000

/-- The characters that code units write; a half of a pair cannot stand alone. -/
def joinHalves : List Nat → Option (List Char)
  | [] => some []
  | high :: low :: rest =>
      if isHighHalf high then
        if isLowHalf low then
          let code := 0x10000 + 0x400 * (high - 0xd800) + (low - 0xdc00)
          (joinHalves rest).map (Char.ofNat code :: ·)
        else none
      else if isLowHalf high then none
      else (joinHalves (low :: rest)).map (Char.ofNat high :: ·)
  | [unit] => if isHighHalf unit || isLowHalf unit then none else some [Char.ofNat unit]

/-- A text whose opening quote has been read. -/
def readText (chars : List Char) : Option (String × List Char) := do
  let (units, rest) ← readUnits [] chars
  let text ← joinHalves units
  return (String.ofList text, rest)

/-- Digits at the front, of which there must be one. -/
def readDigits (chars : List Char) : Option (List Char × List Char) :=
  match chars.span Char.isDigit with
  | ([], _) => none
  | parts => some parts

/-- Digits before the point: none precede a zero at the front. -/
def readWhole : List Char → Option (List Char × List Char)
  | '0' :: rest => if (rest.head?.map Char.isDigit).getD false then none else some (['0'], rest)
  | chars => readDigits chars

/-- Digits after the point, if there is a point. -/
def readFraction : List Char → Option (Option (List Char) × List Char)
  | '.' :: rest => (readDigits rest).map fun (digits, rest) => (some digits, rest)
  | chars => some (none, chars)

/-- A power of ten, signed or not. -/
def readPower (chars : List Char) : Option (Int × List Char) :=
  match chars with
  | '-' :: rest =>
      (readDigits rest).map fun (digits, rest) => (-(Decimal.valueAfter 0 digits), rest)
  | '+' :: rest => (readDigits rest).map fun (digits, rest) => (Decimal.valueAfter 0 digits, rest)
  | _ => (readDigits chars).map fun (digits, rest) => (Decimal.valueAfter 0 digits, rest)

/-- A power of ten after its mark, if there is a mark. -/
def readExponent (chars : List Char) : Option (Option Int × List Char) :=
  match chars with
  | 'e' :: rest | 'E' :: rest => (readPower rest).map fun (power, rest) => (some power, rest)
  | _ => some (none, chars)

/-- The whole number that digits write, if it is one of 64 bits. Zero has no negative. -/
def whole? (negative : Bool) (digits : List Char) : Option Int :=
  let value := Decimal.valueAfter 0 digits
  if negative then if 0 < value ∧ value ≤ 0x8000000000000000 then some (-value) else none
  else if value < 0x10000000000000000 then some value
  else none

/-- The number with these parts. With a point or a power of ten it is never a whole one. -/
def ofParts? (negative : Bool) (digits : List Char) (fraction : Option (List Char))
    (power : Option Int) : Option Setting :=
  let decimal? : Option Setting :=
    (Decimal.ofParts negative digits (fraction.getD []) (power.getD 0)).toFloat?.map decimal
  match fraction, power with
  | none, none => ((whole? negative digits).map whole).or decimal?
  | _, _ => decimal?

/-- A number at the front. -/
def readNumber (chars : List Char) : Option (Setting × List Char) := do
  let (negative, chars) := match chars with
    | '-' :: rest => (true, rest)
    | _ => (false, chars)
  let (digits, chars) ← readWhole chars
  let (fraction, chars) ← readFraction chars
  let (power, rest) ← readExponent chars
  let number ← ofParts? negative digits fraction power
  return (number, rest)

/-- Set a field; a field that is there already takes the new value. -/
def setField (fields : List (String × Setting)) (key : String) (value : Setting)
    : List (String × Setting) :=
  if fields.any (·.1 == key) then
    fields.map fun field => if field.1 == key then (key, value) else field
  else fields ++ [(key, value)]

/-- The key of a field and the colon after it. -/
def readKey (chars : List Char) : Option (String × List Char) := do
  match skipBlanks chars with
  | '"' :: rest =>
      let (key, rest) ← readText rest
      match skipBlanks rest with
      | ':' :: rest => return (key, rest)
      | _ => none
  | _ => none

mutual

/-- A value at the front. The fuel bounds how many values and fields are begun. -/
def readValue (fuel : Nat) (chars : List Char) : Option (Setting × List Char) :=
  match fuel with
  | 0 => none
  | fuel + 1 =>
      match skipBlanks chars with
      | 'n' :: 'u' :: 'l' :: 'l' :: rest => some (absent, rest)
      | 't' :: 'r' :: 'u' :: 'e' :: rest => some (flag true, rest)
      | 'f' :: 'a' :: 'l' :: 's' :: 'e' :: rest => some (flag false, rest)
      | '"' :: rest => (readText rest).map fun (value, rest) => (text value, rest)
      | '[' :: rest =>
          match skipBlanks rest with
          | ']' :: rest => some (sequence [], rest)
          | rest => readSequence fuel [] rest
      | '\x7b' :: rest =>
          match skipBlanks rest with
          | '\x7d' :: rest => some (group [], rest)
          | rest => readGroup fuel [] rest
      | rest => readNumber rest

/-- The next value of a sequence and all after it. -/
def readSequence (fuel : Nat) (values : List Setting) (chars : List Char)
    : Option (Setting × List Char) :=
  match fuel with
  | 0 => none
  | fuel + 1 => do
      let (value, rest) ← readValue fuel chars
      match skipBlanks rest with
      | ',' :: rest => readSequence fuel (value :: values) rest
      | ']' :: rest => return (sequence (value :: values).reverse, rest)
      | _ => none

/-- The next field of a group and all after it. -/
def readGroup (fuel : Nat) (fields : List (String × Setting)) (chars : List Char)
    : Option (Setting × List Char) :=
  match fuel with
  | 0 => none
  | fuel + 1 => do
      let (key, rest) ← readKey chars
      let (value, rest) ← readValue fuel rest
      match skipBlanks rest with
      | ',' :: rest => readGroup fuel (setField fields key value) rest
      | '\x7d' :: rest => return (group (setField fields key value), rest)
      | _ => none

end

/-- The tree that a text writes. Each value or field takes a character at least, so the length of
the text is fuel enough.
-/
def ofJson? (json : String) : Option Setting := do
  let chars := json.toList
  let (setting, rest) ← readValue (chars.length + 1) chars
  if (skipBlanks rest).isEmpty then return setting else none

end Breakwater.Setting
