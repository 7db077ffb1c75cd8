import Breakwater.Text.Printable

/-!
One-line text for values: quoted strings, optional values, lists and records written as
a name with its fields in order.
-/

namespace Breakwater.Text

/-- Characters that cannot stand for themselves are written by their code point in hex. -/
def hexEscape (c : Char) : List Char :=
  ['\\', 'u', '\x7b'] ++ Nat.toDigits 16 c.toNat ++ ['\x7d']

/-- The escape of one character inside a quoted string. -/
def escape (c : Char) : List Char :=
  if c = '"' then ['\\', '"']
  else if c = '\\' then ['\\', '\\']
  else if c = '\n' then ['\\', 'n']
  else if c = '\r' then ['\\', 'r']
  else if c = '\t' then ['\\', 't']
  else if c = '\x00' then ['\\', '0']
  else if isPrintable c then [c]
  else hexEscape c

/-- A string between double quotes, with its special characters escaped. -/
def quoted (text : String) : String :=
  String.ofList ('"' :: text.toList.flatMap escape ++ ['"'])

/-- An optional value is named by its case. -/
def optional {α : Type} (describe : α → String) : Option α → String
  | none => "None"
  | some value => "Some(" ++ describe value ++ ")"

/-- Values in order between square brackets. -/
def listed (items : List String) : String :=
  "[" ++ String.intercalate ", " items ++ "]"

/-- A record is its name followed by its fields in order. -/
def record (name : String) (fields : List (String × String)) : String :=
  let inner := fields.map (fun field => field.1 ++ ": " ++ field.2)
  name ++ " \x7b " ++ String.intercalate ", " inner ++ " \x7d"

end Breakwater.Text
