import Rowwise.Number.Decimal
import Rowwise.Text.Hex

/-!
# JSON values

Documents as values, and the layout with two spaces an indentation in which they are written.
Objects keep the order of their fields.
-/

namespace Rowwise

/-- A JSON value. A number that is written as an integer is told apart from all others. -/
inductive Json
  | null
  | bool (value : Bool)
  | integer (value : Int)
  | decimal (value : Decimal)
  | string (text : Text)
  | array (items : List Json)
  | object (fields : List (Text × Json))

namespace Json

/-- A string value of a fixed text. -/
def ofString (s : String) : Json :=
  .string s.toList

/-- An object with fixed keys. -/
def record (fields : List (String × Json)) : Json :=
  .object (fields.map fun field => (field.1.toList, field.2))

/-- An array of strings. -/
def texts (items : List Text) : Json :=
  .array (items.map .string)

/-! ### Strings -/

/-- A character inside a string: quotes, backslashes and control characters are escaped. -/
def escapeChar (c : Char) : Text :=
  if c = '"' then ['\\', '"']
  else if c = '\\' then ['\\', '\\']
  else if c = '\n' then ['\\', 'n']
  else if c = '\r' then ['\\', 'r']
  else if c = '\t' then ['\\', 't']
  else if c = '\x08' then ['\\', 'b']
  else if c = '\x0c' then ['\\', 'f']
  else if c.toNat < 0x20 then
    ['\\', 'u', '0', '0', Hex.lowerDigit (c.toNat / 16), Hex.lowerDigit (c.toNat % 16)]
  else [c]

/-- A string in quotes. -/
def quoted (text : Text) : Text :=
  '"' :: text.flatMap escapeChar ++ ['"']

/-! ### Layout -/

/-- A new line at a depth. -/
def newline (depth : Nat) : Text :=
  '\n' :: List.replicate (2 * depth) ' '

/-- A decimal in exponent form. -/
def decimalText (d : Decimal) : Text :=
  (if d.negative then ['-'] else []) ++ Number.digitsText d.digits ++ 'e' ::
    Number.integerText d.exponent

mutual

/-- A value whose first character stands at a depth. -/
def layout (depth : Nat) : Json → Text
  | .null => "null".toList
  | .bool value => if value then "true".toList else "false".toList
  | .integer value => Number.integerText value
  | .decimal value => decimalText value
  | .string text => quoted text
  | .array [] => ['[', ']']
  | .array (item :: rest) =>
    '[' :: newline (depth + 1) ++ layout (depth + 1) item ++ layoutItems (depth + 1) rest ++
      newline depth ++ [']']
  | .object [] => ['\x7b', '\x7d']
  | .object ((key, value) :: rest) =>
    '\x7b' :: newline (depth + 1) ++ quoted key ++ ':' :: ' ' :: layout (depth + 1) value ++
      layoutFields (depth + 1) rest ++ newline depth ++ ['\x7d']

/-- The items of an array after the first. -/
def layoutItems (depth : Nat) : List Json → Text
  | [] => []
  | item :: rest => ',' :: newline depth ++ layout depth item ++ layoutItems depth rest

/-- The fields of an object after the first. -/
def layoutFields (depth : Nat) : List (Text × Json) → Text
  | [] => []
  | (key, value) :: rest =>
    ',' :: newline depth ++ quoted key ++ ':' :: ' ' :: layout depth value ++
      layoutFields depth rest

end

/-- The text of a value, laid out over several lines. -/
def pretty (value : Json) : Text :=
  layout 0 value

end Json

end Rowwise
