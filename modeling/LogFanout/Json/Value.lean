import LogFanout.Text.Numeral

/-!
# JSON values and their layout

A value is written over several lines, each level two blanks further in; empty lists and records
stay on their line. Members keep their order.
-/

namespace LogFanout.Json

/-- A value to be written as JSON. -/
inductive Value where
  | text (value : String)
  | integer (value : Int)
  | boolean (value : Bool)
  | list (items : List Value)
  | record (members : List (String × Value))

/-- A hexadecimal digit, in small letters. -/
def hexDigit (n : Nat) : Char :=
  Nat.digitChar n

/-- A character inside a string. -/
def escape (c : Char) : List Char :=
  if c = '"' then ['\\', '"']
  else if c = '\\' then ['\\', '\\']
  else if c = '\x08' then ['\\', 'b']
  else if c = '\x0c' then ['\\', 'f']
  else if c = '\n' then ['\\', 'n']
  else if c = '\r' then ['\\', 'r']
  else if c = '\t' then ['\\', 't']
  else if c.toNat < 0x20 then
    ['\\', 'u', '0', '0', hexDigit (c.toNat / 16), hexDigit (c.toNat % 16)]
  else [c]

/-- A string with its quotes. -/
def writeText (s : String) : List Char :=
  '"' :: s.toList.flatMap escape ++ ['"']

/-- A new line, `depth` levels in. -/
def newLine (depth : Nat) : List Char :=
  '\n' :: List.replicate (2 * depth) ' '

namespace Value

mutual

/-- A value on the line where it begins, its own lines `depth` levels in. -/
def layout (depth : Nat) : Value → List Char
  | .text value => writeText value
  | .integer value => (Text.decimalInt value).toList
  | .boolean value => if value then ['t', 'r', 'u', 'e'] else ['f', 'a', 'l', 's', 'e']
  | .list [] => ['[', ']']
  | .list (item :: items) =>
    '[' :: newLine (depth + 1) ++ layout (depth + 1) item ++ layoutItems (depth + 1) items
      ++ newLine depth ++ [']']
  | .record [] => ['\x7b', '\x7d']
  | .record ((key, value) :: members) =>
    '\x7b' :: newLine (depth + 1) ++ writeText key ++ ':' :: ' ' :: layout (depth + 1) value
      ++ layoutMembers (depth + 1) members ++ newLine depth ++ ['\x7d']

/-- The items after the first one, each on a line of its own after a comma. -/
def layoutItems (depth : Nat) : List Value → List Char
  | [] => []
  | item :: items => ',' :: newLine depth ++ layout depth item ++ layoutItems depth items

/-- The members after the first one, each on a line of its own after a comma. -/
def layoutMembers (depth : Nat) : List (String × Value) → List Char
  | [] => []
  | (key, value) :: members =>
    ',' :: newLine depth ++ writeText key ++ ':' :: ' ' :: layout depth value
      ++ layoutMembers depth members

end

/-- The document of a value. -/
def pretty (value : Value) : String :=
  String.ofList (value.layout 0)

end Value

end LogFanout.Json
