import LogFanout.Target

/-!
# Mismatches

Why a document that is well formed is no blueprint: a value of the wrong kind, a number out of
range, a name that is not one of those known, a member that is missing or given twice.
-/

namespace LogFanout.Document

/-- A value that was found where another was wanted. -/
inductive Found where
  | null
  | boolean (value : Bool)
  | integer (value : Int)
  /-- An integer beyond 64 bits. -/
  | wideInteger (value : Int)
  /-- A number with a fraction, as messages show it. -/
  | fraction (shown : String)
  | text (value : String)
  | list
  | record
  deriving DecidableEq, Repr

/-- What was wanted. -/
inductive Expected where
  | blueprint
  | settings
  | plan
  | plans
  | text
  | boolean
  | size
  | descriptor
  | unit
  deriving DecidableEq, Repr

/-- Why a well-formed document is no blueprint. -/
inductive Mismatch where
  | wrongType (found : Found) (expected : Expected)
  | wrongValue (found : Found) (expected : Expected)
  | wrongLength (found : Nat)
  | unknownVariant (found : String) (known : List String)
  | missingField (name : String)
  | duplicateField (name : String)
  | target (error : TargetError)
  /-- An integer beyond 128 bits, or a text that only begins like an integer. -/
  | integerOverflow
  /-- A decimal number beyond the range of the binary format. -/
  | fractionOverflow
  /-- A choice that is neither a text nor a table. -/
  | noChoice
  /-- A choice given by a table without entries. -/
  | emptyChoice
  /-- A choice given by a table with several entries. -/
  | manyChoices
  /-- A choice with a value that is no table, by the name of its type. -/
  | choiceValue (type : String)
  /-- A choice with a table that is not empty. -/
  | choiceTable
  /-- A choice with an array that is not empty. -/
  | choiceArray
  deriving DecidableEq, Repr

/-- The wording of a value found. -/
def Found.message : Found → String
  | .null => "null"
  | .boolean value => "boolean \x60" ++ (if value then "true" else "false") ++ "\x60"
  | .integer value => "integer \x60" ++ Text.decimalInt value ++ "\x60"
  | .wideInteger value =>
    "integer \x60" ++ Text.decimalInt value ++ "\x60 as "
      ++ (if value < Nat.pow 2 127 then "i128" else "u128")
  | .fraction shown => "floating point \x60" ++ shown ++ "\x60"
  | .text value => "string " ++ Text.quoted value
  | .list => "sequence"
  | .record => "map"

/-- The wording of what was wanted. -/
def Expected.message : Expected → String
  | .blueprint => "struct LoggingBlueprint"
  | .settings => "struct LoggerSettings"
  | .plan => "struct EndpointConfig"
  | .plans => "a sequence"
  | .text => "a string"
  | .boolean => "a boolean"
  | .size => "usize"
  | .descriptor => "i32"
  | .unit => "unit"

/-- A list of known names. -/
def knownMessage : List String → String
  | [] => "there are no variants"
  | [a] => "expected \x60" ++ a ++ "\x60"
  | [a, b] => "expected \x60" ++ a ++ "\x60 or \x60" ++ b ++ "\x60"
  | names =>
    "expected one of " ++ String.intercalate ", " (names.map fun n => "\x60" ++ n ++ "\x60")

/-- The wording of a mismatch. -/
def Mismatch.message : Mismatch → String
  | .wrongType found expected =>
    "invalid type: " ++ found.message ++ ", expected " ++ expected.message
  | .wrongValue found expected =>
    "invalid value: " ++ found.message ++ ", expected " ++ expected.message
  | .wrongLength found =>
    "invalid length " ++ Text.decimal found ++ ", expected " ++ Expected.plan.message
      ++ " with 5 elements"
  | .unknownVariant found known => "unknown variant \x60" ++ found ++ "\x60, " ++ knownMessage known
  | .missingField name => "missing field \x60" ++ name ++ "\x60"
  | .duplicateField name => "duplicate field \x60" ++ name ++ "\x60"
  | .target error => error.message
  | .integerOverflow => "integer number overflowed"
  | .fractionOverflow => "floating-point number overflowed"
  | .noChoice => "wanted string or table"
  | .emptyChoice => "wanted exactly 1 element, found 0 elements"
  | .manyChoices => "wanted exactly 1 element, more than 1 element"
  | .choiceValue type => "expected table, found " ++ type
  | .choiceTable => "expected empty table"
  | .choiceArray => "expected empty array"

end LogFanout.Document
