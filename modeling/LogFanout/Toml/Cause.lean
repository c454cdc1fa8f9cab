import LogFanout.Document.Mismatch
import LogFanout.Toml.Form

/-!
# What is wrong with a TOML document

Most causes are worded as what was found, and what was expected instead.
-/

namespace LogFanout.Toml

/-- A base of integers other than ten. -/
inductive Base where
  | hexadecimal
  | octal
  | binary
  deriving DecidableEq, Repr

/-- The letter that tells a base. -/
def Base.letter : Base → Char
  | .hexadecimal => 'x'
  | .octal => 'o'
  | .binary => 'b'

/-- The name of a base. -/
def Base.name : Base → String
  | .hexadecimal => "hexadecimal"
  | .octal => "octal"
  | .binary => "binary"

/-- A part of a decimal number. -/
inductive NumberPart where
  | mantissa
  | places
  | exponent
  deriving DecidableEq, Repr

/-- The name of a part of a decimal number. -/
def NumberPart.name : NumberPart → String
  | .mantissa => "mantissa"
  | .places => "fraction"
  | .exponent => "exponent"

/-- A part of a date and time. -/
inductive MomentPart where
  | whole
  | date
  | time
  | both
  | offset
  deriving DecidableEq, Repr

/-- The name of a part of a date and time. -/
def MomentPart.name : MomentPart → String
  | .whole => "datetime"
  | .date => "date"
  | .time => "time"
  | .both => "date-time"
  | .offset => "offset"

/-- What an inline table needs next. -/
inductive Need where
  | key
  | equals
  | value
  | comma
  deriving DecidableEq, Repr

/-- What is wrong with a document. -/
inductive Cause where
  /-- Something stands behind the end of a line's header or value. -/
  | extraText
  | noKey
  /-- A key goes with no value; `dotted` says that it begins with a dot. -/
  | noEquals (dotted : Bool)
  | noHeaderStart
  | openHeader
  /-- The header of a table in an array does not end; `half` says that it has one bracket. -/
  | openRepeated (half : Bool)
  | noListStart
  | openList
  | noListComma
  | extraListComma
  | equalsInList
  | noTableStart
  | openTable
  /-- Something is missing before what comes next. -/
  | missingInTable (missing need : Need)
  | strayInTable (need : Need)
  | extraTableComma (need : Need)
  | extraTableEquals (need : Need)
  | extraEquals
  | tooDeep
  | commentCharacter
  | loneReturn
  | emptyKey
  | keyCharacter
  /-- A key is a string over several lines. -/
  | longKey (form : Form)
  | deepKey
  | duplicateKey
  /-- A key goes through a value, of a type with a name. -/
  | closedValue (type : String)
  | openText (form : Form)
  | textCharacter (form : Form)
  | badEscape
  /-- A backslash stands before blanks, and they are not the last of their line. -/
  | badFold
  | shortCode
  | badCode
  /-- A text without quotes is no value of any type. -/
  | notQuoted
  /-- A text without quotes ends like a string of some form. -/
  | noOpening (form : Form)
  | badBoolean (word : String)
  | badFloatWord (word : String)
  | underscore
  | leadingZero
  | doubleSign
  | signedBase
  | innerSign
  /-- The letter in front is that of base ten. -/
  | needlessBase
  | capitalBase (base : Base)
  | badDigits (base : Base)
  | badNumber (part : NumberPart)
  | badFloat
  | badMoment (part : MomentPart) (expected : Option String)
  | mismatch (why : Document.Mismatch)
  deriving DecidableEq, Repr

/-- A text that is to be typed as it is. -/
def quoteWord (word : String) : String :=
  "\x60" ++ word ++ "\x60"

/-- The wording of what was found and what was expected. -/
def wanting (found : String) (expected : List String) : String :=
  found ++ ", expected "
    ++ (if expected.isEmpty then "nothing" else String.intercalate ", " expected)

/-- The characters of a key without quotes, for messages. -/
def keyCharacters : List String :=
  ["letters", "numbers", quoteWord "-", quoteWord "_"]

/-- What may stand in a string, for messages. -/
def Form.characters : Form → List String
  | .basic => ["non-double-quote visible characters", quoteWord "\\"]
  | .literal => ["non-single-quote visible characters"]
  | .basicLines => [quoteWord "\\", "characters"]
  | .literalLines => ["non-single-quote characters"]

/-- What an inline table needs, for messages. -/
def Need.expected : Need → String
  | .key => "key"
  | .equals => quoteWord "="
  | .value => "value"
  | .comma => quoteWord ","

/-- The wording of what is missing in an inline table. -/
def Need.missing : Need → String
  | .key => "missing key for inline table element"
  | .equals => "missing assignment between key-value pairs"
  | .value => "missing value"
  | .comma => "missing comma between key-value pairs"

namespace Cause

/-- The wording of a cause. -/
def message : Cause → String
  | .extraText => wanting "unexpected key or value" ["newline", quoteWord "#"]
  | .noKey => wanting "invalid key-value pair" ["key"]
  | .noEquals dotted =>
    wanting (if dotted then "missing value for key" else "key with no value") [quoteWord "="]
  | .noHeaderStart => wanting "missing table open" [quoteWord "["]
  | .openHeader => wanting "unclosed table" [quoteWord "]"]
  | .openRepeated half =>
    wanting "unclosed array table" [if half then quoteWord "]" else quoteWord "]]"]
  | .noListStart => wanting "missing array opening" [quoteWord "["]
  | .openList => wanting "unclosed array" [quoteWord "]"]
  | .noListComma => wanting "missing comma between array elements" [quoteWord ","]
  | .extraListComma => wanting "extra comma in array" ["value"]
  | .equalsInList => wanting "unexpected \x60=\x60 in array" ["value", quoteWord "]"]
  | .noTableStart => wanting "missing inline table opening" [quoteWord "\x7b"]
  | .openTable => wanting "unclosed inline table" [quoteWord "\x7d"]
  | .missingInTable missing need => wanting missing.missing [need.expected]
  | .strayInTable need => wanting "invalid inline table element" [need.expected]
  | .extraTableComma need => wanting "extra comma in inline table" [need.expected]
  | .extraTableEquals need => wanting "extra assignment between key-value pairs" [need.expected]
  | .extraEquals => wanting "extra \x60=\x60" []
  | .tooDeep => "cannot recurse further; max recursion depth met"
  | .commentCharacter => wanting "invalid comment character" ["printable characters"]
  | .loneReturn => wanting "carriage return must be followed by newline" ["newline"]
  | .emptyKey => wanting "unquoted keys cannot be empty" keyCharacters
  | .keyCharacter => wanting "invalid unquoted key" keyCharacters
  | .longKey form =>
    wanting ("keys cannot be " ++ form.name ++ "s") [Form.basic.name, Form.literal.name]
  | .deepKey => "recursion limit"
  | .duplicateKey => "duplicate key"
  | .closedValue type => "cannot extend value of type " ++ type ++ " with a dotted key"
  | .openText form => wanting ("invalid " ++ form.name) [quoteWord (String.singleton form.quote)]
  | .textCharacter form => wanting ("invalid " ++ form.name) form.characters
  | .badEscape =>
    wanting "missing escaped value"
      (["b", "e", "f", "n", "r", "\\", "\"", "x", "u", "U"].map quoteWord)
  | .badFold => wanting ("invalid " ++ Form.basicLines.name) ["newline"]
  | .shortCode => wanting "too few unicode value digits" ["unicode hexadecimal value"]
  | .badCode => wanting "invalid value" ["unicode hexadecimal value"]
  | .notQuoted => wanting "string values must be quoted" ["literal string"]
  | .noOpening form => wanting "missing opening quote" [quoteWord (String.ofList form.mark)]
  | .badBoolean word => wanting "invalid boolean" [quoteWord word]
  | .badFloatWord word => wanting "invalid float" [quoteWord word]
  | .underscore => wanting "\x60_\x60 may only go between digits" []
  | .leadingZero => wanting "unexpected leading zero" []
  | .doubleSign => wanting "redundant numeric sign" []
  | .signedBase => wanting "integers with a radix cannot be signed" []
  | .needlessBase => wanting "redundant integer number prefix" []
  | .innerSign => wanting "unexpected sign" []
  | .capitalBase base =>
    wanting "radix must be lowercase" [quoteWord ("0" ++ String.singleton base.letter)]
  | .badDigits base => "invalid " ++ base.name ++ " number"
  | .badNumber part => wanting ("invalid " ++ part.name) ["digits"]
  | .badFloat => wanting "invalid float" []
  | .badMoment part none => "invalid " ++ part.name
  | .badMoment part (some expected) => wanting ("invalid " ++ part.name) [expected]
  | .mismatch why => why.message

/-- Whether a report says where the fault is. -/
def isPlaced : Cause → Bool
  | .deepKey => false
  | _ => true

end Cause

end LogFanout.Toml
