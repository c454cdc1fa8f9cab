import LogFanout.Document.Mismatch
import LogFanout.Text.Utf8

/-!
# Reading JSON

A reader takes the text that is left to a value and the text after it. It fails where the text is
not JSON, where the text ends too early, or where a value is not the one wanted, whichever comes
first. A loop takes a second text as its fuel, one character a round; as each round reads at least
one character, a text is fuel enough for reading it.

A fault remembers the text that was left when it was found. Only in the end, when the whole document
is at hand again, does this become a line and a column.
-/

namespace LogFanout.Json

/-- What is wrong with a text. -/
inductive Cause where
  /-- The text ends before a value or within one that is neither string, list nor record. -/
  | endInValue
  | endInText
  | endInList
  | endInRecord
  /-- A value does not go on like the word that it begins as. -/
  | noWord
  | noValue
  | noColon
  | noListEnd
  | noRecordEnd
  | keyNotText
  | badEscape
  /-- A surrogate that is not one of a pair. -/
  | loneSurrogate
  /-- A leading surrogate without another escape behind it. -/
  | halfPair
  | controlCharacter
  | badNumber
  | hugeNumber
  | trailingComma
  /-- Something stands behind the end of the document, or behind the last member of a list. -/
  | trailingText
  | mismatch (why : Document.Mismatch)
  deriving DecidableEq, Repr

/-- The wording of a cause. -/
def Cause.message : Cause → String
  | .endInValue => "EOF while parsing a value"
  | .endInText => "EOF while parsing a string"
  | .endInList => "EOF while parsing a list"
  | .endInRecord => "EOF while parsing an object"
  | .noWord => "expected ident"
  | .noValue => "expected value"
  | .noColon => "expected \x60:\x60"
  | .noListEnd => "expected \x60,\x60 or \x60]\x60"
  | .noRecordEnd => "expected \x60,\x60 or \x60\x7d\x60"
  | .keyNotText => "key must be a string"
  | .badEscape => "invalid escape"
  | .loneSurrogate => "lone leading surrogate in hex escape"
  | .halfPair => "unexpected end of hex escape"
  | .controlCharacter =>
    "control character (\\u0000-\\u001F) found while parsing a string"
  | .badNumber => "invalid number"
  | .hugeNumber => "number out of range"
  | .trailingComma => "trailing comma"
  | .trailingText => "trailing characters"
  | .mismatch why => why.message

/-- Why reading stopped, and where. -/
structure Fault where
  cause : Cause
  /-- The text that was left. -/
  rest : List Char
  /-- How many bytes of it count as read. -/
  ahead : Nat
  /-- Whether this is the place to be reported; if not, the fault is about a whole list or record
  and belongs where that ends. -/
  settled : Bool
  deriving DecidableEq, Repr

namespace Fault

/-- A fault in front of a text. -/
def before (cause : Cause) (rest : List Char) : Fault :=
  ⟨cause, rest, 0, true⟩

/-- A fault in the first character of a text, if there is one; the first byte of it counts as read.
-/
def within (cause : Cause) (rest : List Char) : Fault :=
  ⟨cause, rest, 1, true⟩

/-- A mismatch in a list or record of which a text is left. -/
def unsettled (why : Document.Mismatch) (rest : List Char) : Fault :=
  ⟨.mismatch why, rest, 0, false⟩

end Fault

/-- A function that reads a value from the front of a text. -/
abbrev Reader (α : Type) := List Char → Except Fault (α × List Char)

/-- The characters that may stand between the parts of a document. -/
def isBlank (c : Char) : Bool :=
  c = ' ' || c = '\n' || c = '\t' || c = '\r'

/-- The text without the blanks in front. -/
def dropBlank (cs : List Char) : List Char :=
  cs.dropWhile isBlank

/-- Reads the characters of a word that has been recognised by its first one. -/
def readWord : List Char → List Char → Except Fault (List Char)
  | [], cs => .ok cs
  | _ :: _, [] => .error (.before .endInValue [])
  | w :: ws, c :: cs => if c = w then readWord ws cs else .error (.within .noWord (c :: cs))

/-- Reads the colon after a key. -/
def readColon (cs : List Char) : Except Fault (List Char) :=
  match dropBlank cs with
  | [] => .error (.before .endInRecord [])
  | ':' :: cs => .ok cs
  | cs => .error (.within .noColon cs)

/-- A fault as it is reported: a line, counted from one, and the number of bytes in front of the
fault on it. -/
structure Report where
  cause : Cause
  line : Nat
  column : Nat
  deriving DecidableEq, Repr

/-- The wording of a report. -/
def Report.message (report : Report) : String :=
  report.cause.message ++ " at line " ++ Text.decimal report.line
    ++ " column " ++ Text.decimal report.column

/-- The report of a fault in a document. -/
def Fault.report (content : List Char) (fault : Fault) : Report :=
  let bytes := content.flatMap String.utf8EncodeChar
  let left := (fault.rest.flatMap String.utf8EncodeChar).length
  let front := bytes.take (bytes.length - left + fault.ahead)
  { cause := fault.cause
    line := front.count 10 + 1
    column := (front.reverse.takeWhile fun byte => byte ≠ 10).length }

end LogFanout.Json
