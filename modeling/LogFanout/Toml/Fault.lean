import LogFanout.Text.Utf8
import LogFanout.Toml.Cause

/-!
# Faults in a TOML document

A piece of a document is told by the texts left at both of its ends. Only when a fault is reported,
and the whole document is at hand again, does this become a line and a column.
-/

namespace LogFanout.Toml

/-- A piece of a document. -/
structure Span where
  /-- The text left at its start. -/
  start : List Char
  /-- The text left behind it. -/
  stop : List Char
  deriving DecidableEq, Repr

/-- The empty piece before a text. -/
def Span.before (cs : List Char) : Span :=
  ⟨cs, cs⟩

/-- The piece of one character before a text. -/
def Span.one (c : Char) (cs : List Char) : Span :=
  ⟨c :: cs, cs⟩

/-- What is wrong with a document, and where. -/
structure Fault where
  cause : Cause
  span : Span
  deriving DecidableEq, Repr

/-- A fault within a text that was cut out of a document. -/
structure Flaw where
  cause : Cause
  /-- The rest of the text from the fault on. -/
  rest : List Char
  /-- The number of characters at fault. -/
  width : Nat
  deriving DecidableEq, Repr

/-- A fault of a whole text. -/
def Flaw.whole (cause : Cause) (text : List Char) : Flaw :=
  ⟨cause, text, text.length⟩

/-- A fault right before what is left of a text. -/
def Flaw.before (cause : Cause) (rest : List Char) : Flaw :=
  ⟨cause, rest, 0⟩

/-- A flaw in the document, which goes on with `tail` behind the text. -/
def Flaw.toFault (tail : List Char) (flaw : Flaw) : Fault :=
  ⟨flaw.cause, flaw.rest ++ tail, flaw.rest.drop flaw.width ++ tail⟩

/-- The number of bytes of a text. -/
def byteCount (cs : List Char) : Nat :=
  (cs.flatMap String.utf8EncodeChar).length

/-- The text behind the last newline. -/
def lastLine (cs : List Char) : List Char :=
  (cs.reverse.takeWhile (· ≠ '\n')).reverse

/-- A fault as it is reported. -/
structure Report where
  cause : Cause
  /-- The number of the line, counted from one. -/
  line : Nat
  /-- The number of columns in front of the fault. -/
  column : Nat
  /-- The text of the line. -/
  source : List Char
  /-- The number of columns that are marked. -/
  width : Nat
  deriving DecidableEq, Repr

/-- The report of a fault in a document. Columns are characters, or bytes where the fault begins
with a character of several bytes. A fault at the end of the document is taken to the column behind
its last character, even if that is a newline. -/
def Fault.report (content : List Char) (fault : Fault) : Report :=
  let (before, after) := match fault.span.start with
    | [] => (content.dropLast, content.drop (content.length - 1))
    | start => (content.take (content.length - start.length), start)
  let line := lastLine before
  let column := match fault.span.start with
    | [] => if content = [] then 0 else line.length + 1
    | c :: _ => if c.utf8Size = 1 then line.length else byteCount line
  let source := line ++ after.takeWhile (· ≠ '\n')
  { cause := fault.cause
    line := before.count '\n' + 1
    column
    source
    width := max 1
      (min (byteCount fault.span.start - byteCount fault.span.stop) (byteCount source - column)) }

/-- The wording of the place of a report, and of the line with the fault marked below it. -/
def Report.place (report : Report) : String :=
  let number := Text.decimal report.line
  let gutter := String.ofList (List.replicate (number.length + 1) ' ')
  "TOML parse error at line " ++ number ++ ", column " ++ Text.decimal (report.column + 1) ++ "\n"
    ++ gutter ++ "|\n"
    ++ number ++ " | " ++ String.ofList report.source ++ "\n"
    ++ gutter ++ "|" ++ String.ofList (List.replicate (report.column + 1) ' ')
    ++ String.ofList (List.replicate report.width '^') ++ "\n"

/-- The wording of a report. -/
def Report.message (report : Report) : String :=
  (if report.cause.isPlaced then report.place else "") ++ report.cause.message ++ "\n"

end LogFanout.Toml
