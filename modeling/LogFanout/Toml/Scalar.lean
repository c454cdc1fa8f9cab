import LogFanout.Toml.Moment
import LogFanout.Toml.Number
import LogFanout.Toml.Text

/-!
# TOML scalars

A value that is neither an array nor a table is a string between quotes or a text without any. Such
a text goes on over blanks, up to whatever cannot be part of it; its first character tells what it
has to be.
-/

namespace LogFanout.Toml

/-- A value that is neither an array nor a table. -/
inductive Scalar where
  | text (value : String)
  /-- An integer, or a text that has to be one but has no value. -/
  | integer (value : Option Int)
  | fraction (value : Fraction)
  | boolean (value : Bool)
  | moment
  deriving DecidableEq, Repr

/-- Whether a value without quotes ends between two characters. It does before a dot behind blanks,
and before a quote that begins a string, behind a blank or a dot. -/
def endsBare (last next : Char) : Bool :=
  isBreak next || (isBlank last && next = '.') || ((isBlank last || last = '.') && isQuote next)

/-- The text in front of whatever ends a value without quotes, after its character `last`. -/
def frontBare : (last : Char) → List Char → List Char
  | _, [] => []
  | last, c :: cs => if endsBare last c then [] else c :: frontBare c cs

/-- Takes a value without quotes; the blanks behind it are no part of it. -/
def takeBare (c : Char) (cs : List Char) : List Char × List Char :=
  let front := if isBreak c then [] else c :: frontBare c cs
  let text := (front.reverse.dropWhile isBlank).reverse
  (text, (c :: cs).drop text.length)

/-- What is wrong with a text without quotes that is no value of any type: a quote is missing in
front if there is one at its end. -/
def Flaw.unquoted (text : List Char) : Flaw :=
  let forms : List Form := [.literalLines, .basicLines, .literal, .basic]
  match forms.find? fun form => form.mark.isSuffixOf text with
  | some form => .before (.noOpening form) text
  | none => .whole .notQuoted text

/-- A text that has to be one particular word; `cause` says what is wrong with any other. -/
def readWord (cause : String → Cause) (word : List Char) (value : Scalar) (text : List Char) :
    Except Flaw Scalar :=
  if text = word then .ok value
  else if ' ' ∈ text then .error (.unquoted text)
  else .error (.whole (cause (String.ofList word)) text)

/-- The number in base ten, the date or the time that is left of a text behind its sign. -/
def readDecimal (negative : Bool) (text cs : List Char) : Except Flaw Scalar :=
  match cs.dropWhile Char.isDigit with
  | [] => (readWhole negative cs).map fun n => .integer (some n)
  | c :: rest =>
    if c = '-' ∨ c = ':' then
      match checkMoment text with
      | .ok () => .ok .moment
      | .error cause => .error (.whole cause text)
    else if ' ' ∈ c :: rest then .error (.unquoted text)
    else if (c :: rest).any fun c => c = '.' || c = 'e' || c = 'E' then
      (readFraction negative cs).map .fraction
    else if c = '_' then (readSeparated negative cs).map .integer
    else .error (.unquoted text)

/-- The number, date or time that is left of a text behind its sign, if it has one. -/
def readNumber (sign : Option Bool) (text cs : List Char) : Except Flaw Scalar :=
  match cs with
  | '0' :: c :: digits =>
    if isBaseLetter c then
      if ' ' ∈ digits then .error (.unquoted text)
      else if sign.isSome then .error ⟨.signedBase, text, 1⟩
      else
        match Base.ofLetter? c with
        | none => .error ⟨.needlessBase, cs, 2⟩
        | some base =>
          if c ≠ base.letter then .error ⟨.capitalBase base, cs, 2⟩
          else (base.readDigits digits).map .integer
    else readDecimal (sign.getD false) text cs
  | cs => readDecimal (sign.getD false) text cs

/-- Whether a character begins a number. -/
def beginsNumber (c : Char) : Bool :=
  c.isDigit || c = '_' || c = '.'

/-- The number that is left of a text behind its sign. -/
def readSigned (negative : Bool) (text : List Char) : List Char → Except Flaw Scalar
  | [] => .error (.unquoted text)
  | c :: cs =>
    if ' ' ∈ c :: cs then .error (.unquoted text)
    else if c = '+' ∨ c = '-' then .error ⟨.doubleSign, c :: cs, 1⟩
    else if c = '.' then .error (.before (.badNumber .mantissa) text)
    else if beginsNumber c then readNumber (some negative) text (c :: cs)
    else if c.toLower = 'i' then
      readWord .badFloatWord ['i', 'n', 'f'] (.fraction (.infinite negative)) (c :: cs)
    else if c.toLower = 'n' then
      readWord .badFloatWord ['n', 'a', 'n'] (.fraction .notANumber) (c :: cs)
    else .error (.unquoted text)

/-- The value of a text without quotes. -/
def readBare (text : List Char) : Except Flaw Scalar :=
  match text with
  | [] => .error (.unquoted [])
  | c :: cs =>
    if c = '+' ∨ c = '-' then readSigned (c = '-') text cs
    else if beginsNumber c then readNumber none text text
    else if c.toLower = 't' then
      readWord .badBoolean ['t', 'r', 'u', 'e'] (.boolean true) text
    else if c.toLower = 'f' then
      readWord .badBoolean ['f', 'a', 'l', 's', 'e'] (.boolean false) text
    else if c.toLower = 'i' then
      readWord .badFloatWord ['i', 'n', 'f'] (.fraction (.infinite false)) text
    else if c.toLower = 'n' then
      readWord .badFloatWord ['n', 'a', 'n'] (.fraction .notANumber) text
    else .error (.unquoted text)

/-- Reads a scalar from a text that is not empty: its value, if nothing is wrong with it, and the
text after it. -/
def readScalar (c : Char) (cs : List Char) : Except Fault Scalar × List Char :=
  if isQuote c then
    let (text, rest) := readText (Form.opening c cs) cs
    (text.map .text, rest)
  else
    let (text, rest) := takeBare c cs
    ((readBare text).mapError (Flaw.toFault rest), rest)

end LogFanout.Toml
