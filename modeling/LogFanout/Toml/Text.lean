import LogFanout.Text.Digits
import LogFanout.Toml.Scan

/-!
# Reading TOML strings

Where a string ends is found first, and then what it stands for. A string of one line ends at the
latest with its line. A newline right after three opening quotes is no part of the string; before
three closing quotes there may be one or two quotes more. Newlines are kept as they are written.
-/

namespace LogFanout.Toml

/-- Takes a string of one line up to behind its closing quote, after `done` in reverse; `escaped`
says that a backslash came right before. -/
def takeLine (form : Form) : (escaped : Bool) → (done : List Char) → List Char →
    List Char × List Char
  | _, done, [] => (done.reverse, [])
  | escaped, done, c :: cs =>
    if escaped ∧ (c = '\\' ∨ c = '"') then takeLine form false (c :: done) cs
    else if c = form.quote then ((c :: done).reverse, cs)
    else if c = '\n' then (done.reverse, c :: cs)
    else takeLine form (form.escapes && c = '\\') (c :: done) cs

/-- Takes a string of several lines up to behind its closing quotes, after `done` in reverse. -/
def takeLines (form : Form) : (escaped : Bool) → (done : List Char) → List Char →
    List Char × List Char
  | _, done, [] => (done.reverse, [])
  | escaped, done, c :: cs =>
    if escaped ∧ (c = '\\' ∨ c = '"') then takeLines form false (c :: done) cs
    else if form.mark.isPrefixOf (c :: cs) then
      let after := cs.drop 2
      let more := (after.take 2).takeWhile (· = form.quote)
      (done.reverse ++ form.mark ++ more, after.drop more.length)
    else takeLines form (form.escapes && c = '\\') (c :: done) cs

/-- A text without the mark at its end. -/
def dropMark? (mark cs : List Char) : Option (List Char) :=
  if mark.isSuffixOf cs then some (cs.take (cs.length - mark.length)) else none

/-- The text without a newline in front. -/
def dropNewline : List Char → List Char
  | '\n' :: cs => cs
  | '\r' :: '\n' :: cs => cs
  | cs => cs

/-- The text after blanks and newlines. -/
def dropLines : List Char → List Char
  | [] => []
  | '\r' :: '\n' :: cs => dropLines cs
  | c :: cs => if isBlank c ∨ c = '\n' then dropLines cs else c :: cs

/-- Whether no string of a form may hold a character. -/
def Form.refuses (form : Form) (c : Char) : Bool :=
  !isPlain c && !(form.isLong && (c = '\n' || c = '\r'))

/-- A fault of a character that may not stand in a string; in a form with escapes it takes in all
such characters behind it. -/
def Flaw.character (form : Form) (cs : List Char) : Flaw :=
  ⟨.textCharacter form, cs, if form.escapes then (cs.takeWhile form.refuses).length else 0⟩

/-- The character with the number given by the first `count` characters. -/
def readCode (count : Nat) (cs : List Char) : Except Flaw (Char × List Char) :=
  let digits := (cs.take count).takeWhile fun c => (Text.hexValue? c).isSome
  let code := Text.digitsValue 16 digits
  if digits.length < count then .error (.before .shortCode (cs.drop digits.length))
  else if code.isValidChar then .ok (Char.ofNat code, cs.drop count)
  else .error (.before .badCode cs)

/-- The character that a letter stands for after a backslash. -/
def unescape? (c : Char) : Option Char :=
  if c = '"' ∨ c = '\\' then some c
  else if c = 'b' then some '\x08'
  else if c = 't' then some '\t'
  else if c = 'n' then some '\n'
  else if c = 'f' then some '\x0c'
  else if c = 'r' then some '\r'
  else if c = 'e' then some '\x1b'
  else none

/-- The character of what follows a backslash. -/
def readEscape : List Char → Except Flaw (Char × List Char)
  | [] => .error (.before .badEscape [])
  | c :: cs =>
    if c = 'x' then readCode 2 cs
    else if c = 'u' then readCode 4 cs
    else if c = 'U' then readCode 8 cs
    else
      match unescape? c with
      | some c => .ok (c, cs)
      | none => .error (.before .badEscape (c :: cs))

/-- Whether a backslash before a text begins a fold, which joins lines. -/
def beginsFold (cs : List Char) : Bool :=
  cs.head?.any fun c => isBlank c || c = '\n' || c = '\r'

/-- The text after a fold: the rest of the line has to be blank, and the blanks and newlines behind
it go with it. -/
def dropFold (cs : List Char) : Except Flaw (List Char) :=
  match dropBlank cs with
  | '\n' :: cs => .ok (dropLines cs)
  | '\r' :: '\n' :: cs => .ok (dropLines cs)
  | '\r' :: cs => .error (.before .loneReturn cs)
  | cs => .error (.before .badFold cs)

/-- The characters that a text with escapes stands for, after `done` in reverse. Over several lines
a backslash at the end of one begins a fold. -/
def readEscaped (form : Form) :
    (fuel : List Char) → (done : List Char) → List Char → Except Flaw (List Char)
  | _, done, [] => .ok done.reverse
  | [], _, cs => .error (.character form cs)
  | _ :: fuel, done, c :: cs =>
    if c = '\\' then
      if form.isLong ∧ beginsFold cs then do
        readEscaped form fuel done (← dropFold cs)
      else do
        let (c, cs) ← readEscape cs
        readEscaped form fuel (c :: done) cs
    else if form.isLong ∧ c = '\r' then
      match cs with
      | '\n' :: cs => readEscaped form fuel ('\n' :: '\r' :: done) cs
      | cs => .error (.before .loneReturn cs)
    else if form.refuses c then .error (.character form (c :: cs))
    else readEscaped form fuel (c :: done) cs

/-- Checks the characters of a text without escapes. -/
def checkPlain (form : Form) : List Char → Except Flaw Unit
  | [] => .ok ()
  | '\r' :: '\n' :: cs => checkPlain form cs
  | c :: cs =>
    if form.isLong ∧ c = '\r' then .error (.before .loneReturn cs)
    else if form.refuses c then .error (.character form (c :: cs))
    else checkPlain form cs

/-- The string that a text between two marks stands for. -/
def readInner (form : Form) (cs : List Char) : Except Flaw String := do
  let cs := if form.isLong then dropNewline cs else cs
  if form.escapes then
    let cs ← readEscaped form cs [] cs
    .ok (String.ofList cs)
  else
    checkPlain form cs
    .ok (String.ofList cs)

/-- Reads a string from behind its first quote: the string, if nothing is wrong with it, and the
text after it. -/
def readText (form : Form) (cs : List Char) : Except Fault String × List Char :=
  let (written, rest) :=
    if form.isLong then takeLines form false [] (cs.drop 2) else takeLine form false [] cs
  match dropMark? form.mark written with
  | none => (.error ⟨.openText form, .before rest⟩, rest)
  | some inner => ((readInner form inner).mapError (Flaw.toFault (form.mark ++ rest)), rest)

end LogFanout.Toml
