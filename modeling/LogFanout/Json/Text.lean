import LogFanout.Json.Fault
import LogFanout.Text.Digits
import LogFanout.Text.Utf8

/-!
# JSON strings

The characters of a string up to its closing quote. Characters beyond the first plane may be escaped
as two surrogates; a surrogate on its own names no character.
-/

namespace LogFanout.Json

/-- Reads four hexadecimal digits; a text of fewer than four bytes has ended too early. -/
def readHex : Reader Nat
  | a :: b :: c :: d :: cs =>
    let digits := [a, b, c, d]
    if digits.all fun c => (Text.hexValue? c).isSome then .ok (Text.digitsValue 16 digits, cs)
    else .error ⟨.badEscape, a :: b :: c :: d :: cs, 4, true⟩
  | cs =>
    if (cs.flatMap String.utf8EncodeChar).length < 4 then .error (.before .endInText [])
    else .error ⟨.badEscape, cs, 4, true⟩

/-- Whether a number is that of a leading surrogate. -/
def isLeading (n : Nat) : Bool :=
  0xD800 ≤ n && n ≤ 0xDBFF

/-- Whether a number is that of a trailing surrogate. -/
def isTrailing (n : Nat) : Bool :=
  0xDC00 ≤ n && n ≤ 0xDFFF

/-- Reads the trailing surrogate that a leading one needs. -/
def readTrailing (leading : Nat) : Reader Char
  | [] => .error (.before .endInText [])
  | '\\' :: [] => .error (.before .endInText [])
  | '\\' :: 'u' :: cs => do
    let (trailing, cs) ← readHex cs
    if isTrailing trailing then
      .ok (Char.ofNat (0x10000 + 0x400 * (leading - 0xD800) + (trailing - 0xDC00)), cs)
    else .error (.before .loneSurrogate cs)
  | '\\' :: cs => .error (.within .halfPair cs)
  | cs => .error (.within .halfPair cs)

/-- The characters that stand for themselves or for a control character after a backslash. -/
def unescape? (c : Char) : Option Char :=
  if c = '"' ∨ c = '\\' ∨ c = '/' then some c
  else if c = 'b' then some '\x08'
  else if c = 'f' then some '\x0c'
  else if c = 'n' then some '\n'
  else if c = 'r' then some '\r'
  else if c = 't' then some '\t'
  else none

/-- Reads what follows a backslash. -/
def readEscape : Reader Char
  | [] => .error (.before .endInText [])
  | c :: cs =>
    if c = 'u' then do
      let (n, cs) ← readHex cs
      if isTrailing n then .error (.before .loneSurrogate cs)
      else if isLeading n then readTrailing n cs
      else .ok (Char.ofNat n, cs)
    else
      match unescape? c with
      | some c => .ok (c, cs)
      | none => .error (.within .badEscape (c :: cs))

/-- Reads characters up to the closing quote, after `done` in reverse. -/
def readChars : (fuel : List Char) → (done : List Char) → Reader (List Char)
  | [], _, cs => .error (.before .endInText cs)
  | _ :: _, _, [] => .error (.before .endInText [])
  | _ :: fuel, done, c :: cs =>
    if c = '"' then .ok (done.reverse, cs)
    else if c = '\\' then do
      let (c, cs) ← readEscape cs
      readChars fuel (c :: done) cs
    else if c.toNat < 0x20 then .error (.within .controlCharacter (c :: cs))
    else readChars fuel (c :: done) cs

/-- Reads a string from behind its opening quote. -/
def readText : Reader String := fun cs => do
  let (chars, cs) ← readChars cs [] cs
  .ok (String.ofList chars, cs)

/-- Passes over what follows a backslash, in a string whose characters do not matter. -/
def skipEscape : List Char → Except Fault (List Char)
  | [] => .error (.before .endInText [])
  | c :: cs =>
    if c = 'u' then do
      let (_, cs) ← readHex cs
      .ok cs
    else
      match unescape? c with
      | some _ => .ok cs
      | none => .error (.within .badEscape (c :: cs))

/-- Passes over characters up to the closing quote. -/
def skipChars : (fuel : List Char) → List Char → Except Fault (List Char)
  | [], cs => .error (.before .endInText cs)
  | _ :: _, [] => .error (.before .endInText [])
  | _ :: fuel, c :: cs =>
    if c = '"' then .ok cs
    else if c = '\\' then do
      let cs ← skipEscape cs
      skipChars fuel cs
    else if c.toNat < 0x20 then .error (.before .controlCharacter (c :: cs))
    else skipChars fuel cs

/-- Passes over a string from behind its opening quote. -/
def skipText (cs : List Char) : Except Fault (List Char) :=
  skipChars cs cs

end LogFanout.Json
