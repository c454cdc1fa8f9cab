import LogFanout.Toml.Form

/-!
# Writing TOML strings

A string is written in the first form that fits: between double quotes if nothing has to be escaped,
between single quotes, over several lines between three double or three single quotes, and else with
escapes, over several lines if it holds a newline. A form over several lines begins with a newline
if the string holds one.
-/

namespace LogFanout.Toml

/-- A control character other than tab and newline. -/
def isControl (c : Char) : Bool :=
  (c.toNat < 0x20 && c ≠ '\t' && c ≠ '\n') || c = '\x7f'

/-- The length of the longest row of `mark`, after a row of `run` of them. -/
def longestRun (mark : Char) : (run : Nat) → List Char → Nat
  | run, [] => run
  | run, c :: cs =>
    if c = mark then longestRun mark (run + 1) cs else max run (longestRun mark 0 cs)

/-- A hexadecimal digit, in capitals. -/
def hexCapital (n : Nat) : Char :=
  (Nat.digitChar n).toUpper

/-- A character other than quote and newline between double quotes. -/
def escape (c : Char) : List Char :=
  if c = '\\' then ['\\', '\\']
  else if c = '\x08' then ['\\', 'b']
  else if c = '\t' then ['\\', 't']
  else if c = '\x0c' then ['\\', 'f']
  else if c = '\r' then ['\\', 'r']
  else if isControl c then
    ['\\', 'u', '0', '0', hexCapital (c.toNat / 16), hexCapital (c.toNat % 16)]
  else [c]

/-- A character of a string on one line. -/
def escapeLine (c : Char) : List Char :=
  if c = '"' then ['\\', '"'] else if c = '\n' then ['\\', 'n'] else escape c

/-- The characters of a string over several lines, after a row of `run` quotes; every third quote of
a row is escaped. -/
def escapeLines : (run : Nat) → List Char → List Char
  | _, [] => []
  | run, c :: cs =>
    if c = '"' then
      if run = 2 then '\\' :: '"' :: escapeLines 0 cs else '"' :: escapeLines (run + 1) cs
    else if c = '\n' then '\n' :: escapeLines 0 cs
    else escape c ++ escapeLines 0 cs

/-- The form in which a string is written. -/
def Form.of (cs : List Char) : Form :=
  let plain := !cs.any isControl
  let backslash := cs.contains '\\'
  let newline := cs.contains '\n'
  if plain ∧ !backslash ∧ !cs.contains '"' ∧ !newline then .basic
  else if plain ∧ !cs.contains '\'' ∧ !newline then .literal
  else if plain ∧ !backslash ∧ longestRun '"' 0 cs ≤ 2 then .basicLines
  else if plain ∧ longestRun '\'' 0 cs ≤ 2 then .literalLines
  else if newline then .basicLines
  else .basic

/-- The newline after the opening quotes of a string that holds one. -/
def firstLine (cs : List Char) : List Char :=
  if cs.contains '\n' then ['\n'] else []

/-- A string in the form that fits it. -/
def writeText (s : String) : List Char :=
  let cs := s.toList
  let form := Form.of cs
  let inner := match form with
    | .basic => cs.flatMap escapeLine
    | .literal => cs
    | .basicLines => firstLine cs ++ escapeLines 0 cs
    | .literalLines => firstLine cs ++ cs
  form.mark ++ inner ++ form.mark

end LogFanout.Toml
