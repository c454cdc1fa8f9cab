/-!
# The forms of a TOML string

A string stands between double quotes, with escapes, or between single quotes, without; in either
case on one line between two marks of one quote, or over several lines between two marks of three.
-/

namespace LogFanout.Toml

/-- The forms of a string. -/
inductive Form where
  | basic
  | literal
  | basicLines
  | literalLines
  deriving DecidableEq, Repr

namespace Form

/-- The quote of which the marks of a form are made. -/
def quote : Form → Char
  | .basic | .basicLines => '"'
  | .literal | .literalLines => '\''

/-- Whether a string may go over several lines. -/
def isLong : Form → Bool
  | .basic | .literal => false
  | .basicLines | .literalLines => true

/-- Whether a backslash begins an escape. -/
def escapes : Form → Bool
  | .basic | .basicLines => true
  | .literal | .literalLines => false

/-- The mark before and after the string. -/
def mark (form : Form) : List Char :=
  List.replicate (if form.isLong then 3 else 1) form.quote

/-- What messages call a string. -/
def name : Form → String
  | .basic => "basic string"
  | .literal => "literal string"
  | .basicLines => "multi-line basic string"
  | .literalLines => "multi-line literal string"

/-- The form of a string that begins with a quote, before some text. -/
def opening (quote : Char) (cs : List Char) : Form :=
  let long := [quote, quote].isPrefixOf cs
  if quote = '"' then if long then .basicLines else .basic
  else if long then .literalLines else .literal

end Form

end LogFanout.Toml
