import LogFanout.Toml.Fault

/-!
# Scanning TOML

A scanner takes the text that is left to a value and the text after it. Blanks are spaces and tabs;
a gap may also hold newlines and comments. A carriage return stands only before a line feed. A loop
takes a second text as its fuel, one character a round; as each round reads at least one character,
a text is fuel enough for scanning it.
-/

namespace LogFanout.Toml

/-- A function that reads something from the front of a text. -/
abbrev Scan (α : Type) := List Char → Except Fault (α × List Char)

/-- A space or a tab. -/
def isBlank (c : Char) : Bool :=
  c = ' ' || c = '\t'

/-- The text without the blanks in front. -/
def dropBlank (cs : List Char) : List Char :=
  cs.dropWhile isBlank

/-- A character of a comment or of a string: anything but a control character, or a tab. -/
def isPlain (c : Char) : Bool :=
  c = '\t' || (0x20 ≤ c.toNat && c ≠ '\x7f')

/-- A character that ends whatever stands in front of it without quotes. -/
def isBreak (c : Char) : Bool :=
  c = '\n' || c = '\r' || c = '#' || c = ',' || c = '=' || c = '[' || c = ']'
    || c = '\x7b' || c = '\x7d'

/-- A quote, double or single. -/
def isQuote (c : Char) : Bool :=
  c = '"' || c = '\''

/-- The text after blanks, newlines and comments; `comment` says that a comment has begun. -/
def dropGapFrom : (comment : Bool) → List Char → Except Fault (List Char)
  | _, [] => .ok []
  | _, '\n' :: cs => dropGapFrom false cs
  | _, '\r' :: '\n' :: cs => dropGapFrom false cs
  | _, '\r' :: cs => .error ⟨.loneReturn, .before cs⟩
  | true, c :: cs =>
    if isPlain c then dropGapFrom true cs else .error ⟨.commentCharacter, .one c cs⟩
  | false, c :: cs =>
    if isBlank c then dropGapFrom false cs
    else if c = '#' then dropGapFrom true cs
    else .ok (c :: cs)

/-- The text after blanks, newlines and comments. -/
def dropGap (cs : List Char) : Except Fault (List Char) :=
  dropGapFrom false cs

/-- The text after a comment, up to the end of its line. -/
def dropComment : List Char → Except Fault (List Char)
  | [] => .ok []
  | '\n' :: cs => .ok cs
  | '\r' :: '\n' :: cs => .ok cs
  | '\r' :: cs => .error ⟨.loneReturn, .before cs⟩
  | c :: cs => if isPlain c then dropComment cs else .error ⟨.commentCharacter, .one c cs⟩

/-- The text after the end of a line, which may hold blanks and a comment. -/
def endLine (cs : List Char) : Except Fault (List Char) :=
  match dropBlank cs with
  | [] => .ok []
  | '\n' :: cs => .ok cs
  | '\r' :: '\n' :: cs => .ok cs
  | '\r' :: cs => .error ⟨.loneReturn, .before cs⟩
  | '#' :: cs => dropComment cs
  | cs => .error ⟨.extraText, .before cs⟩

end LogFanout.Toml
