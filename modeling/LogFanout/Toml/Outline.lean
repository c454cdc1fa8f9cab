import LogFanout.Toml.Value

/-!
# The outline of a TOML document

A document is a row of sections: the items before the first header, and those after each header.
Its outline says which texts are keys and which are values, before any of them is looked into: what
is wrong within a key or a scalar is only kept there. So a fault of the outline comes before all
others.

Inside an inline table, newlines and comments may stand wherever blanks may, but not within a key.
Arrays and inline tables may be nested up to a fixed depth.
-/

namespace LogFanout.Toml

/-- How deep arrays and inline tables may be nested, and how many parts a key may have. -/
def maxDepth : Nat :=
  80

/-- A key of parts with dots between them: the path to a table, and the key in it. -/
structure Route where
  path : List (Except Fault Key)
  last : Except Fault Key

/-- A value of an outline. -/
inductive Node where
  | scalar (span : Span) (value : Except Fault Scalar)
  | list (span : Span) (items : List Node)
  | table (span : Span) (entries : List (Route × Node))

/-- A character of a key without quotes. -/
def isBare (c : Char) : Bool :=
  c.isAlphanum || c = '_' || c = '-'

/-- Reads one part of a key without quotes, which goes on up to whatever cannot be part of it. -/
def readBareKey (cs : List Char) : Except Fault Key × List Char :=
  let name := cs.takeWhile fun c => !isBreak c && !isBlank c && c ≠ '.'
  let rest := cs.drop name.length
  match name.dropWhile isBare with
  | [] => (.ok ⟨String.ofList name, cs, rest⟩, rest)
  | bad => (.error ⟨.keyCharacter, bad ++ rest, bad.dropWhile (!isBare ·) ++ rest⟩, rest)

/-- Reads one part of a key behind blanks; if there is nothing it could be it is empty, and the
blanks are left. -/
def readKeyPart (cs : List Char) : Except Fault Key × List Char :=
  match dropBlank cs with
  | [] => (.error ⟨.emptyKey, .before []⟩, cs)
  | c :: after =>
    if isBreak c ∨ c = '.' then (.error ⟨.emptyKey, .before (c :: after)⟩, cs)
    else if isQuote c then
      let form := Form.opening c after
      let (text, rest) := readText form after
      (if form.isLong then .error ⟨.longKey form, c :: after, rest⟩
        else text.map fun name => ⟨name, c :: after, rest⟩, rest)
    else readBareKey (c :: after)

/-- Reads the parts of a key after the first one. -/
def readKeyParts : (fuel : List Char) → List Char → List (Except Fault Key) × List Char
  | [], cs => ([], cs)
  | _ :: fuel, cs =>
    match dropBlank cs with
    | '.' :: rest =>
      let (part, rest) := readKeyPart rest
      let (parts, rest) := readKeyParts fuel rest
      (part :: parts, rest)
    | _ => ([], cs)

/-- Reads a key. -/
def readRoute (cs : List Char) : Route × List Char :=
  let (part, cs) := readKeyPart cs
  let (parts, cs) := readKeyParts cs cs
  let all := part :: parts
  (⟨all.dropLast, all.getLastD part⟩, cs)

/-- What is wrong with a character that begins no value. -/
def noValue? (c : Char) : Option Cause :=
  if c = ']' then some .noListStart
  else if c = '\x7d' then some .noTableStart
  else if c = '=' then some .extraEquals
  else none

/-- Reads the items of an array up to its end, after `done` in reverse; `isOpen` says that the next
one needs no comma before it. -/
def readItems (item : Scan Node) :
    (fuel : List Char) → (isOpen : Bool) → (done : List Node) → Scan (List Node)
  | [], _, _, cs => .error ⟨.openList, .before cs⟩
  | _ :: fuel, isOpen, done, cs => do
    match ← dropGap cs with
    | [] => .error ⟨.openList, .before cs⟩
    | c :: rest =>
      if c = ']' then .ok (done.reverse, rest)
      else if c = ',' then
        if isOpen then .error ⟨.extraListComma, .one c rest⟩
        else readItems item fuel true done rest
      else if c = '=' then .error ⟨.equalsInList, .one c rest⟩
      else if isOpen then
        let (value, cs) ← item (c :: rest)
        readItems item fuel false (value :: done) cs
      else .error ⟨.noListComma, .before (c :: rest)⟩

/-- What is wrong in an inline table with a text that does not begin with what is needed next. -/
def unneeded (need : Need) (cs : List Char) : Fault :=
  let cause : Cause := match cs with
    | ',' :: _ => .extraTableComma need
    | '=' :: _ => .extraTableEquals need
    | '[' :: _ | '\x7b' :: _ => .missingInTable (if need = .comma then .key else need) need
    | ']' :: _ => .strayInTable need
    | _ => .missingInTable need need
  ⟨cause, .before cs⟩

/-- The value of an entry that has none, before a text; it counts as a string without its mark. -/
def Node.missing (cs : List Char) : Node :=
  .scalar (.before cs) (.error ⟨.openText .literal, .before cs⟩)

/-- Reads the equals sign and the value that go with a key in an inline table. -/
def readAssigned (item : Scan Node) (cs : List Char) : Except Fault (Node × List Char) := do
  match ← dropGap cs with
  | [] => .error ⟨.openTable, .before cs⟩
  | '\x7d' :: rest => .ok (.missing ('\x7d' :: rest), '\x7d' :: rest)
  | '=' :: cs =>
    match ← dropGap cs with
    | [] => .error ⟨.openTable, .before cs⟩
    | '\x7d' :: rest => .ok (.missing ('\x7d' :: rest), '\x7d' :: rest)
    | ',' :: rest => .error (unneeded .value (',' :: rest))
    | '=' :: rest => .error (unneeded .value ('=' :: rest))
    | rest => item rest
  | rest => .error (unneeded .equals rest)

/-- Whether an entry of an inline table can begin with a character. -/
def beginsEntry (c : Char) : Bool :=
  c = '=' || !isBreak c

/-- Reads the entries of an inline table up to its end, after `done` in reverse; `isOpen` says that
the next one needs no comma before it. -/
def readEntries (item : Scan Node) :
    (fuel : List Char) → (isOpen : Bool) → (done : List (Route × Node)) →
      Scan (List (Route × Node))
  | [], _, _, cs => .error ⟨.openTable, .before cs⟩
  | _ :: fuel, isOpen, done, cs => do
    match ← dropGap cs with
    | [] => .error ⟨.openTable, .before cs⟩
    | c :: rest =>
      if c = '\x7d' then .ok (done.reverse, rest)
      else if !isOpen then
        if c = ',' then readEntries item fuel true done rest
        else .error (unneeded .comma (c :: rest))
      else if beginsEntry c then
        let (route, cs) := readRoute (c :: rest)
        let (value, cs) ← readAssigned item cs
        readEntries item fuel false ((route, value) :: done) cs
      else .error (unneeded .key (c :: rest))

/-- Reads a value with at most `depth` arrays and inline tables inside each other. A value that is
missing counts as an empty text without quotes. -/
def readValue : (depth : Nat) → Scan Node
  | _, [] => .ok (.scalar (.before []) (.error ⟨.notQuoted, .before []⟩), [])
  | 0, c :: cs =>
    if c = '[' ∨ c = '\x7b' then .error ⟨.tooDeep, .one c cs⟩
    else readLeaf c cs
  | depth + 1, c :: cs =>
    if c = '[' then do
      let (items, rest) ← readItems (readValue depth) cs true [] cs
      .ok (.list ⟨c :: cs, rest⟩ items, rest)
    else if c = '\x7b' then do
      let (entries, rest) ← readEntries (readValue depth) cs true [] cs
      .ok (.table ⟨c :: cs, rest⟩ entries, rest)
    else readLeaf c cs
where
  /-- Reads a value that is neither an array nor an inline table. -/
  readLeaf (c : Char) (cs : List Char) : Except Fault (Node × List Char) :=
    match noValue? c with
    | some cause => .error ⟨cause, .one c cs⟩
    | none =>
      let (value, rest) := readScalar c cs
      .ok (.scalar ⟨c :: cs, rest⟩ value, rest)

/-- A header: whether it adds a table to an array, its key, and where it stands. -/
structure Header where
  repeated : Bool
  route : Route
  span : Span

/-- A header and the items after it; the first section of a document has no header. -/
structure Section where
  header : Option Header
  items : List (Route × Node)

/-- A section of items that were gathered in reverse. -/
def Section.finish (part : Section) : Section :=
  { part with items := part.items.reverse }

/-- Whether nothing stands where a key should. -/
def Route.isOpen (route : Route) : Bool :=
  match route.last with
  | .error fault => fault.cause = .emptyKey
  | .ok _ => false

/-- The text after a line, whatever stands on it; strings on it may go over several lines. -/
def skipLine : (fuel : List Char) → List Char → Except Fault (List Char)
  | [], cs => endLine cs
  | _ :: fuel, cs =>
    match dropBlank cs with
    | [] => .ok []
    | c :: rest =>
      if c = '#' ∨ c = '\n' ∨ c = '\r' then endLine (c :: rest)
      else if isBreak c ∨ c = '.' then skipLine fuel rest
      else skipLine fuel (readKeyPart (c :: rest)).2

/-- Reads a header that begins at `start` from behind its brackets. Where its key ends with nothing,
the outline leaves it at that: the rest of the line is passed over. -/
def readHeader (repeated : Bool) (start cs : List Char) : Except Fault (Header × List Char) := do
  let (route, cs) := readRoute cs
  match repeated, dropBlank cs with
  | false, ']' :: cs => .ok (⟨repeated, route, start, cs⟩, ← endLine cs)
  | true, ']' :: ']' :: cs => .ok (⟨repeated, route, start, cs⟩, ← endLine cs)
  | true, ']' :: cs => .error ⟨.openRepeated true, .before cs⟩
  | _, _ =>
    if route.isOpen then .ok (⟨repeated, route, start, cs⟩, ← skipLine cs cs)
    else .error ⟨if repeated then .openRepeated false else .openHeader, .before cs⟩

/-- Reads a key and its value on a line. -/
def readItem (cs : List Char) : Except Fault ((Route × Node) × List Char) := do
  let dotted := cs.head? = some '.'
  let (route, cs) := readRoute cs
  match dropBlank cs with
  | '=' :: cs =>
    let (value, cs) ← readValue maxDepth (dropBlank cs)
    .ok ((route, value), ← endLine cs)
  | cs => .error ⟨.noEquals dotted, .before cs⟩

/-- Reads the rest of a document, after finished sections in reverse and a section with its items in
reverse. -/
def readSections :
    (fuel : List Char) → (done : List Section) → (current : Section) → List Char →
      Except Fault (List Section)
  | [], done, current, cs => do
    match ← dropGap cs with
    | [] => .ok (current.finish :: done).reverse
    | c :: cs => .error ⟨.noKey, .one c cs⟩
  | _ :: fuel, done, current, cs => do
    match ← dropGap cs with
    | [] => .ok (current.finish :: done).reverse
    | c :: cs =>
      if c = '[' then
        let (header, rest) ← match cs with
          | '[' :: inner => readHeader true (c :: cs) inner
          | cs => readHeader false (c :: cs) cs
        readSections fuel (current.finish :: done) ⟨some header, []⟩ rest
      else if c = ']' then .error ⟨.noHeaderStart, .before (c :: cs)⟩
      else if beginsEntry c then
        let (item, rest) ← readItem (c :: cs)
        readSections fuel done { current with items := item :: current.items } rest
      else .error ⟨.noKey, .before (c :: cs)⟩

end LogFanout.Toml
