import LogFanout.Document.Source
import LogFanout.Json.Skip

/-!
# Reading values of a document

A record is an object, or an array of its members in their order. The members of an object come in
any order; known ones go into a draft, unknown ones are passed over. Members of an array may be
missing at its end. A name out of a fixed set is a string, or an object with that one key and the
value `null`.
-/

namespace LogFanout.Json

open Document (Expected Found Member Mismatch Record Source)

/-- Reads the beginning of a value that is not the one wanted, far enough to say what it is. -/
def readFound : Reader Found
  | [] => .error (.before .endInValue [])
  | c :: cs =>
    if c = 'n' then do
      let cs ← readWord ['u', 'l', 'l'] cs
      .ok (.null, cs)
    else if c = 't' then do
      let cs ← readWord ['r', 'u', 'e'] cs
      .ok (.boolean true, cs)
    else if c = 'f' then do
      let cs ← readWord ['a', 'l', 's', 'e'] cs
      .ok (.boolean false, cs)
    else if c = '-' then do
      let (number, cs) ← readNumber true cs
      .ok (number.found, cs)
    else if c.isDigit then do
      let (number, cs) ← readNumber false (c :: cs)
      .ok (number.found, cs)
    else if c = '"' then do
      let (text, cs) ← readText cs
      .ok (.text text, cs)
    else if c = '[' then .ok (.list, c :: cs)
    else if c = '\x7b' then .ok (.record, c :: cs)
    else .error (.within .noValue (c :: cs))

/-- Fails because the value in front is not the one wanted. -/
def refuse {α : Type} (expected : Expected) (cs : List Char) : Except Fault α := do
  let (found, cs) ← readFound cs
  .error (.before (.mismatch (.wrongType found expected)) cs)

/-- A mismatch that is found with a text left, as a fault in front of it. -/
def orMismatch {α : Type} (cs : List Char) : Except Mismatch α → Except Fault α
  | .ok value => .ok value
  | .error why => .error (.before (.mismatch why) cs)

/-- A mismatch in a list or record of which a text is left. -/
def orUnsettled {α : Type} (cs : List Char) : Except Mismatch α → Except Fault α
  | .ok value => .ok value
  | .error why => .error (.unsettled why cs)

/-- The text behind the end of a list or record if that comes next. -/
def dropClose (closer : Char) (cs : List Char) : List Char :=
  match dropBlank cs with
  | [] => []
  | c :: cs =>
    if c = closer then cs else if closer = ']' ∧ c = ',' then dropBlank cs else c :: cs

/-- A fault in a list or record, put at the end of it if it is about the whole. -/
def Fault.settle (closer : Char) (fault : Fault) : Fault :=
  if fault.settled then fault else .before fault.cause (dropClose closer fault.rest)

/-- The text behind the quote that opens a key; `unclosed` is the cause if the text has ended. -/
def openKey (unclosed : Cause) : List Char → Except Fault (List Char)
  | [] => .error (.before unclosed [])
  | c :: cs => if c = '"' then .ok cs else .error (.within .keyNotText (c :: cs))

/-- The text behind the quote that opens the next key, or nothing at the end of the object. -/
def nextKey (first : Bool) (cs : List Char) : Except Fault (Option (List Char)) :=
  match dropBlank cs with
  | [] => .error (.before .endInRecord [])
  | c :: cs =>
    if c = '\x7d' then .ok none
    else if first then (openKey .endInRecord (c :: cs)).map some
    else if c = ',' then
      match dropBlank cs with
      | '\x7d' :: ds => .error (.within .trailingComma ('\x7d' :: ds))
      | ds => (openKey .endInValue ds).map some
    else .error (.within .noRecordEnd (c :: cs))

/-- The text of the next element, or nothing at the end of the array. -/
def nextElement (first : Bool) (cs : List Char) : Except Fault (Option (List Char)) :=
  match dropBlank cs with
  | [] => .error (.before .endInList [])
  | c :: cs =>
    if c = ']' then .ok none
    else if first then .ok (some (c :: cs))
    else if c = ',' then
      match dropBlank cs with
      | [] => .error (.before .endInValue [])
      | d :: ds =>
        if d = ']' then .error (.within .trailingComma (d :: ds)) else .ok (some (d :: ds))
    else .error (.within .noListEnd (c :: cs))

/-- The text behind the end of a list. -/
def readListEnd (cs : List Char) : Except Fault (List Char) :=
  match dropBlank cs with
  | [] => .error (.before .endInList [])
  | c :: cs =>
    if c = ']' then .ok cs
    else if c = ',' then
      match dropBlank cs with
      | ']' :: ds => .error (.within .trailingComma (']' :: ds))
      | ds => .error (.within .trailingText ds)
    else .error (.within .trailingText (c :: cs))

/-- The text behind the end of a record, where `cause` says what is wrong with anything else. -/
def readRecordEnd (cause : Cause) (cs : List Char) : Except Fault (List Char) :=
  match dropBlank cs with
  | [] => .error (.before .endInRecord [])
  | c :: cs => if c = '\x7d' then .ok cs else .error (.before cause (c :: cs))

/-- Reads the members of an object into a draft. -/
def readMembers {δ : Type} (members : List (Member Reader δ)) :
    (fuel : List Char) → (first : Bool) → δ → Reader δ
  | [], _, _, cs => .error (.before .endInRecord cs)
  | _ :: fuel, first, draft, cs => do
    match ← nextKey first cs with
    | none => .ok (draft, cs)
    | some cs =>
      let (key, cs) ← readText cs
      match members.find? fun member => member.key = key with
      | some member =>
        if member.isSet draft then .error (.unsettled (.duplicateField key) cs)
        else
          let cs ← readColon cs
          let (set, cs) ← member.read cs
          readMembers members fuel false (set draft) cs
      | none =>
        let cs ← readColon cs
        let cs ← skipValue cs
        readMembers members fuel false draft cs

/-- Reads the members of an array into a draft, after `count` of them. -/
def readElements {δ : Type} : List (Member Reader δ) → (count : Nat) → δ → Reader δ
  | [], _, draft, cs => .ok (draft, cs)
  | member :: members, count, draft, cs => do
    match ← nextElement (count == 0) cs with
    | some cs =>
      let (set, cs) ← member.read cs
      readElements members (count + 1) (set draft) cs
    | none =>
      match Document.missingIndex? (member :: members) with
      | some index => .error (.unsettled (.wrongLength (count + index)) cs)
      | none => .ok (draft, cs)

/-- Reads a record. -/
def readRecord {δ α : Type} (record : Record Reader δ α) : Reader α := fun cs =>
  match dropBlank cs with
  | [] => .error (.before .endInValue [])
  | c :: cs =>
    if c = '\x7b' then
      Except.mapError (Fault.settle '\x7d') do
        let (draft, cs) ← readMembers record.members cs true record.start cs
        let value ← orUnsettled cs (record.finish draft)
        let cs ← readRecordEnd .trailingText cs
        .ok (value, cs)
    else if c = '[' then
      Except.mapError (Fault.settle ']') do
        let (draft, cs) ← readElements record.members 0 record.start cs
        let value ← orUnsettled cs (record.finish draft)
        let cs ← readListEnd cs
        .ok (value, cs)
    else refuse record.expected (c :: cs)

/-- Reads the elements of an array, after `done` in reverse. -/
def readItems {α : Type} (item : Reader α) :
    (fuel : List Char) → (done : List α) → Reader (List α)
  | [], _, cs => .error (.before .endInList cs)
  | _ :: fuel, done, cs => do
    match ← nextElement done.isEmpty cs with
    | none => .ok (done.reverse, cs)
    | some cs =>
      let (value, cs) ← item cs
      readItems item fuel (value :: done) cs

/-- Reads an array of values. -/
def readList {α : Type} (expected : Expected) (item : Reader α) : Reader (List α) := fun cs =>
  match dropBlank cs with
  | [] => .error (.before .endInValue [])
  | c :: cs =>
    if c = '[' then
      Except.mapError (Fault.settle ']') do
        let (items, cs) ← readItems item cs [] cs
        let cs ← readListEnd cs
        .ok (items, cs)
    else refuse expected (c :: cs)

/-- Reads a string where one is wanted. -/
def readString : Reader String := fun cs =>
  match dropBlank cs with
  | [] => .error (.before .endInValue [])
  | c :: cs => if c = '"' then readText cs else refuse .text (c :: cs)

/-- Reads `true` or `false`. -/
def readBoolean : Reader Bool := fun cs =>
  match dropBlank cs with
  | [] => .error (.before .endInValue [])
  | c :: cs =>
    if c = 't' then do
      let cs ← readWord ['r', 'u', 'e'] cs
      .ok (true, cs)
    else if c = 'f' then do
      let cs ← readWord ['a', 'l', 's', 'e'] cs
      .ok (false, cs)
    else refuse .boolean (c :: cs)

/-- The integer of a number, if it lies between two bounds. -/
def Number.within (least most : Int) (expected : Expected) (number : Number) :
    Except Mismatch Int :=
  match number with
  | .integer value =>
    if least ≤ value ∧ value ≤ most then .ok value
    else .error (.wrongValue (.integer value) expected)
  | .fraction .. => .error (.wrongType number.found expected)

/-- Reads an integer between two bounds. -/
def readInteger (least most : Int) (expected : Expected) : Reader Int := fun cs =>
  match dropBlank cs with
  | [] => .error (.before .endInValue [])
  | c :: cs =>
    if c = '-' ∨ c.isDigit then do
      let (number, cs) ← readNumber (c = '-') (if c = '-' then cs else c :: cs)
      let value ← orMismatch cs (number.within least most expected)
      .ok (value, cs)
    else refuse expected (c :: cs)

/-- Reads `null`, or a value. -/
def readOptional {α : Type} (reader : Reader α) : Reader (Option α) := fun cs =>
  match dropBlank cs with
  | [] => .error (.before .endInValue [])
  | c :: cs =>
    if c = 'n' then do
      let cs ← readWord ['u', 'l', 'l'] cs
      .ok (none, cs)
    else do
      let (value, cs) ← reader (c :: cs)
      .ok (some value, cs)

/-- Reads `null` where nothing else is wanted. -/
def readNull (cs : List Char) : Except Fault (List Char) :=
  match dropBlank cs with
  | [] => .error (.before .endInValue [])
  | c :: cs => if c = 'n' then readWord ['u', 'l', 'l'] cs else refuse .unit (c :: cs)

/-- Reads a name from behind its opening quote and gives its value. -/
def readName {α : Type} (known : List String) (ofName? : String → Option α) : Reader α :=
  fun cs => do
  let (name, cs) ← readText cs
  match ofName? name with
  | some value => .ok (value, cs)
  | none => .error (.before (.mismatch (.unknownVariant name known)) cs)

/-- Reads one of the names known. -/
def readChoice {α : Type} (known : List String) (ofName? : String → Option α) : Reader α :=
  fun cs =>
  match dropBlank cs with
  | [] => .error (.before .endInValue [])
  | c :: cs =>
    if c = '"' then readName known ofName? cs
    else if c = '\x7b' then do
      match ← nextKey true cs with
      | none => .error (.within .noValue (dropBlank cs))
      | some cs =>
        let (value, cs) ← readName known ofName? cs
        let cs ← readColon cs
        let cs ← readNull cs
        let cs ← readRecordEnd .noValue cs
        .ok (value, cs)
    else .error (.within .noValue (c :: cs))

/-- Reads a value and puts it through a function. -/
def mapReader {α β : Type} (f : α → β) (reader : Reader α) : Reader β := fun cs => do
  let (value, cs) ← reader cs
  .ok (f value, cs)

/-- Reads a value and refuses some. -/
def refineReader {α β : Type} (f : α → Except Mismatch β) (reader : Reader α) : Reader β :=
  fun cs => do
  let (value, cs) ← reader cs
  let value ← orUnsettled cs (f value)
  .ok (value, cs)

/-- How values are read from JSON. -/
def source : Source Reader where
  map := mapReader
  refine := refineReader
  text := readString
  boolean := readBoolean
  integer := readInteger
  optional := readOptional
  choice := readChoice
  list := readList
  record := readRecord

end LogFanout.Json
