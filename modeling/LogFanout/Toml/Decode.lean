import LogFanout.Document.Source
import LogFanout.Toml.Value

/-!
# Reading values of a document

A record is a table, or an array of its members in their order; a date counts as a table that has
none of them. The entries of a table are read in the order of their keys, also those that are not
known. A name out of a fixed set is a string, or a table with that one key and an empty table or
array.

A mismatch is put where the innermost value stands that is not the one wanted; a member that is
missing is put where its record stands, and a name that is not known where the name does.
-/

namespace LogFanout.Toml

open Document (Expected Found Member Mismatch Record Source)

/-- A function that reads a value of a document. -/
abbrev Decoder (α : Type) := Value → Except Fault α

/-- Integers from here on are told from all smaller ones. -/
def wideLeast : Int :=
  -(Nat.pow 2 127 : Nat)

/-- Integers below this are told from all larger ones. -/
def wideBound : Int :=
  Nat.pow 2 128

/-- What a scalar is found to be where a value of another kind was wanted. -/
def Scalar.found : Scalar → Except Mismatch Found
  | .text value => .ok (.text value)
  | .integer none => .error .integerOverflow
  | .integer (some n) =>
    if Int64.minValue.toInt ≤ n ∧ n < UInt64.size then .ok (.integer n)
    else if wideLeast ≤ n ∧ n < wideBound then .ok (.wideInteger n)
    else .error .integerOverflow
  | .fraction x =>
    match x.shown? with
    | some shown => .ok (.fraction shown)
    | none => .error .fractionOverflow
  | .boolean value => .ok (.boolean value)
  | .moment => .ok .record

/-- What is found where a value of another kind was wanted. -/
def Value.found : Value → Except Mismatch Found
  | .scalar _ value => value.found
  | .list .. => .ok .list
  | .table .. => .ok .record

/-- A mismatch in a piece of a document. -/
def orFault {α : Type} (span : Span) : Except Mismatch α → Except Fault α
  | .ok value => .ok value
  | .error why => .error ⟨.mismatch why, span⟩

/-- Fails because a value is not the one wanted. -/
def refuse {α : Type} (expected : Expected) (value : Value) : Except Fault α :=
  orFault value.span do
    .error (.wrongType (← value.found) expected)

/-- Puts an entry in front of the first one with a larger key. -/
def insertByKey {α : Type} (key : Key) (value : α) : List (Key × α) → List (Key × α)
  | [] => [(key, value)]
  | (k, v) :: entries =>
    if key.name < k.name then (key, value) :: (k, v) :: entries
    else (k, v) :: insertByKey key value entries

/-- The entries of a table in the order of their keys. -/
def sortByKey {α : Type} (entries : List (Key × α)) : List (Key × α) :=
  entries.foldl (fun sorted entry => insertByKey entry.1 entry.2 sorted) []

mutual

/-- Passes over a value that is not used; its numbers still have to be in range. -/
def ignore : Value → Except Fault Unit
  | .list _ items => ignoreItems items
  | .table _ entries => (sortByKey (ignoreEntries entries)).forM fun entry => entry.2
  | .scalar span value => orFault span (discard value.found)

/-- Passes over the items of an array. -/
def ignoreItems : List Value → Except Fault Unit
  | [] => .ok ()
  | item :: items => do
    ignore item
    ignoreItems items

/-- What becomes of each entry of a table that is not used. -/
def ignoreEntries : List (Key × Value) → List (Key × Except Fault Unit)
  | [] => []
  | (key, value) :: entries => (key, ignore value) :: ignoreEntries entries

end

/-- Reads an entry of a table into a draft. -/
def decodeEntry {δ : Type} (members : List (Member Decoder δ)) (draft : δ)
    (entry : Key × Value) : Except Fault δ :=
  match members.find? fun member => member.key = entry.1.name with
  | some member => do
    let set ← member.read entry.2
    .ok (set draft)
  | none => do
    ignore entry.2
    .ok draft

/-- Reads the items of an array, which stands at `span`, as members, after `count` of them; more
items are not looked at. -/
def decodeItems {δ : Type} (span : Span) :
    List (Member Decoder δ) → (count : Nat) → δ → List Value → Except Fault δ
  | [], _, draft, _ => .ok draft
  | member :: members, count, draft, item :: items => do
    let set ← member.read item
    decodeItems span members (count + 1) (set draft) items
  | members, count, draft, [] =>
    match Document.missingIndex? members with
    | some index => .error ⟨.mismatch (.wrongLength (count + index)), span⟩
    | none => .ok draft

/-- Reads a record. -/
def decodeRecord {δ α : Type} (record : Record Decoder δ α) : Decoder α
  | .table span entries => do
    let draft ← (sortByKey entries).foldlM (decodeEntry record.members) record.start
    orFault span (record.finish draft)
  | .scalar span .moment => orFault span (record.finish record.start)
  | .list span items => do
    let draft ← decodeItems span record.members 0 record.start items
    orFault span (record.finish draft)
  | value => refuse record.expected value

/-- Reads a string. -/
def decodeText : Decoder String
  | .scalar _ (.text value) => .ok value
  | value => refuse .text value

/-- Reads a boolean. -/
def decodeBoolean : Decoder Bool
  | .scalar _ (.boolean value) => .ok value
  | value => refuse .boolean value

/-- Reads an integer between two bounds. -/
def decodeInteger (least most : Int) (expected : Expected) : Decoder Int := fun value =>
  orFault value.span do
    match ← value.found with
    | .integer n =>
      if least ≤ n ∧ n ≤ most then .ok n else .error (.wrongValue (.integer n) expected)
    | found => .error (.wrongType found expected)

/-- Reads an array of values. -/
def decodeList {α : Type} (expected : Expected) (item : Decoder α) : Decoder (List α)
  | .list _ items => items.mapM item
  | value => refuse expected value

/-- The value of a name. -/
def choose {α : Type} (known : List String) (ofName? : String → Option α) (name : String) :
    Except Mismatch α :=
  match ofName? name with
  | some value => .ok value
  | none => .error (.unknownVariant name known)

/-- The value that goes with a name given as a key. -/
def decodeNothing : Value → Except Mismatch Unit
  | .table _ [] => .ok ()
  | .table .. => .error .choiceTable
  | .list _ [] => .ok ()
  | .list .. => .error .choiceArray
  | value => .error (.choiceValue value.typeName)

/-- Reads one of the names known. -/
def decodeChoice {α : Type} (known : List String) (ofName? : String → Option α) : Decoder α
  | .scalar span (.text name) => orFault span (choose known ofName? name)
  | .table _ [(key, value)] => do
    let chosen ← orFault key.span (choose known ofName? key.name)
    orFault value.span (decodeNothing value)
    .ok chosen
  | .table span [] => .error ⟨.mismatch .emptyChoice, span⟩
  | .table span _ => .error ⟨.mismatch .manyChoices, span⟩
  | value => .error ⟨.mismatch .noChoice, value.span⟩

/-- How values are read from TOML; there is no word for no value. -/
def source : Source Decoder where
  map := fun f decode value => do
    .ok (f (← decode value))
  refine := fun f decode value => do
    orFault value.span (f (← decode value))
  text := decodeText
  boolean := decodeBoolean
  integer := decodeInteger
  optional := fun decode value => do
    .ok (some (← decode value))
  choice := decodeChoice
  list := decodeList
  record := decodeRecord

end LogFanout.Toml
