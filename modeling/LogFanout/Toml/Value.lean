import LogFanout.Toml.Scalar

/-!
# TOML values and tables

The tables of a document are put together from headers and keys that may come in any order, under
rules about which of them may be written to again: a table that a header only passed through may get
a header of its own later, one made by a dotted key may get more dotted keys, and a value, an array
or an inline table is closed.
-/

namespace LogFanout.Toml

/-- A part of a key, and where it stands. -/
structure Key where
  name : String
  span : Span
  deriving DecidableEq, Repr

/-- A value of a document, and where it stands. A table stands where its header does, or else where
the key does that made it. -/
inductive Value where
  | scalar (span : Span) (value : Scalar)
  | list (span : Span) (items : List Value)
  | table (span : Span) (entries : List (Key × Value))

/-- Where a value stands. -/
def Value.span : Value → Span
  | .scalar span _ | .list span _ | .table span _ => span

/-- The name of the type of a scalar. -/
def Scalar.typeName : Scalar → String
  | .text _ => "string"
  | .integer _ => "integer"
  | .fraction _ => "float"
  | .boolean _ => "boolean"
  | .moment => "datetime"

/-- The name of the type of a value. -/
def Value.typeName : Value → String
  | .scalar _ value => value.typeName
  | .list .. => "array"
  | .table .. => "table"

/-- How a table came to be. -/
inductive Origin where
  /-- A header passed through it. -/
  | implied
  /-- A dotted key passed through it. -/
  | dotted
  /-- It has a header of its own. -/
  | headed
  deriving DecidableEq, Repr

/-- A table or a value while the document is being put together. -/
inductive Tree where
  | value (value : Value)
  | table (origin : Origin) (span : Span) (entries : List (Key × Tree))
  /-- An array of tables, the latest first, each with the place of its header. -/
  | tables (span : Span) (elements : List (Span × List (Key × Tree)))

/-- The entries of a table. -/
abbrev Entries := List (Key × Tree)

/-- Fails because a key is in use already. -/
def Key.taken {α : Type} (key : Key) : Except Fault α :=
  .error ⟨.duplicateKey, key.span⟩

/-- Fails because a key goes through a value; `inner` says that it stands in an inline table, where
the key of another inline table counts as in use. -/
def Key.closed {α : Type} (inner : Bool) (key : Key) (value : Value) : Except Fault α :=
  match value with
  | .table .. => if inner then key.taken else .error ⟨.closedValue "inline table", key.span⟩
  | value => .error ⟨.closedValue value.typeName, key.span⟩

namespace Entries

/-- The entry of a name. -/
def find? (entries : Entries) (name : String) : Option (Key × Tree) :=
  List.find? (fun entry => entry.1.name = name) entries

/-- Puts an entry in the place of the one with its name, or behind all entries. -/
def put (key : Key) (tree : Tree) : Entries → Entries
  | [] => [(key, tree)]
  | (k, t) :: entries =>
    if k.name = key.name then (key, tree) :: entries else (k, t) :: put key tree entries

/-- Changes the table at the end of a path; tables missing on the way get an origin. A dotted path
does not enter tables that have a header; `inner` says that it stands in an inline table. -/
def change (inner : Bool) (made : Origin) (f : Origin → Entries → Except Fault Entries) :
    (path : List Key) → Origin → Entries → Except Fault Entries
  | [], origin, entries => f origin entries
  | key :: path, _, entries =>
    match entries.find? key.name with
    | none => do
      let sub ← change inner made f path made []
      .ok (entries.put key (.table made key.span sub))
    | some (_, .value value) => key.closed inner value
    | some (old, .table origin span sub) =>
      if made = .dotted ∧ origin = .headed then key.taken
      else do
        let sub ← change inner made f path origin sub
        .ok (entries.put old (.table origin span sub))
    | some (old, .tables span ((header, latest) :: earlier)) => do
      let latest ← change inner made f path .headed latest
      .ok (entries.put old (.tables span ((header, latest) :: earlier)))
    | some (_, .tables _ []) => key.taken

/-- Changes the table at the end of the path of a header. -/
def enter (root : Entries) (path : List Key) (f : Entries → Except Fault Entries) :
    Except Fault Entries :=
  change false .implied (fun _ => f) path .headed root

/-- Adds an entry under a key that has none. -/
def add (key : Key) (tree : Tree) (entries : Entries) : Except Fault Entries :=
  match entries.find? key.name with
  | none => .ok (entries.put key tree)
  | some _ => key.taken

/-- Adds a value under a key behind a path of dotted keys; `inner` says that they stand in an inline
table. -/
def addItem (inner : Bool) (entries : Entries) (path : List Key) (key : Key) (value : Value) :
    Except Fault Entries :=
  if path = [] then entries.add key (.value value)
  else
    change inner .dotted
      (fun origin entries =>
        if origin = .dotted then entries.add key (.value value) else key.taken)
      path .headed entries

end Entries

mutual

/-- The value of a tree. -/
def Tree.toValue : Tree → Value
  | .value value => value
  | .table _ span entries => .table span (entriesToValues entries)
  | .tables span elements => .list span (elementsToValues elements).reverse

/-- The values of the entries of a table. -/
def entriesToValues : List (Key × Tree) → List (Key × Value)
  | [] => []
  | (key, tree) :: entries => (key, tree.toValue) :: entriesToValues entries

/-- The values of the tables of an array. -/
def elementsToValues : List (Span × List (Key × Tree)) → List Value
  | [] => []
  | (span, entries) :: elements =>
    .table span (entriesToValues entries) :: elementsToValues elements

end

end LogFanout.Toml
