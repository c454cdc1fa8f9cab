import LogFanout.Toml.Outline

/-!
# TOML documents

The keys and scalars of an outline are looked into one after the other, in the order of the
document, and the tables are put together; the first fault ends it. The parts of a key may be nested
up to a fixed depth.
-/

namespace LogFanout.Toml

/-- The path and the key of a route. -/
def Route.read (route : Route) : Except Fault (List Key × Key) := do
  let path ← route.path.mapM id
  let last ← route.last
  match path.drop (maxDepth - 1) with
  | [] => .ok (path, last)
  | key :: _ => .error ⟨.deepKey, key.span⟩

mutual

/-- The value of a node. -/
def Node.toValue : Node → Except Fault Value
  | .scalar span value => do .ok (.scalar span (← value))
  | .list span items => do .ok (.list span (← nodesToValues items))
  | .table span entries => do .ok (.table span (entriesToValues (← addNodes true [] entries)))

/-- The values of the items of an array. -/
def nodesToValues : List Node → Except Fault (List Value)
  | [] => .ok []
  | node :: nodes => do
    let value ← node.toValue
    .ok (value :: (← nodesToValues nodes))

/-- Adds items to a table; `inner` says that it is an inline table. -/
def addNodes (inner : Bool) (entries : Entries) : List (Route × Node) → Except Fault Entries
  | [] => .ok entries
  | (route, node) :: items => do
    let (path, key) ← route.read
    let value ← node.toValue
    addNodes inner (← entries.addItem inner path key value) items

end

/-- Gives a table its header and its items; its key is from now on the one in the header. -/
def headTable (header : Span) (items : List (Route × Node)) (key : Key) (entries : Entries) :
    Except Fault Entries :=
  match entries.find? key.name with
  | none => do .ok (entries.put key (.table .headed header (← addNodes false [] items)))
  | some (_, .table .implied _ sub) => do
    .ok (entries.put key (.table .headed header (← addNodes false sub items)))
  | some _ => key.taken

/-- Adds a table to an array. -/
def appendTable (header : Span) (table : Entries) (key : Key) (entries : Entries) :
    Except Fault Entries :=
  match entries.find? key.name with
  | none => .ok (entries.put key (.tables header [(header, table)]))
  | some (old, .tables span earlier) =>
    .ok (entries.put old (.tables span ((header, table) :: earlier)))
  | some _ => key.taken

/-- Puts the table of a section in its place. -/
def addSection (root : Entries) (part : Section) : Except Fault Entries :=
  match part.header with
  | none => addNodes false root part.items
  | some header => do
    let (path, key) ← header.route.read
    if header.repeated then
      let table ← addNodes false [] part.items
      root.enter path (appendTable header.span table key)
    else
      root.enter path (headTable header.span part.items key)

/-- The text without a byte order mark in front. -/
def dropByteOrderMark : List Char → List Char
  | '\ufeff' :: cs => cs
  | cs => cs

/-- The table of a document. -/
def parse (content : List Char) : Except Fault Value := do
  let cs := dropByteOrderMark content
  let sections ← readSections cs [] ⟨none, []⟩ cs
  let entries ← sections.foldlM addSection []
  .ok (.table ⟨cs, []⟩ (entriesToValues entries))

end LogFanout.Toml
