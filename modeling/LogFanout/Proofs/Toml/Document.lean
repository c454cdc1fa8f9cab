import LogFanout.Toml.Document
import Mathlib.Data.List.Forall2

/-!
# Putting tables together

The content of a value is what is left of it without the places where its parts stand. A section
whose items have new keys of one part gives a table with their contents, and sections of one header
with double brackets give a list of such tables.
-/

namespace LogFanout.Toml

/-- A value without the places where its parts stand. -/
inductive Content where
  | scalar (value : Scalar)
  | list (items : List Content)
  | table (entries : List (String × Content))

mutual

/-- The content of a value. -/
def Value.content : Value → Content
  | .scalar _ value => .scalar value
  | .list _ items => .list (itemContents items)
  | .table _ entries => .table (entryContents entries)

/-- The contents of the items of an array. -/
def itemContents : List Value → List Content
  | [] => []
  | item :: items => item.content :: itemContents items

/-- The contents of the entries of a table. -/
def entryContents : List (Key × Value) → List (String × Content)
  | [] => []
  | (key, value) :: entries => (key.name, value.content) :: entryContents entries

end

/-- An item of an outline gives an entry of a table. -/
def Gives (item : Route × Node) (entry : String × Content) : Prop :=
  ∃ span value, item.1.read = .ok ([], ⟨entry.1, span⟩) ∧ item.2.toValue = .ok value ∧
    value.content = entry.2

lemma itemContents_eq (items : List Value) : itemContents items = items.map Value.content := by
  induction items with
  | nil => rfl
  | cons item items ih => rw [itemContents, ih, List.map_cons]

lemma entryContents_append (entries more : List (Key × Value)) :
    entryContents (entries ++ more) = entryContents entries ++ entryContents more := by
  induction entries with
  | nil => rfl
  | cons entry entries ih => rw [List.cons_append, entryContents, ih, entryContents]; rfl

lemma entriesToValues_append (entries more : Entries) :
    entriesToValues (entries ++ more) = entriesToValues entries ++ entriesToValues more := by
  induction entries with
  | nil => rfl
  | cons entry entries ih => rw [List.cons_append, entriesToValues, ih, entriesToValues]; rfl

/-- The names and contents of the entries of a table that is being put together. -/
def Entries.contents (entries : Entries) : List (String × Content) :=
  entryContents (entriesToValues entries)

namespace Entries

lemma contents_append (entries more : Entries) :
    contents (entries ++ more) = entries.contents ++ contents more := by
  rw [contents, entriesToValues_append, entryContents_append]
  rfl

lemma contents_cons (key : Key) (tree : Tree) (entries : Entries) :
    contents ((key, tree) :: entries) = (key.name, tree.toValue.content) :: entries.contents := rfl

lemma find?_eq_none_iff {entries : Entries} {name : String} :
    entries.find? name = none ↔ name ∉ entries.contents.map Prod.fst := by
  induction entries with
  | nil => simp [find?, contents, entriesToValues, entryContents]
  | cons entry entries ih =>
    obtain ⟨key, tree⟩ := entry
    rw [contents_cons, List.map_cons, List.mem_cons, not_or, ← ih, find?, List.find?_cons]
    by_cases eq : key.name = name
    · simp [eq]
    · simp [eq, Ne.symm eq, find?]

lemma find?_eq_none {entries : Entries} {name : String} {content : Content}
    {data : List (String × Content)}
    (distinct : ((entries.contents ++ (name, content) :: data).map Prod.fst).Nodup) :
    entries.find? name = none := by
  rw [find?_eq_none_iff]
  intro mem
  rw [List.map_append, List.nodup_append] at distinct
  exact distinct.2.2 name mem name List.mem_cons_self rfl

/-- A new entry goes behind all others. -/
lemma put_of_find?_none {entries : Entries} {key : Key} (absent : entries.find? key.name = none)
    (tree : Tree) : entries.put key tree = entries ++ [(key, tree)] := by
  induction entries with
  | nil => rfl
  | cons entry entries ih =>
    obtain ⟨other, kept⟩ := entry
    rw [find?, List.find?_cons] at absent
    by_cases eq : other.name = key.name
    · simp [eq] at absent
    · simp only [eq, decide_false] at absent
      rw [put, if_neg eq, ih absent, List.cons_append]

/-- An entry at the end is replaced where it stands. -/
lemma put_append {entries : Entries} {key : Key} (absent : entries.find? key.name = none)
    (tree tree' : Tree) : (entries ++ [(key, tree)]).put key tree' = entries ++ [(key, tree')] := by
  induction entries with
  | nil => simp [put]
  | cons entry entries ih =>
    obtain ⟨other, kept⟩ := entry
    rw [find?, List.find?_cons] at absent
    by_cases eq : other.name = key.name
    · simp [eq] at absent
    · simp only [eq, decide_false] at absent
      rw [List.cons_append, put, if_neg eq, ih absent, List.cons_append]

lemma find?_append {entries : Entries} {name : String} (absent : entries.find? name = none)
    (more : Entries) : Entries.find? (entries ++ more) name = more.find? name := by
  rw [find?] at absent ⊢
  rw [List.find?_append, absent]
  rfl

end Entries

/-- Items with new keys are added behind the entries of a table. -/
lemma addNodes_gives (inner : Bool) (entries : Entries) {items : List (Route × Node)}
    {data : List (String × Content)} (gives : List.Forall₂ Gives items data)
    (new : ((entries.contents ++ data).map Prod.fst).Nodup) :
    ∃ added, addNodes inner entries items = .ok (entries ++ added) ∧
      Entries.contents added = data := by
  induction gives generalizing entries with
  | nil => exact ⟨[], by rw [addNodes, List.append_nil], rfl⟩
  | @cons item entry items data given _ ih =>
    obtain ⟨route, node⟩ := item
    obtain ⟨name, content⟩ := entry
    obtain ⟨span, value, read, node_value, rfl⟩ := given
    have absent : entries.find? name = none := Entries.find?_eq_none new
    have put : entries.put ⟨name, span⟩ (.value value) = entries ++ [(⟨name, span⟩, .value value)] :=
      Entries.put_of_find?_none absent _
    have more : ((Entries.contents (entries ++ [(⟨name, span⟩, .value value)]) ++ data).map
        Prod.fst).Nodup := by
      rw [Entries.contents_append, List.append_assoc]
      exact new
    obtain ⟨added, eq, contents⟩ := ih _ more
    refine ⟨(⟨name, span⟩, .value value) :: added, ?_, ?_⟩
    · rw [addNodes]
      simp only [read, node_value, bind, Except.bind, Entries.addItem, if_true, Entries.add, absent,
        put, eq, List.append_assoc, List.singleton_append]
    · rw [Entries.contents_cons, contents]
      rfl

/-- A header with the names and contents of the entries of its table. -/
structure Block where
  repeated : Bool
  name : String
  entries : List (String × Content)

/-- A section that begins with the header of a block and has its entries. -/
structure Section.Fills (part : Section) (block : Block) : Prop where
  headed : ∃ header span, part.header = some header ∧ header.repeated = block.repeated ∧
    header.route.read = .ok ([], ⟨block.name, span⟩)
  gives : List.Forall₂ Gives part.items block.entries
  distinct : (block.entries.map Prod.fst).Nodup

variable {root : Entries} {part : Section} {name : String} {data : List (String × Content)}

/-- The section before the first header fills the table of the document. -/
lemma addSection_first {items : List (Route × Node)} (gives : List.Forall₂ Gives items data)
    (distinct : (data.map Prod.fst).Nodup) :
    ∃ root, addSection [] ⟨none, items⟩ = .ok root ∧ Entries.contents root = data :=
  addNodes_gives false [] gives distinct

/-- A section with a header of its own adds its table. -/
lemma addSection_table (fills : part.Fills ⟨false, name, data⟩) (absent : root.find? name = none) :
    ∃ root', addSection root part = .ok root' ∧
      root'.contents = root.contents ++ [(name, .table data)] := by
  obtain ⟨header, span, headed, single, read⟩ := fills.headed
  obtain ⟨table, eq, rfl⟩ := addNodes_gives false [] fills.gives fills.distinct
  have put : root.put ⟨name, span⟩ (.table .headed header.span table) =
      root ++ [(⟨name, span⟩, .table .headed header.span table)] :=
    Entries.put_of_find?_none absent _
  refine ⟨root ++ [(⟨name, span⟩, .table .headed header.span table)], ?_, ?_⟩
  · rw [addSection, headed]
    simp only [read, single, bind, Except.bind, Bool.false_eq_true, if_false, Entries.enter,
      Entries.change, headTable, absent, eq, List.nil_append, put]
  · rw [Entries.contents_append]
    rfl

/-- A section with a repeated header adds its table to an array. -/
lemma addSection_repeated (fills : part.Fills ⟨true, name, data⟩) :
    ∃ header key table, key.name = name ∧ Entries.contents table = data ∧
      ∀ root, addSection root part = appendTable header table key root := by
  obtain ⟨header, span, headed, repeated, read⟩ := fills.headed
  obtain ⟨table, eq, contents⟩ := addNodes_gives false [] fills.gives fills.distinct
  refine ⟨header.span, ⟨name, span⟩, table, rfl, contents, fun root => ?_⟩
  rw [addSection, headed]
  simp only [read, repeated, bind, Except.bind, if_true, eq, List.nil_append, Entries.enter,
    Entries.change]

/-- Once an array is there, sections that repeat its header add their tables to it. -/
lemma foldlM_tables {rows : List (List (String × Content))} {parts : List Section}
    (fills : List.Forall₂ Section.Fills parts (rows.map (⟨true, name, ·⟩))) {key : Key}
    (known : key.name = name) (absent : root.find? name = none) (span : Span)
    (elements : List (Span × Entries)) :
    ∃ elements', parts.foldlM addSection (root ++ [(key, .tables span elements)]) =
        .ok (root ++ [(key, .tables span elements')]) ∧
      itemContents (elementsToValues elements').reverse =
        itemContents (elementsToValues elements).reverse ++ rows.map .table := by
  -- The tables are kept with the latest one first, and the values are put back in their order.
  induction rows generalizing parts elements with
  | nil =>
    cases fills
    exact ⟨elements, rfl, (List.append_nil _).symm⟩
  | cons data rows ih =>
    obtain _ | ⟨here, fills⟩ := fills
    obtain ⟨header, other, table, same, contents, adds⟩ := addSection_repeated here
    have find : Entries.find? (root ++ [(key, .tables span elements)]) name =
        some (key, .tables span elements) := by
      rw [Entries.find?_append absent]
      simp [Entries.find?, known]
    have put := Entries.put_append (known ▸ absent) (.tables span elements)
      (.tables span ((header, table) :: elements))
    obtain ⟨elements', folds, items⟩ := ih fills ((header, table) :: elements)
    refine ⟨elements', ?_, ?_⟩
    · rw [List.foldlM_cons, adds, appendTable]
      simp only [same, find, put, bind, Except.bind, folds]
    · rw [items, elementsToValues, List.reverse_cons, itemContents_eq, itemContents_eq,
        List.map_append, List.map_cons, List.append_assoc, ← contents]
      rfl

/-- The entry for an array of tables; without tables there is none. -/
def tablesEntry (name : String) : List (List (String × Content)) → List (String × Content)
  | [] => []
  | data :: rows => [(name, .list ((data :: rows).map .table))]

/-- Sections that repeat a new header give an array of tables. -/
lemma foldlM_addSection {rows : List (List (String × Content))} {parts : List Section}
    (fills : List.Forall₂ Section.Fills parts (rows.map (⟨true, name, ·⟩)))
    (distinct : ((root.contents ++ tablesEntry name rows).map Prod.fst).Nodup) :
    ∃ root', parts.foldlM addSection root = .ok root' ∧
      root'.contents = root.contents ++ tablesEntry name rows := by
  cases rows with
  | nil =>
    cases fills
    exact ⟨root, rfl, (List.append_nil _).symm⟩
  | cons data rows =>
    obtain _ | ⟨here, fills⟩ := fills
    obtain ⟨header, key, table, rfl, contents, adds⟩ := addSection_repeated here
    have absent : root.find? key.name = none := Entries.find?_eq_none distinct
    have put : root.put key (.tables header [(header, table)]) =
        root ++ [(key, .tables header [(header, table)])] :=
      Entries.put_of_find?_none absent _
    obtain ⟨elements, folds, items⟩ := foldlM_tables fills rfl absent header [(header, table)]
    refine ⟨root ++ [(key, .tables header elements)], ?_, ?_⟩
    · rw [List.foldlM_cons, adds, appendTable, absent]
      simp only [put, bind, Except.bind, folds]
    · have list : (Tree.tables header elements).toValue.content =
          .list ((data :: rows).map .table) := by
        rw [Tree.toValue, Value.content, items, ← contents]
        rfl
      rw [Entries.contents_append, Entries.contents_cons, list]
      rfl

end LogFanout.Toml
