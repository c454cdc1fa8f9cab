/-!
# Tables

Values by name, in ascending order of the names. Names are compared by code points, which is the
order of their UTF-8 bytes.
-/

namespace LogFanout

/-- Values by name, ascending and without repetition. -/
structure Table (α : Type) where
  entries : List (String × α)
  ascending : entries.Pairwise fun a b => a.1 < b.1

namespace Table

variable {α : Type}

/-- The table without entries. -/
def empty : Table α :=
  ⟨[], .nil⟩

/-- The names in ascending order. -/
def names (table : Table α) : List String :=
  table.entries.map (·.1)

/-- The value of a name. -/
def find? (table : Table α) (name : String) : Option α :=
  table.entries.lookup name

/-- Whether a name has a value. -/
def contains (table : Table α) (name : String) : Bool :=
  (table.find? name).isSome

/-- The entries of some names, in the order of the names. -/
def inOrder (table : Table α) (names : List String) : List (String × α) :=
  names.filterMap fun name => (table.find? name).map fun value => (name, value)

/-- The number of entries. -/
def size (table : Table α) : Nat :=
  table.entries.length

/-- Puts an entry in its place, instead of the one of that name if there is one. -/
def insertEntry (name : String) (value : α) : List (String × α) → List (String × α)
  | [] => [(name, value)]
  | entry :: entries =>
    if name < entry.1 then (name, value) :: entry :: entries
    else if name = entry.1 then (name, value) :: entries
    else entry :: insertEntry name value entries

theorem mem_insertEntry {name : String} {value : α} {entry : String × α}
    {entries : List (String × α)} (h : entry ∈ insertEntry name value entries) :
    entry = (name, value) ∨ entry ∈ entries := by
  induction entries with
  | nil => simpa [insertEntry] using h
  | cons head tail ih =>
    rw [insertEntry] at h
    split at h
    · simpa using h
    · split at h
      · rcases List.mem_cons.mp h with h | h
        · exact .inl h
        · exact .inr (List.mem_cons_of_mem _ h)
      · rcases List.mem_cons.mp h with h | h
        · exact .inr (h ▸ List.mem_cons_self)
        · exact (ih h).imp id (List.mem_cons_of_mem _)

theorem ascending_insertEntry {name : String} {value : α} {entries : List (String × α)}
    (h : entries.Pairwise fun a b => a.1 < b.1) :
    (insertEntry name value entries).Pairwise fun a b => a.1 < b.1 := by
  induction entries with
  | nil => simp [insertEntry]
  | cons head tail ih =>
    obtain ⟨below, rest⟩ := List.pairwise_cons.mp h
    rw [insertEntry]
    split
    · rename_i lt
      refine List.pairwise_cons.mpr ⟨fun entry mem => ?_, h⟩
      rcases List.mem_cons.mp mem with eq | mem
      · exact eq ▸ lt
      · exact String.lt_trans lt (below entry mem)
    · split
      · rename_i eq
        exact List.pairwise_cons.mpr ⟨fun entry mem => eq ▸ below entry mem, rest⟩
      · rename_i ge ne
        refine List.pairwise_cons.mpr ⟨fun entry mem => ?_, ih rest⟩
        rcases mem_insertEntry mem with eq | mem
        · subst eq
          exact Std.lt_of_le_of_ne (Std.not_lt.mp ge) (Ne.symm ne)
        · exact below entry mem

/-- Gives a name a value. -/
def insert (table : Table α) (name : String) (value : α) : Table α where
  entries := insertEntry name value table.entries
  ascending := ascending_insertEntry table.ascending

/-- Takes a name and its value out. -/
def erase (table : Table α) (name : String) : Table α where
  entries := table.entries.filter fun entry => entry.1 ≠ name
  ascending := table.ascending.filter _

/-- Changes the value of a name, if it has one. -/
def modify (table : Table α) (name : String) (f : α → α) : Table α where
  entries := table.entries.map fun entry => if entry.1 = name then (entry.1, f entry.2) else entry
  ascending := by
    refine List.pairwise_map.mpr (table.ascending.imp fun {a b} lt => ?_)
    split <;> split <;> exact lt

theorem lookup_cons (name : String) (entry : String × α) (entries : List (String × α)) :
    (entry :: entries).lookup name =
      if name = entry.1 then some entry.2 else entries.lookup name := by
  obtain ⟨key, value⟩ := entry
  rw [List.lookup_cons]
  by_cases h : name = key
  · simp [h]
  · have ne : (name == key) = false := by simpa using h
    simp [h, ne]

theorem lookup_insertEntry (name other : String) (value : α) (entries : List (String × α)) :
    (insertEntry name value entries).lookup other =
      if other = name then some value else entries.lookup other := by
  induction entries with
  | nil => rw [insertEntry, lookup_cons]
  | cons head tail ih =>
    rw [insertEntry]
    split
    · rw [lookup_cons]
    · split
      · rename_i eq
        rw [lookup_cons, lookup_cons, eq]
        split <;> rfl
      · rename_i ne
        rw [lookup_cons, lookup_cons, ih]
        split
        · rename_i eq
          exact (if_neg (by rwa [eq, eq_comm])).symm
        · rfl

@[simp] theorem find?_empty (name : String) : (empty : Table α).find? name = none :=
  rfl

@[simp] theorem find?_insert (table : Table α) (name other : String) (value : α) :
    (table.insert name value).find? other =
      if other = name then some value else table.find? other :=
  lookup_insertEntry name other value table.entries

theorem lookup_filter_ne (name other : String) (entries : List (String × α)) :
    (entries.filter fun entry => entry.1 ≠ name).lookup other =
      if other = name then none else entries.lookup other := by
  induction entries with
  | nil => simp
  | cons head tail ih =>
    rw [List.filter_cons]
    split
    · rw [lookup_cons, lookup_cons, ih]
      grind
    · rw [lookup_cons, ih]
      grind

theorem lookup_map_if (name other : String) (f : α → α) (entries : List (String × α)) :
    (entries.map fun entry => if entry.1 = name then (entry.1, f entry.2) else entry).lookup other =
      if other = name then (entries.lookup other).map f else entries.lookup other := by
  induction entries with
  | nil => simp
  | cons head tail ih =>
    rw [List.map_cons, lookup_cons, lookup_cons, ih]
    grind

@[simp] theorem find?_erase (table : Table α) (name other : String) :
    (table.erase name).find? other = if other = name then none else table.find? other :=
  lookup_filter_ne name other table.entries

@[simp] theorem find?_modify (table : Table α) (name other : String) (f : α → α) :
    (table.modify name f).find? other =
      if other = name then (table.find? other).map f else table.find? other :=
  lookup_map_if name other f table.entries

end Table

end LogFanout
