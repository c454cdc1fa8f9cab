import LogFanout.Table
import Mathlib.Data.List.Sort

/-!
# Tables and their values

A table is known by the values of its names: `Table.ext_find?` makes two tables equal that have the
same ones. The entries, the names and the values of a table are related here, so that what follows
needs no more than `Table.find?`.
-/

namespace LogFanout
namespace Table

variable {α β : Type}

/-- An entry of an ascending list is found by its name. -/
lemma lookup_eq_some_of_mem {name : String} {value : α} {entries : List (String × α)}
    (asc : entries.Pairwise fun a b => a.1 < b.1) (mem : (name, value) ∈ entries) :
    entries.lookup name = some value := by
  induction entries with
  | nil => cases mem
  | cons head tail ih =>
    obtain ⟨below, rest⟩ := List.pairwise_cons.mp asc
    rw [lookup_cons]
    rcases List.mem_cons.mp mem with eq | mem
    · subst eq
      exact if_pos rfl
    · have ne : name ≠ head.1 := fun eq =>
        String.lt_irrefl name (by simpa [← eq] using below _ mem)
      rw [if_neg ne]
      exact ih rest mem

lemma mem_of_lookup_eq_some {name : String} {value : α} {entries : List (String × α)}
    (h : entries.lookup name = some value) : (name, value) ∈ entries := by
  induction entries with
  | nil => cases h
  | cons head tail ih =>
    rw [lookup_cons] at h
    split at h
    · rename_i eq
      cases h
      exact eq ▸ List.mem_cons_self
    · exact List.mem_cons_of_mem _ (ih h)

/-- The entries of a table are what is found in it. -/
lemma mem_entries_iff {table : Table α} {name : String} {value : α} :
    (name, value) ∈ table.entries ↔ table.find? name = some value :=
  ⟨lookup_eq_some_of_mem table.ascending, mem_of_lookup_eq_some⟩

/-- The names of a table are those that have a value. -/
lemma mem_names_iff {table : Table α} {name : String} :
    name ∈ table.names ↔ ∃ value, table.find? name = some value := by
  constructor
  · intro mem
    obtain ⟨entry, listed, rfl⟩ := List.mem_map.mp mem
    exact ⟨entry.2, mem_entries_iff.mp listed⟩
  · rintro ⟨value, found⟩
    exact List.mem_map.mpr ⟨_, mem_entries_iff.mpr found, rfl⟩

lemma contains_iff {table : Table α} {name : String} :
    table.contains name = true ↔ ∃ value, table.find? name = some value :=
  Option.isSome_iff_exists

lemma names_ascending (table : Table α) : table.names.Pairwise (· < ·) :=
  List.pairwise_map.mpr table.ascending

lemma names_nodup (table : Table α) : table.names.Nodup := by
  refine table.names_ascending.imp fun {a b} lt eq => ?_
  exact String.lt_irrefl a (eq ▸ lt)

/-- Ascending lists with the same entries are equal. -/
lemma eq_of_mem_iff {s t : List (String × α)} (ascS : s.Pairwise fun a b => a.1 < b.1)
    (ascT : t.Pairwise fun a b => a.1 < b.1) (same : ∀ entry, entry ∈ s ↔ entry ∈ t) : s = t := by
  have irrefl : Std.Irrefl fun a b : String × α => a.1 < b.1 := ⟨fun a => String.lt_irrefl a.1⟩
  have antisymm : Std.Antisymm fun a b : String × α => a.1 < b.1 :=
    ⟨fun a b lt gt => absurd (String.lt_trans lt gt) (String.lt_irrefl a.1)⟩
  exact ascS.eq_of_mem_iff ascT same

/-- Tables in which the same is found are equal. -/
lemma ext_find? {s t : Table α} (h : ∀ name, s.find? name = t.find? name) : s = t := by
  have entries : s.entries = t.entries := by
    refine eq_of_mem_iff s.ascending t.ascending fun (name, value) => ?_
    rw [mem_entries_iff, mem_entries_iff, h]
  cases s
  cases t
  cases entries
  rfl

/-- Only the last value that a name is given counts. -/
lemma insert_insert (table : Table α) (name : String) (value value' : α) :
    (table.insert name value).insert name value' = table.insert name value' := by
  apply ext_find?
  intro other
  rw [find?_insert, find?_insert, find?_insert]
  split <;> rfl

/-- A table whose values are changed one by one. -/
def map (f : α → β) (table : Table α) : Table β where
  entries := table.entries.map fun entry => (entry.1, f entry.2)
  ascending := List.pairwise_map.mpr table.ascending

/-- What is found in a table after its values were changed. -/
@[simp] lemma find?_map (f : α → β) (table : Table α) (name : String) :
    (table.map f).find? name = (table.find? name).map f := by
  have lookup : ∀ entries : List (String × α),
      (entries.map fun entry => (entry.1, f entry.2)).lookup name =
        (entries.lookup name).map f := by
    intro entries
    induction entries with
    | nil => rfl
    | cons head tail ih =>
      rw [List.map_cons, lookup_cons, lookup_cons, ih]
      split <;> rfl
  exact lookup table.entries

lemma names_map (f : α → β) (table : Table α) : (table.map f).names = table.names := by
  rw [names, names, map, List.map_map]
  rfl

lemma names_erase (table : Table α) (name : String) :
    (table.erase name).names = table.names.filter (· ≠ name) := by
  rw [names, names, erase, List.filter_map]
  rfl

/-- In the order of its own names a table is gone through as it is. -/
lemma inOrder_names (table : Table α) : table.inOrder table.names = table.entries := by
  have found : ∀ entry ∈ table.entries,
      ((table.find? entry.1).map fun value => (entry.1, value)) = some entry := by
    rintro ⟨name, value⟩ mem
    rw [mem_entries_iff.mp mem, Option.map_some]
  rw [inOrder, names, List.filterMap_map]
  exact (List.filterMap_congr found).trans List.filterMap_some

end Table
end LogFanout
