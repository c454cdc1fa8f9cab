import LogFanout.Proofs.Toml.Document
import LogFanout.Toml.Decode
import Mathlib.Data.List.Sort

/-!
# Reading contents back

What a value is read as depends on its content only. A record is read from the contents of its
members in the order of their names, each of which sets something in a draft (`Fills`).
-/

namespace LogFanout.Toml

open Document (Expected Member Mismatch Record)

/-- Every value with a content is read as a result. -/
def Decodes {α : Type} (decoder : Decoder α) (content : Content) (result : α) : Prop :=
  ∀ value, value.content = content → decoder value = .ok result

variable {α β δ : Type} {decoder : Decoder α} {content : Content} {result : α}

section Values

/-- To read every value with a scalar is to read the scalar wherever it stands. -/
lemma decodes_scalar {scalar : Scalar} (reads : ∀ span, decoder (.scalar span scalar) = .ok result) :
    Decodes decoder (.scalar scalar) result := by
  intro value same
  cases value with
  | scalar span scalar =>
    cases same
    exact reads span
  | list => cases same
  | table => cases same

lemma decodes_text (s : String) : Decodes source.text (.scalar (.text s)) s :=
  decodes_scalar fun _ => rfl

lemma decodes_boolean (b : Bool) : Decodes source.boolean (.scalar (.boolean b)) b :=
  decodes_scalar fun _ => rfl

lemma decodes_choice {known : List String} {ofName? : String → Option α} {name : String}
    (named : ofName? name = some result) :
    Decodes (source.choice known ofName?) (.scalar (.text name)) result := by
  apply decodes_scalar
  intro span
  simp only [source, decodeChoice, choose, named, orFault]

/-- Sizes and descriptors fit a word. -/
lemma decodes_integer {least most n : Int} (expected : Expected) (lower : least ≤ n)
    (upper : n ≤ most) (least_fits : Int64.minValue.toInt ≤ least)
    (most_fits : most < UInt64.size) :
    Decodes (source.integer least most expected) (.scalar (.integer (some n))) n := by
  apply decodes_scalar
  intro span
  have word : Int64.minValue.toInt ≤ n ∧ n < UInt64.size := by omega
  have found : (Value.scalar span (.integer (some n))).found = .ok (.integer n) := by
    rw [Value.found, Scalar.found, if_pos word]
  simp only [source, decodeInteger, found, bind, Except.bind, if_pos (And.intro lower upper),
    orFault]

lemma Decodes.map (decodes : Decodes decoder content result) (f : α → β) :
    Decodes (source.map f decoder) content (f result) := by
  intro value same
  simp only [source, decodes value same, bind, Except.bind]

lemma Decodes.refine (decodes : Decodes decoder content result) {f : α → Except Mismatch β}
    {result' : β} (passes : f result = .ok result') :
    Decodes (source.refine f decoder) content result' := by
  intro value same
  simp only [source, decodes value same, bind, Except.bind, passes, orFault]

lemma Decodes.optional (decodes : Decodes decoder content result) :
    Decodes (source.optional decoder) content (some result) := by
  intro value same
  simp only [source, decodes value same, bind, Except.bind]

/-- A list is read as its items if each of them is. -/
lemma decodes_list {items : List α} {content : α → Content} {expected : Expected}
    (decodes : ∀ a ∈ items, Decodes decoder (content a) a) :
    Decodes (source.list expected decoder) (.list (items.map content)) items := by
  have each : ∀ values, itemContents values = items.map content →
      values.mapM decoder = .ok items := by
    intro values same
    rw [itemContents_eq] at same
    induction items generalizing values with
    | nil =>
      rw [List.map_eq_nil_iff.mp same]
      rfl
    | cons a items ih =>
      obtain ⟨value, values, rfl, here, rest⟩ := List.map_eq_cons_iff.mp same
      obtain ⟨decodes_here, others⟩ := List.forall_mem_cons.mp decodes
      rw [List.mapM_cons, decodes_here value here]
      simp only [bind, Except.bind, ih others values rest, pure, Except.pure]
  intro value same
  cases value with
  | list span values =>
    injection same with same
    exact each values same
  | scalar => cases same
  | table => cases same

end Values

section Records

/-- Entries in the order of their names. -/
def inOrder (entries : List (String × Content)) : List (String × Content) :=
  entries.foldl (fun sorted entry => sorted.orderedInsert (·.1 < ·.1) entry) []

lemma entryContents_insertByKey (key : Key) (value : Value) (sorted : List (Key × Value)) :
    entryContents (insertByKey key value sorted) =
      (entryContents sorted).orderedInsert (·.1 < ·.1) (key.name, value.content) := by
  induction sorted with
  | nil => rfl
  | cons entry sorted ih =>
    obtain ⟨other, kept⟩ := entry
    rw [insertByKey, entryContents, List.orderedInsert_cons]
    by_cases smaller : key.name < other.name
    · rw [if_pos smaller, if_pos smaller, entryContents, entryContents]
    · rw [if_neg smaller, if_neg smaller, entryContents, ih]

/-- The order of the entries of a table depends on their names only. -/
lemma entryContents_sortByKey (entries : List (Key × Value)) :
    entryContents (sortByKey entries) = inOrder (entryContents entries) := by
  -- Entries are inserted from the front, so the list that is sorted already is arbitrary.
  have folds : ∀ sorted, entryContents
      (entries.foldl (fun sorted entry => insertByKey entry.1 entry.2 sorted) sorted) =
      (entryContents entries).foldl (fun sorted entry => sorted.orderedInsert (·.1 < ·.1) entry)
        (entryContents sorted) := by
    induction entries with
    | nil => exact fun _ => rfl
    | cons entry entries ih =>
      intro sorted
      rw [List.foldl_cons, ih, entryContents_insertByKey]
      rfl
  exact folds []

/-- The entries of a table, in the order in which they are read, fill a draft. -/
inductive Fills (members : List (Member Decoder δ)) :
    δ → List (String × Content) → δ → Prop where
  | done {draft} :
    Fills members draft [] draft
  | next {draft draft' key member content set entries} :
    members.find? (fun member => member.key = key) = some member →
    Decodes member.read content set →
    Fills members (set draft) entries draft' →
    Fills members draft ((key, content) :: entries) draft'

variable {members : List (Member Decoder δ)} {draft draft' : δ}

/-- A member whose value is put into the draft by a function. -/
lemma Fills.one {key key' : String} {required : Bool} {isSet : δ → Bool} {f : α → δ → δ}
    (known : members.find? (fun member => member.key = key) =
      some ⟨key', required, isSet, source.map f decoder⟩)
    (decodes : Decodes decoder content result) (sets : f result draft = draft') :
    Fills members draft [(key, content)] draft' := by
  rw [← sets]
  exact .next known (decodes.map f) .done

lemma Fills.append {draft'' : δ} {entries more : List (String × Content)}
    (first : Fills members draft entries draft') (second : Fills members draft' more draft'') :
    Fills members draft (entries ++ more) draft'' := by
  induction first with
  | done => exact second
  | next known decodes _ ih => exact .next known decodes (ih second)

lemma Fills.foldlM_decodeEntry {contents : List (String × Content)}
    (fills : Fills members draft contents draft') {entries : List (Key × Value)}
    (same : entryContents entries = contents) :
    entries.foldlM (decodeEntry members) draft = .ok draft' := by
  induction fills generalizing entries with
  | done =>
    cases entries with
    | nil => rfl
    | cons => cases same
  | next known decodes _ ih =>
    cases entries with
    | nil => cases same
    | cons entry entries =>
      injection same with here rest
      obtain ⟨rfl, value⟩ := Prod.mk.inj here
      rw [List.foldlM_cons, decodeEntry, known]
      simp only [decodes _ value, bind, Except.bind, ih rest]

/-- A table is read as the value of the draft that it fills. -/
lemma Fills.decodes_record {record : Record Decoder δ α} {entries : List (String × Content)}
    (fills : Fills record.members record.start (inOrder entries) draft)
    (finishes : record.finish draft = .ok result) :
    Decodes (source.record record) (.table entries) result := by
  intro value same
  cases value with
  | table span entries' =>
    injection same with same
    have folds := fills.foldlM_decodeEntry (same ▸ entryContents_sortByKey entries')
    simp only [source, decodeRecord, folds, bind, Except.bind, finishes, orFault]
  | scalar => cases same
  | list => cases same

end Records

end LogFanout.Toml
