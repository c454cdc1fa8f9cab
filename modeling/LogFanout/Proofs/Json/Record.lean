import LogFanout.Proofs.Json.Scalar
import LogFanout.Proofs.Json.Skip

/-!
# Reading records and lists

The members of an object are added to a draft one after another, and those without a place in it are
passed over (`Adds`); the items of an array are read in their order. The layout of a value is such
an object or array at every depth.
-/

namespace LogFanout.Json

open Document (Expected Member Mismatch Record)

/-- What stands between the quotes of a name spells it. -/
def Named (text : List Char) (key : String) : Prop :=
  Spells text key.toList

lemma named_escape (key : String) : Named (key.toList.flatMap escape) key :=
  spells_escape key.toList

section Records

variable {δ : Type} {members : List (Member Reader δ)} {first : Bool}

lemma nextKey_lead {lead : List Char} (leads : Lead first lead) (cs : List Char) :
    nextKey first (lead ++ '"' :: cs) = .ok (some cs) := by
  have quote : isBlank '"' = false := by decide
  cases leads with
  | first blank =>
    rw [nextKey, dropBlank_append blank quote]
    rfl
  | next blank blank' =>
    rw [nextKey, List.append_assoc, List.cons_append, dropBlank_append blank (by decide)]
    simp only [dropBlank_append blank' quote]
    rfl

lemma nextKey_end {gap : List Char} (blank : Blank gap) (rest : List Char) :
    nextKey first (gap ++ '\x7d' :: rest) = .ok none := by
  rw [nextKey, dropBlank_append blank (by decide)]
  rfl

/-- Members, each with the text of its value, that are added to a draft. -/
inductive Adds (members : List (Member Reader δ)) :
    δ → List (String × List Char) → δ → Prop where
  | done {draft} :
    Adds members draft [] draft
  | known {draft draft' key member value set entries} :
    members.find? (fun member => member.key = key) = some member →
    member.isSet draft = false →
    Reads member.read value set →
    Adds members (set draft) entries draft' →
    Adds members draft ((key, value) :: entries) draft'
  | unknown {draft draft' key value entries} :
    members.find? (fun member => member.key = key) = none →
    WellFormed value →
    Adds members draft entries draft' →
    Adds members draft ((key, value) :: entries) draft'

/-- Reading the members of an object adds them to the draft. -/
lemma Adds.reads {draft draft' : δ} {entries : List (String × List Char)}
    (adds : Adds members draft entries draft') {text : List Char}
    (lists : Members Named first entries text) (fuel rest : List Char)
    (enough : text.length < fuel.length) :
    ∃ gap, Blank gap ∧
      readMembers members fuel first draft (text ++ '\x7d' :: rest) =
        .ok (draft', gap ++ '\x7d' :: rest) := by
  -- The quotes around each name alone cost more than the one character of fuel.
  induction adds generalizing first text fuel with
  | done =>
    obtain ⟨f, fuel, rfl⟩ := List.exists_cons_of_length_pos (Nat.zero_lt_of_lt enough)
    cases lists with
    | done blank =>
      refine ⟨text, blank, ?_⟩
      rw [readMembers, nextKey_end blank]
      rfl
  | known known new value_reads _ ih =>
    obtain ⟨f, fuel, rfl⟩ := List.exists_cons_of_length_pos (Nat.zero_lt_of_lt enough)
    cases lists with
    | @next _ _ _ _ gap gap' _ _ text leads named blank blank' lists =>
      have less : text.length < fuel.length := by
        simp only [List.length_append, List.length_cons] at enough
        omega
      obtain ⟨last, blanks, eq⟩ := ih lists fuel less
      refine ⟨last, blanks, ?_⟩
      have read := value_reads.reads gap' _ blank' (lists.apart rest)
      rw [List.append_assoc] at read
      simp only [List.append_assoc, List.cons_append, readMembers, nextKey_lead leads, bind,
        Except.bind, readText_spells named, known, new, Bool.false_eq_true, if_false,
        readColon_append blank, read, eq]
  | unknown unknown wellFormed _ ih =>
    obtain ⟨f, fuel, rfl⟩ := List.exists_cons_of_length_pos (Nat.zero_lt_of_lt enough)
    cases lists with
    | @next _ _ _ _ gap gap' _ _ text leads named blank blank' lists =>
      have less : text.length < fuel.length := by
        simp only [List.length_append, List.length_cons] at enough
        omega
      obtain ⟨last, blanks, eq⟩ := ih lists fuel less
      refine ⟨last, blanks, ?_⟩
      have skipped := skipValue_wellFormed wellFormed blank' (lists.apart rest)
      simp only [List.append_assoc, List.cons_append, readMembers, nextKey_lead leads, bind,
        Except.bind, readText_spells named, unknown, readColon_append blank, skipped, eq]

/-- An object is read as the value of the draft that its members add up to. -/
lemma Adds.reads_record {α : Type} {record : Record Reader δ α} {draft : δ}
    {entries : List (String × List Char)} (adds : Adds record.members record.start entries draft)
    {text : List Char} (lists : Members Named true entries text) {value : α}
    (finishes : record.finish draft = .ok value) :
    Reads (readRecord record) ('\x7b' :: (text ++ ['\x7d'])) value := by
  apply Reads.of_cons (by decide) (by decide)
  intro front rest eq _
  rw [List.append_assoc, List.singleton_append] at eq
  have enough : text.length < (text ++ '\x7d' :: rest).length := by
    rw [List.length_append, List.length_cons]
    omega
  obtain ⟨gap, blank, read⟩ := adds.reads lists _ rest enough
  have closed : readRecordEnd .trailingText (gap ++ '\x7d' :: rest) = .ok rest := by
    rw [readRecordEnd, dropBlank_append blank (by decide)]
    rfl
  simp only [readRecord, eq, if_true, read, bind, Except.bind, finishes, orUnsettled, closed,
    Except.mapError]

end Records

section Lists

variable {α : Type} {item : Reader α} {first : Bool}

lemma nextElement_lead {lead : List Char} (leads : Lead first lead) {c : Char}
    (solid : isBlank c = false) (inner : c ≠ ']') (cs : List Char) :
    nextElement first (lead ++ c :: cs) = .ok (some (c :: cs)) := by
  cases leads with
  | first blank =>
    rw [nextElement, dropBlank_append blank solid]
    simp only [inner, if_false, if_true]
  | next blank blank' =>
    rw [nextElement, List.append_assoc, List.cons_append, dropBlank_append blank (by decide)]
    simp only [dropBlank_append blank' solid, inner, if_false, if_true, Bool.false_eq_true]
    rfl

lemma nextElement_end {gap : List Char} (blank : Blank gap) (rest : List Char) :
    nextElement first (gap ++ ']' :: rest) = .ok none := by
  rw [nextElement, dropBlank_append blank (by decide)]
  rfl

/-- Reading the items of an array gives them in their order. -/
lemma Items.reads {items : List (List Char)} {values : List α}
    (reads : List.Forall₂ (Reads item) items values) {text : List Char}
    (lists : Items first items text) (fuel : List Char) (done : List α) (rest : List Char)
    (enough : text.length < fuel.length) (start : first = done.isEmpty) :
    ∃ gap, Blank gap ∧
      readItems item fuel done (text ++ ']' :: rest) =
        .ok (done.reverse ++ values, gap ++ ']' :: rest) := by
  induction reads generalizing first text fuel done with
  | nil =>
    obtain ⟨f, fuel, rfl⟩ := List.exists_cons_of_length_pos (Nat.zero_lt_of_lt enough)
    cases lists with
    | done blank =>
      refine ⟨text, blank, ?_⟩
      rw [readItems, nextElement_end blank, List.append_nil]
      rfl
  | @cons here value items values value_reads _ ih =>
    obtain ⟨f, fuel, rfl⟩ := List.exists_cons_of_length_pos (Nat.zero_lt_of_lt enough)
    obtain ⟨c, cs, rfl, solid, inner⟩ := value_reads.begins
    cases lists with
    | @next _ lead _ _ text leads lists =>
      have less : text.length < fuel.length := by
        simp only [List.length_append, List.length_cons] at enough
        omega
      obtain ⟨last, blanks, eq⟩ := ih lists fuel (value :: done) less rfl
      refine ⟨last, blanks, ?_⟩
      have read := value_reads.reads [] (text ++ ']' :: rest) blank_nil (lists.apart rest)
      rw [List.nil_append] at read
      subst start
      simp only [List.append_assoc, List.cons_append] at read ⊢
      simp only [readItems, nextElement_lead leads solid inner, bind, Except.bind, read, eq]
      simp

/-- An array is read as the list of its items. -/
lemma Items.reads_list {items : List (List Char)} {values : List α}
    (reads : List.Forall₂ (Reads item) items values) {text : List Char}
    (lists : Items true items text) {expected : Expected} :
    Reads (readList expected item) ('[' :: (text ++ [']'])) values := by
  apply Reads.of_cons (by decide) (by decide)
  intro front rest eq _
  rw [List.append_assoc, List.singleton_append] at eq
  have enough : text.length < (text ++ ']' :: rest).length := by
    rw [List.length_append, List.length_cons]
    omega
  obtain ⟨gap, blank, read⟩ := Items.reads reads lists _ [] rest enough rfl
  have closed : readListEnd (gap ++ ']' :: rest) = .ok rest := by
    rw [readListEnd, dropBlank_append blank (by decide)]
    rfl
  simp only [readList, eq, if_true, read, bind, Except.bind, closed, Except.mapError,
    List.reverse_nil, List.nil_append]

end Lists

section Layout

lemma blank_newLine (depth : Nat) : Blank (newLine depth) := by
  intro c mem
  rcases List.mem_cons.mp mem with rfl | mem
  · rfl
  · rw [List.eq_of_mem_replicate mem]
    rfl

lemma blank_space : Blank [' '] := by
  intro c mem
  rw [List.mem_singleton.mp mem]
  rfl

/-- The members of a record, each with the layout of its value. -/
def Value.layouts (depth : Nat) (entries : List (String × Value)) : List (String × List Char) :=
  entries.map fun entry => (entry.1, entry.2.layout depth)

lemma members_layoutMembers (depth : Nat) (entries : List (String × Value)) :
    Members Named false (Value.layouts (depth + 1) entries)
      (Value.layoutMembers (depth + 1) entries ++ newLine depth) := by
  induction entries with
  | nil => exact .done (blank_newLine depth)
  | cons entry entries ih =>
    rw [Value.layoutMembers, List.append_assoc, writeText]
    have lists : Members Named false (Value.layouts (depth + 1) (entry :: entries)) _ :=
      .next (.next blank_nil (blank_newLine (depth + 1))) (named_escape entry.1) blank_nil
        blank_space ih
    simpa only [List.append_assoc, List.cons_append, List.nil_append] using lists

/-- The layout of a record lists its members. -/
lemma exists_members_layout (depth : Nat) (entries : List (String × Value)) :
    ∃ text, (Value.record entries).layout depth = '\x7b' :: (text ++ ['\x7d']) ∧
      Members Named true (Value.layouts (depth + 1) entries) text := by
  cases entries with
  | nil => exact ⟨[], rfl, .done blank_nil⟩
  | cons entry entries =>
    have lists : Members Named true (Value.layouts (depth + 1) (entry :: entries)) _ :=
      .next (.first (blank_newLine (depth + 1))) (named_escape entry.1) blank_nil blank_space
        (members_layoutMembers depth entries)
    refine ⟨_, ?_, lists⟩
    simp only [Value.layout, writeText, List.append_assoc, List.cons_append, List.nil_append]

lemma items_layoutItems (depth : Nat) (items : List Value) :
    Items false (items.map (·.layout (depth + 1)))
      (Value.layoutItems (depth + 1) items ++ newLine depth) := by
  induction items with
  | nil => exact .done (blank_newLine depth)
  | cons item items ih =>
    rw [Value.layoutItems, List.append_assoc]
    exact .next (.next blank_nil (blank_newLine (depth + 1))) ih

/-- The layout of a list lists its items. -/
lemma exists_items_layout (depth : Nat) (items : List Value) :
    ∃ text, (Value.list items).layout depth = '[' :: (text ++ [']']) ∧
      Items true (items.map (·.layout (depth + 1))) text := by
  cases items with
  | nil => exact ⟨[], rfl, .done blank_nil⟩
  | cons item items =>
    have lists : Items true ((item :: items).map (·.layout (depth + 1))) _ :=
      .next (.first (blank_newLine (depth + 1))) (items_layoutItems depth items)
    refine ⟨_, ?_, lists⟩
    simp only [Value.layout, List.append_assoc, List.cons_append]

end Layout

end LogFanout.Json
