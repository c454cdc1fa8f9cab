import LogFanout.Proofs.Json.Record
import Mathlib.Data.List.Forall2

/-!
# Reading values back

A document is read as the value that it was written for, whatever blanks stand behind it
(`Value.ofText?_pretty`). Here integers may be of any size and members of any name; nothing is
wanted in particular.
-/

namespace LogFanout.Json

section Readers

/-- Reads a row of digits; no zero stands in front of others. -/
def readDigits : Reader Nat := fun cs =>
  match cs.takeWhile Char.isDigit with
  | [] => .error (.noDigit cs)
  | '0' :: _ :: _ => .error (.within .badNumber (cs.drop 1))
  | digits => .ok (Text.digitsValue 10 digits, cs.dropWhile Char.isDigit)

/-- Reads an integer of any size. -/
def readWhole : Reader Int := fun cs =>
  match dropBlank cs with
  | '-' :: cs => mapReader (fun n : Nat => -(n : Int)) readDigits cs
  | cs => mapReader Int.ofNat readDigits cs

variable {α : Type}

/-- Reads an array. -/
def readArray (item : Reader α) : Reader (List α) := fun cs =>
  match dropBlank cs with
  | '[' :: cs => do
    let (items, cs) ← readItems item cs [] cs
    let cs ← readListEnd cs
    .ok (items, cs)
  | cs => .error (.within .noValue cs)

/-- Reads the members of an object, after `done` in reverse. -/
def readEntries (value : Reader α) :
    (fuel : List Char) → (done : List (String × α)) → Reader (List (String × α))
  | [], _, cs => .error (.before .endInRecord cs)
  | _ :: fuel, done, cs => do
    match ← nextKey done.isEmpty cs with
    | none => .ok (done.reverse, cs)
    | some cs =>
      let (key, cs) ← readText cs
      let cs ← readColon cs
      let (here, cs) ← value cs
      readEntries value fuel ((key, here) :: done) cs

/-- Reads an object. -/
def readObject (value : Reader α) : Reader (List (String × α)) := fun cs =>
  match dropBlank cs with
  | '\x7b' :: cs => do
    let (members, cs) ← readEntries value cs [] cs
    let cs ← readRecordEnd .trailingText cs
    .ok (members, cs)
  | cs => .error (.within .noValue cs)

/-- How a value is read that begins with a character; `inner` reads the values within it. -/
def readFirst (inner : Reader Value) (c : Char) : Reader Value :=
  if c = '"' then mapReader .text readString
  else if c = 't' ∨ c = 'f' then mapReader .boolean readBoolean
  else if c = '[' then mapReader .list (readArray inner)
  else if c = '\x7b' then mapReader .record (readObject inner)
  else mapReader .integer readWhole

/-- Reads a value in which no more than `depth` values stand one within the other. -/
def readValue : (depth : Nat) → Reader Value
  | 0, cs => .error (.before .endInValue cs)
  | depth + 1, cs =>
    match dropBlank cs with
    | [] => .error (.before .endInValue [])
    | c :: cs => readFirst (readValue depth) c (c :: cs)

end Readers

section Scalars

lemma readDigits_toDigits (n : Nat) {rest : List Char} (apart : Apart rest) :
    readDigits (Nat.toDigits 10 n ++ rest) = .ok (n, rest) := by
  have stops : ∀ c ∈ rest.head?, c.isDigit = false := fun c mem => (apart c mem).1
  obtain ⟨front, after⟩ := Text.span_append (Text.isDigit_toDigits (n := n)) stops
  rw [readDigits, front, after]
  split
  · rename_i none
    exact absurd none Nat.toDigits_ne_nil
  · rename_i c more zero
    cases Text.toDigits_zero_cons zero
  · rw [Text.digitsValue_toDigits]

/-- An integer begins with a sign or a digit. -/
lemma exists_digits (n : Int) :
    ∃ c cs, (Text.decimalInt n).toList = c :: cs ∧ (c = '-' ∨ c.isDigit = true) := by
  cases n with
  | ofNat n =>
    obtain ⟨c, cs, digits, digit⟩ := Text.exists_toDigits n
    refine ⟨c, cs, ?_, .inr digit⟩
    rw [Text.decimalInt, Text.toList_decimal, digits]
  | negSucc n =>
    refine ⟨'-', Nat.toDigits 10 (n + 1), ?_, .inl rfl⟩
    rw [Text.decimalInt, String.toList_append, Text.toList_decimal]
    rfl

lemma reads_whole (n : Int) : Reads readWhole (Text.decimalInt n).toList n := by
  cases n with
  | ofNat n =>
    obtain ⟨c, cs, digits, digit⟩ := Text.exists_toDigits n
    rw [Text.decimalInt, Text.toList_decimal, digits]
    apply Reads.of_cons (isBlank_of_isDigit digit)
    · rintro rfl
      cases digit
    intro front rest eq apart
    have read := readDigits_toDigits n apart
    rw [digits, List.cons_append] at read
    rw [readWhole, eq]
    split
    · rename_i signed
      obtain ⟨rfl, -⟩ := List.cons.inj signed
      cases digit
    · rw [mapReader, read]
      rfl
  | negSucc n =>
    have text : (Text.decimalInt (.negSucc n)).toList = '-' :: Nat.toDigits 10 (n + 1) := by
      rw [Text.decimalInt, String.toList_append, Text.toList_decimal]
      rfl
    rw [text]
    apply Reads.of_cons (by decide) (by decide)
    intro front rest eq apart
    simp only [readWhole, eq, mapReader, readDigits_toDigits (n + 1) apart]
    rfl

end Scalars

section Containers

variable {α : Type} {inner : Reader α} {text : List Char} {first : Bool}

lemma Items.reads_array {items : List (List Char)} {values : List α}
    (reads : List.Forall₂ (Reads inner) items values) (lists : Items true items text) :
    Reads (readArray inner) ('[' :: (text ++ [']'])) values := by
  apply Reads.of_cons (by decide) (by decide)
  intro front rest eq _
  rw [List.append_assoc, List.singleton_append] at eq
  have enough : text.length < (text ++ ']' :: rest).length := by
    rw [List.length_append, List.length_cons]
    omega
  obtain ⟨gap, blank, read⟩ := Items.reads reads lists _ [] rest enough rfl
  have closed : readListEnd (gap ++ ']' :: rest) = .ok rest := by
    rw [readListEnd, dropBlank_append blank (by decide)]
    rfl
  simp only [readArray, eq, read, bind, Except.bind, closed, List.reverse_nil, List.nil_append]

/-- Reading the members of an object gives them in their order. -/
lemma Members.reads {entries : List (String × List Char)} {members : List (String × α)}
    (reads : List.Forall₂ (fun entry member =>
      entry.1 = member.1 ∧ Reads inner entry.2 member.2) entries members)
    (lists : Members Named first entries text) (fuel : List Char) (done : List (String × α))
    (rest : List Char) (enough : text.length < fuel.length) (start : first = done.isEmpty) :
    ∃ gap, Blank gap ∧
      readEntries inner fuel done (text ++ '\x7d' :: rest) =
        .ok (done.reverse ++ members, gap ++ '\x7d' :: rest) := by
  induction reads generalizing first text fuel done with
  | nil =>
    obtain ⟨f, fuel, rfl⟩ := List.exists_cons_of_length_pos (Nat.zero_lt_of_lt enough)
    cases lists with
    | done blank =>
      refine ⟨text, blank, ?_⟩
      rw [readEntries, nextKey_end blank, List.append_nil]
      rfl
  | @cons entry member entries members here _ ih =>
    obtain ⟨f, fuel, rfl⟩ := List.exists_cons_of_length_pos (Nat.zero_lt_of_lt enough)
    obtain ⟨key, value⟩ := entry
    obtain ⟨rfl, value_reads⟩ := here
    cases lists with
    | @next _ _ _ _ gap gap' _ _ text leads named blank blank' lists =>
      have less : text.length < fuel.length := by
        simp only [List.length_append, List.length_cons] at enough
        omega
      obtain ⟨last, blanks, eq⟩ := ih lists fuel (member :: done) less rfl
      refine ⟨last, blanks, ?_⟩
      have read := value_reads.reads gap' _ blank' (lists.apart rest)
      rw [List.append_assoc] at read
      subst start
      simp only [List.append_assoc, List.cons_append, readEntries, nextKey_lead leads, bind,
        Except.bind, readText_spells named, readColon_append blank, read, eq]
      simp

lemma Members.reads_object {entries : List (String × List Char)} {members : List (String × α)}
    (reads : List.Forall₂ (fun entry member =>
      entry.1 = member.1 ∧ Reads inner entry.2 member.2) entries members)
    (lists : Members Named true entries text) :
    Reads (readObject inner) ('\x7b' :: (text ++ ['\x7d'])) members := by
  apply Reads.of_cons (by decide) (by decide)
  intro front rest eq _
  rw [List.append_assoc, List.singleton_append] at eq
  have enough : text.length < (text ++ '\x7d' :: rest).length := by
    rw [List.length_append, List.length_cons]
    omega
  obtain ⟨gap, blank, read⟩ := Members.reads reads lists _ [] rest enough rfl
  have closed : readRecordEnd .trailingText (gap ++ '\x7d' :: rest) = .ok rest := by
    rw [readRecordEnd, dropBlank_append blank (by decide)]
    rfl
  simp only [readObject, eq, read, bind, Except.bind, closed, List.reverse_nil, List.nil_append]

/-- Items are no longer than the array that they stand in. -/
lemma Items.length_le {items : List (List Char)} (lists : Items first items text) :
    ∀ item ∈ items, item.length ≤ text.length := by
  induction lists with
  | done => exact fun _ mem => nomatch mem
  | next _ _ ih =>
    intro item mem
    rw [List.length_append, List.length_append]
    rcases List.mem_cons.mp mem with rfl | mem
    · omega
    · have later := ih item mem
      omega

/-- The values of members are no longer than the object that they stand in. -/
lemma Members.length_le {κ : Type} {names : List Char → κ → Prop}
    {members : List (κ × List Char)} (lists : Members names first members text) :
    ∀ member ∈ members, member.2.length ≤ text.length := by
  induction lists with
  | done => exact fun _ mem => nomatch mem
  | next _ _ _ _ _ ih =>
    intro member mem
    simp only [List.length_append, List.length_cons]
    rcases List.mem_cons.mp mem with rfl | mem
    · dsimp only
      omega
    · have later := ih member mem
      omega

end Containers

namespace Value

/-- The first character of a text decides how it is read. -/
lemma reads_first {depth : Nat} {text : List Char} {value : Value} {reader : Reader Value}
    (reads : Reads reader text value)
    (chosen : ∀ c ∈ text.head?, readFirst (readValue depth) c = reader) :
    Reads (readValue (depth + 1)) text value where
  begins := reads.begins
  reads gap rest blank apart := by
    obtain ⟨c, cs, rfl, solid, -⟩ := reads.begins
    have read := reads.reads [] rest blank_nil apart
    rw [List.append_assoc, List.cons_append, readValue, dropBlank_append blank solid]
    dsimp only
    rw [chosen c rfl, ← List.cons_append]
    exact read

lemma reads_text (s : String) (n depth : Nat) :
    Reads (readValue (n + 1)) ((text s).layout depth) (.text s) := by
  refine reads_first ((reads_string (quotes_writeText s)).map Value.text) fun c mem => ?_
  obtain rfl : '"' = c := Option.some.inj mem
  rfl

lemma reads_integer (i : Int) (n depth : Nat) :
    Reads (readValue (n + 1)) ((integer i).layout depth) (.integer i) := by
  refine reads_first ((reads_whole i).map Value.integer) fun c mem => ?_
  obtain ⟨d, ds, eq, sign⟩ := exists_digits i
  rw [layout, eq] at mem
  obtain rfl : d = c := Option.some.inj mem
  have other : d ∉ ['"', 't', 'f', '[', '\x7b'] := by
    intro mem
    simp only [List.mem_cons, List.not_mem_nil, or_false] at mem
    rcases mem with rfl | rfl | rfl | rfl | rfl
    all_goals revert sign; decide
  simp only [List.mem_cons, List.not_mem_nil, or_false, not_or] at other
  simp only [readFirst, other, or_self, if_false]

lemma reads_boolean (b : Bool) (n depth : Nat) :
    Reads (readValue (n + 1)) ((boolean b).layout depth) (.boolean b) := by
  refine reads_first ((Json.reads_boolean b).map Value.boolean) fun c mem => ?_
  cases b with
  | true =>
    obtain rfl : 't' = c := Option.some.inj mem
    rfl
  | false =>
    obtain rfl : 'f' = c := Option.some.inj mem
    rfl

/-- An array is read if its items are, which are shorter than the array. -/
lemma reads_list {items : List Value} {n depth : Nat}
    (reads : ∀ item ∈ items,
      (item.layout (depth + 1)).length < ((list items).layout depth).length →
      Reads (readValue n) (item.layout (depth + 1)) item) :
    Reads (readValue (n + 1)) ((list items).layout depth) (.list items) := by
  obtain ⟨text, eq, lists⟩ := exists_items_layout depth items
  rw [eq] at reads ⊢
  have inner : List.Forall₂ (Reads (readValue n)) (items.map (·.layout (depth + 1))) items := by
    rw [List.forall₂_map_left_iff, List.forall₂_same]
    intro item mem
    have within := lists.length_le _ (List.mem_map_of_mem mem)
    refine reads item mem ?_
    rw [List.length_cons, List.length_append]
    omega
  refine reads_first ((lists.reads_array inner).map Value.list) fun c mem => ?_
  obtain rfl : '[' = c := Option.some.inj mem
  rfl

lemma reads_record {members : List (String × Value)} {n depth : Nat}
    (reads : ∀ member ∈ members,
      (member.2.layout (depth + 1)).length < ((record members).layout depth).length →
      Reads (readValue n) (member.2.layout (depth + 1)) member.2) :
    Reads (readValue (n + 1)) ((record members).layout depth) (.record members) := by
  obtain ⟨text, eq, lists⟩ := exists_members_layout depth members
  rw [eq] at reads ⊢
  have inner : List.Forall₂ (fun entry member =>
      entry.1 = member.1 ∧ Reads (readValue n) entry.2 member.2)
      (layouts (depth + 1) members) members := by
    rw [layouts, List.forall₂_map_left_iff, List.forall₂_same]
    intro member mem
    have within : (member.2.layout (depth + 1)).length ≤ text.length :=
      lists.length_le _ (List.mem_map_of_mem mem)
    refine ⟨rfl, reads member mem ?_⟩
    rw [List.length_cons, List.length_append]
    omega
  refine reads_first ((lists.reads_object inner).map Value.record) fun c mem => ?_
  obtain rfl : '\x7b' = c := Option.some.inj mem
  rfl

end Value

end LogFanout.Json
