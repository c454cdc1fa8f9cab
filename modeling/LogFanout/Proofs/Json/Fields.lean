import LogFanout.Proofs.Json.Record
import Mathlib.Data.List.Forall2
import Mathlib.Data.List.Nodup

/-!
# What texts say

A text writes an integer, a flag, an optional value or a list (`Decimal`, `Word`, `Maybe`, `Row`),
or describes the fields of an object: each of them stands among the members once, or is left out
where its value is the standard one, and members of other names may stand anywhere among them, with
any well-formed values (`Describes`). A record that has a place for each field reads such an object
in whatever order its members come (`Describes.reads`).
-/

namespace LogFanout.Json

open Document (Expected Member Record)

section Values

/-- An integer is written in decimal digits. -/
def Decimal (n : Int) (text : List Char) : Prop :=
  text = (Text.decimalInt n).toList

/-- A flag is written as a word. -/
def Word (b : Bool) (text : List Char) : Prop :=
  text = if b then ['t', 'r', 'u', 'e'] else ['f', 'a', 'l', 's', 'e']

variable {α : Type} {writes : α → List Char → Prop} {text : List Char}

/-- No value is written as `null`. -/
inductive Maybe (writes : α → List Char → Prop) : Option α → List Char → Prop where
  | null :
    Maybe writes none ['n', 'u', 'l', 'l']
  | value {a text} :
    writes a text →
    Maybe writes (some a) text

/-- A list is written as an array of its values. -/
inductive Row (writes : α → List Char → Prop) (values : List α) : List Char → Prop where
  | mk {items text} :
    Items true items text →
    List.Forall₂ writes values items →
    Row writes values ('[' :: (text ++ [']']))

lemma Decimal.reads {least most n : Int} {expected : Expected} (decimal : Decimal n text)
    (lower : least ≤ n) (upper : n ≤ most) (least_fits : Int64.minValue.toInt ≤ least)
    (most_fits : most < UInt64.size) : Reads (readInteger least most expected) text n := by
  rw [decimal]
  exact reads_integer lower upper least_fits most_fits

lemma Decimal.not_null {n : Int} (decimal : Decimal n text) : text.head? ≠ some 'n' := by
  rw [decimal]
  intro eq
  cases n with
  | ofNat n =>
    rw [Text.decimalInt, Text.toList_decimal] at eq
    cases Text.isDigit_toDigits 'n' (List.mem_of_mem_head? eq)
  | negSucc n =>
    rw [Text.decimalInt, String.toList_append] at eq
    cases eq

lemma Quotes.not_null {s : String} (quotes : Quotes s text) : text.head? ≠ some 'n' := by
  cases quotes with
  | mk => exact fun eq => absurd (Option.some.inj eq) (by decide)

lemma Word.reads {b : Bool} (word : Word b text) : Reads readBoolean text b := by
  rw [word]
  exact reads_boolean b

/-- A value that may be missing must not begin like `null`. -/
lemma Maybe.reads {reader : Reader α} {a? : Option α} (maybe : Maybe writes a? text)
    (reads : ∀ a ∈ a?, ∀ text, writes a text → Reads reader text a)
    (given : ∀ a ∈ a?, ∀ text, writes a text → text.head? ≠ some 'n') :
    Reads (readOptional reader) text a? := by
  cases maybe with
  | null => exact reads_null reader
  | value writes => exact (reads _ rfl _ writes).optional (given _ rfl _ writes)

lemma Row.reads {item : Reader α} {expected : Expected} {values : List α}
    (row : Row writes values text)
    (reads : ∀ a ∈ values, ∀ text, writes a text → Reads item text a) :
    Reads (readList expected item) text values := by
  obtain ⟨lists, written⟩ := row
  apply Items.reads_list _ lists
  clear lists
  induction written with
  | nil => exact .nil
  | cons here _ ih =>
    obtain ⟨first, later⟩ := List.forall_mem_cons.mp reads
    exact .cons (first _ here) (ih later)

/-- The layout of a list writes it. -/
lemma row_layout {values : List α} {value : α → Value}
    (written : ∀ a ∈ values, ∀ depth, writes a ((value a).layout depth)) (depth : Nat) :
    Row writes values ((Value.list (values.map value)).layout depth) := by
  obtain ⟨text, eq, lists⟩ := exists_items_layout depth (values.map value)
  rw [eq]
  apply Row.mk lists
  rw [List.map_map, List.forall₂_map_right_iff, List.forall₂_same]
  exact fun a mem => written a mem (depth + 1)

end Values

section Objects

/-- A field of an object. -/
structure Field where
  key : String
  /-- The texts that write its value. -/
  Writes : List Char → Prop
  /-- Its value is the one that it has when it is left out. -/
  Standard : Prop

/-- The members of an object, each with the text of its value, give fields. -/
structure Given (fields : List Field) (entries : List (String × List Char)) : Prop where
  writes : ∀ field ∈ fields, ∀ text, (field.key, text) ∈ entries → field.Writes text
  once : ∀ field ∈ fields, (entries.map Prod.fst).count field.key ≤ 1
  omits : ∀ field ∈ fields, field.key ∉ entries.map Prod.fst → field.Standard
  others : ∀ entry ∈ entries, entry.1 ∉ fields.map Field.key → WellFormed entry.2

/-- A text of an object whose members give fields. -/
inductive Describes (fields : List Field) : List Char → Prop where
  | mk {entries text} :
    Members Named true entries text →
    Given fields entries →
    Describes fields ('\x7b' :: (text ++ ['\x7d']))

variable {δ α : Type} {members : List (Member Reader δ)} {fields : List Field}
  {entries : List (String × List Char)}

/-- There is a place for a field in drafts, which are told by the keys that have been given. -/
inductive Admits (members : List (Member Reader δ)) (draft : List String → δ) (field : Field) :
    Prop where
  | mk {member} :
    members.find? (fun member => member.key = field.key) = some member →
    (∀ given, member.isSet (draft given) = decide (field.key ∈ given)) →
    (∀ text, field.Writes text → ∃ set, Reads member.read text set ∧
      ∀ given, set (draft given) = draft (field.key :: given)) →
    Admits members draft field

/-- A record reads fields as a value by way of such drafts. -/
structure ReadsFields (record : Record Reader δ α) (fields : List Field)
    (draft : List String → δ) (value : α) : Prop where
  keys : record.members.map Member.key = fields.map Field.key
  start : draft [] = record.start
  admits : ∀ field ∈ fields, Admits record.members draft field
  finish : ∀ given, (∀ field ∈ fields, field.key ∉ given → field.Standard) →
    record.finish (draft given) = .ok value

/-- A member whose value is put into the draft by a function. -/
lemma Admits.of_map {draft : List String → δ} {field : Field} {required : Bool} {isSet : δ → Bool}
    {reader : Reader α} {f : α → δ → δ} {value : α}
    (known : members.find? (fun member => member.key = field.key) =
      some ⟨field.key, required, isSet, source.map f reader⟩)
    (isSet_draft : ∀ given, isSet (draft given) = decide (field.key ∈ given))
    (reads : ∀ text, field.Writes text → Reads reader text value)
    (sets : ∀ given, f value (draft given) = draft (field.key :: given)) :
    Admits members draft field :=
  .mk known isSet_draft fun text writes => ⟨f value, (reads text writes).map f, sets⟩

/-- A key that no member has is not found among them. -/
lemma find?_eq_none_of_keys {key : String} (other : key ∉ members.map Member.key) :
    members.find? (fun member => member.key = key) = none := by
  rw [List.find?_eq_none]
  intro member mem same
  exact other (List.mem_map.mpr ⟨member, mem, of_decide_eq_true same⟩)

/-- Members that come after those of some keys. -/
structure Pending (fields : List Field) (given : List String)
    (entries : List (String × List Char)) : Prop where
  writes : ∀ field ∈ fields, ∀ text, (field.key, text) ∈ entries → field.Writes text
  once : ∀ field ∈ fields, (given ++ entries.map Prod.fst).count field.key ≤ 1
  others : ∀ entry ∈ entries, entry.1 ∉ fields.map Field.key → WellFormed entry.2

namespace Pending

variable {given : List String} {key : String} {text : List Char}

lemma not_mem {field : Field} (pending : Pending fields given ((field.key, text) :: entries))
    (mem : field ∈ fields) : field.key ∉ given := by
  intro twice
  have some := List.count_pos_iff.mpr twice
  have most := pending.once field mem
  simp only [List.map_cons, List.count_append, List.count_cons_self] at most
  omega

lemma known (pending : Pending fields given ((key, text) :: entries)) :
    Pending fields (key :: given) entries where
  writes field mem text entry := pending.writes field mem text (List.mem_cons_of_mem _ entry)
  once field mem := by
    have most := pending.once field mem
    simp only [List.map_cons, List.cons_append, List.count_append, List.count_cons] at most ⊢
    omega
  others entry mem := pending.others entry (List.mem_cons_of_mem _ mem)

lemma unknown (pending : Pending fields given ((key, text) :: entries)) :
    Pending fields given entries where
  writes field mem text entry := pending.writes field mem text (List.mem_cons_of_mem _ entry)
  once field mem := by
    have most := pending.once field mem
    simp only [List.map_cons, List.count_append, List.count_cons] at most ⊢
    omega
  others entry mem := pending.others entry (List.mem_cons_of_mem _ mem)

/-- Members are added to a draft in whatever order they come. -/
lemma exists_adds {draft : List String → δ} (pending : Pending fields given entries)
    (keys : members.map Member.key = fields.map Field.key)
    (admits : ∀ field ∈ fields, Admits members draft field) :
    ∃ given', Adds members (draft given) entries (draft given') ∧
      ∀ field ∈ fields, field.key ∈ given ++ entries.map Prod.fst → field.key ∈ given' := by
  induction entries generalizing given with
  | nil =>
    refine ⟨given, .done, fun field _ mem => ?_⟩
    rwa [List.map_nil, List.append_nil] at mem
  | cons entry entries ih =>
    obtain ⟨key, text⟩ := entry
    by_cases known : key ∈ fields.map Field.key
    · obtain ⟨field, mem, rfl⟩ := List.mem_map.mp known
      obtain ⟨found, isSet, sets⟩ := admits field mem
      obtain ⟨set, reads, set_draft⟩ := sets text (pending.writes field mem text List.mem_cons_self)
      have new := decide_eq_false (pending.not_mem mem)
      obtain ⟨given', adds, all⟩ := ih pending.known
      rw [← set_draft] at adds
      refine ⟨given', .known found ((isSet given).trans new) reads adds, fun other mem here => ?_⟩
      apply all other mem
      simpa only [List.map_cons, List.cons_append, List.mem_cons, List.mem_append,
        or_left_comm] using here
    · have here := pending.others _ List.mem_cons_self known
      obtain ⟨given', adds, all⟩ := ih pending.unknown
      refine ⟨given', .unknown (find?_eq_none_of_keys (keys ▸ known)) here adds,
        fun other mem here => ?_⟩
      have differs : other.key ≠ key := fun same => known (same ▸ List.mem_map_of_mem mem)
      apply all other mem
      simpa only [List.map_cons, List.mem_cons, List.mem_append, differs, false_or] using here

end Pending

/-- A record reads an object by its fields. -/
lemma Describes.reads {record : Record Reader δ α} {draft : List String → δ} {value : α}
    {text : List Char} (describes : Describes fields text)
    (reading : ReadsFields record fields draft value) : Reads (readRecord record) text value := by
  obtain ⟨lists, gives⟩ := describes
  have pending : Pending fields [] _ := ⟨gives.writes, gives.once, gives.others⟩
  obtain ⟨given, adds, all⟩ := pending.exists_adds reading.keys reading.admits
  rw [reading.start] at adds
  apply adds.reads_record lists
  apply reading.finish
  intro field mem missing
  exact gives.omits field mem fun here => missing (all field mem here)

/-- Members that give fields in the order of the fields. -/
inductive InOrder : List Field → List (String × List Char) → Prop where
  | done :
    InOrder [] []
  | given {field text fields entries} :
    field.Writes text →
    InOrder fields entries →
    InOrder (field :: fields) ((field.key, text) :: entries)
  | left {field fields entries} :
    field.Standard →
    InOrder fields entries →
    InOrder (field :: fields) entries

namespace InOrder

lemma keys (order : InOrder fields entries) :
    (entries.map Prod.fst).Sublist (fields.map Field.key) := by
  induction order with
  | done => exact .slnil
  | given _ _ ih => exact ih.cons_cons _
  | left _ _ ih => exact ih.cons _

/-- Members that come in order give fields of different keys. -/
lemma gives (order : InOrder fields entries) (different : (fields.map Field.key).Nodup) :
    Given fields entries where
  writes := by
    induction order with
    | done => exact fun _ mem => nomatch mem
    | given writes order ih =>
      obtain ⟨fresh, different⟩ := List.nodup_cons.mp different
      intro field mem text entry
      rcases List.mem_cons.mp mem with rfl | mem
      · rcases List.mem_cons.mp entry with eq | entry
        · cases eq
          exact writes
        · exact absurd (order.keys.subset (List.mem_map_of_mem entry)) fresh
      · rcases List.mem_cons.mp entry with eq | entry
        · obtain ⟨same, -⟩ := Prod.mk.inj eq
          exact absurd (same ▸ List.mem_map_of_mem mem) fresh
        · exact ih different field mem text entry
    | left _ order ih =>
      obtain ⟨fresh, different⟩ := List.nodup_cons.mp different
      intro field mem text entry
      rcases List.mem_cons.mp mem with rfl | mem
      · exact absurd (order.keys.subset (List.mem_map_of_mem entry)) fresh
      · exact ih different field mem text entry
  once _ _ := List.nodup_iff_count_le_one.mp (order.keys.nodup different) _
  omits := by
    clear different
    induction order with
    | done => exact fun _ mem => nomatch mem
    | given _ _ ih =>
      intro field mem absent
      rw [List.map_cons, List.mem_cons, not_or] at absent
      rcases List.mem_cons.mp mem with rfl | mem
      · exact absurd rfl absent.1
      · exact ih field mem absent.2
    | left standard _ ih =>
      intro field mem absent
      rcases List.mem_cons.mp mem with rfl | mem
      · exact standard
      · exact ih field mem absent
  others entry mem other := absurd (order.keys.subset (List.mem_map_of_mem mem)) other

end InOrder

/-- The layout of a record describes fields if its members give them in order. -/
lemma describes_layout {entries : List (String × Value)}
    (order : ∀ depth, InOrder fields (Value.layouts depth entries))
    (different : (fields.map Field.key).Nodup) (depth : Nat) :
    Describes fields ((Value.record entries).layout depth) := by
  obtain ⟨text, eq, lists⟩ := exists_members_layout depth entries
  rw [eq]
  exact .mk lists ((order (depth + 1)).gives different)

end Objects

end LogFanout.Json
