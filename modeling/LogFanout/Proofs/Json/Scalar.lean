import LogFanout.Json.Record
import LogFanout.Proofs.Json.Grammar

/-!
# Reading scalars back

A reader reads a text as a value if it does so behind any blanks and in front of anything that does
not make a number longer (`Reads`). Strings are read as what they spell, booleans and integers as
what they were written for.
-/

namespace LogFanout.Json

/-- A reader reads a text as a value, whatever blanks stand in front of it. -/
structure Reads {α : Type} (reader : Reader α) (text : List Char) (value : α) : Prop where
  begins : ∃ c cs, text = c :: cs ∧ isBlank c = false ∧ c ≠ ']'
  reads : ∀ gap rest, Blank gap → Apart rest → reader (gap ++ text ++ rest) = .ok (value, rest)

/-- The first character of a value tells what it is. -/
lemma Reads.of_cons {α : Type} {reader : Reader α} {c : Char} {cs : List Char} {value : α}
    (solid : isBlank c = false) (inner : c ≠ ']')
    (here : ∀ front rest, dropBlank front = c :: (cs ++ rest) → Apart rest →
      reader front = .ok (value, rest)) : Reads reader (c :: cs) value where
  begins := ⟨c, cs, rfl, solid, inner⟩
  reads gap rest blank apart := by
    apply here _ _ _ apart
    rw [List.append_assoc, List.cons_append, dropBlank_append blank solid]

lemma reads_string {s : String} {text : List Char} (quotes : Quotes s text) :
    Reads readString text s := by
  obtain ⟨spells⟩ := quotes
  apply Reads.of_cons (by decide) (by decide)
  intro front rest eq _
  simp only [readString, eq, if_true, List.append_assoc, List.singleton_append,
    readText_spells spells]

lemma reads_choice {α : Type} {known : List String} {ofName? : String → Option α} {name : String}
    {value : α} (named : ofName? name = some value) {text : List Char} (quotes : Quotes name text) :
    Reads (readChoice known ofName?) text value := by
  obtain ⟨spells⟩ := quotes
  apply Reads.of_cons (by decide) (by decide)
  intro front rest eq _
  simp only [readChoice, eq, if_true, readName, List.append_assoc, List.singleton_append,
    readText_spells spells, bind, Except.bind, named]

lemma reads_boolean (value : Bool) :
    Reads readBoolean (if value then ['t', 'r', 'u', 'e'] else ['f', 'a', 'l', 's', 'e'])
      value := by
  cases value with
  | true =>
    apply Reads.of_cons (by decide) (by decide)
    intro front rest eq _
    simp only [readBoolean, eq]
    rfl
  | false =>
    apply Reads.of_cons (by decide) (by decide)
    intro front rest eq _
    simp only [readBoolean, eq]
    rfl

lemma Reads.map {α β : Type} {reader : Reader α} {text : List Char} {value : α}
    (reads : Reads reader text value) (f : α → β) : Reads (mapReader f reader) text (f value) where
  begins := reads.begins
  reads gap rest blank apart := by
    rw [mapReader, reads.reads gap rest blank apart]
    rfl

lemma Reads.refine {α β : Type} {reader : Reader α} {text : List Char} {value : α}
    (reads : Reads reader text value) {f : α → Except Document.Mismatch β} {value' : β}
    (passes : f value = .ok value') : Reads (refineReader f reader) text value' where
  begins := reads.begins
  reads gap rest blank apart := by
    rw [refineReader, reads.reads gap rest blank apart]
    simp only [bind, Except.bind, passes, orUnsettled]

/-- A value that does not begin like `null` may stand where none has to. -/
lemma Reads.optional {α : Type} {reader : Reader α} {text : List Char} {value : α}
    (reads : Reads reader text value) (given : text.head? ≠ some 'n') :
    Reads (readOptional reader) text (some value) where
  begins := reads.begins
  reads gap rest blank apart := by
    obtain ⟨c, cs, rfl, solid, -⟩ := reads.begins
    have here := reads.reads [] rest blank_nil apart
    rw [List.nil_append] at here
    rw [readOptional, List.append_assoc, List.cons_append, dropBlank_append blank solid]
    have other : c ≠ 'n' := fun eq => given (eq ▸ rfl)
    simp only [other, if_false]
    rw [← List.cons_append, here]
    rfl

/-- Nothing is written as `null`. -/
lemma reads_null {α : Type} (reader : Reader α) :
    Reads (readOptional reader) ['n', 'u', 'l', 'l'] none := by
  apply Reads.of_cons (by decide) (by decide)
  intro front rest eq _
  simp only [readOptional, eq]
  rfl

section Integers

/-- Digits are gathered in a word as long as they fit. -/
lemma gather_eq (word : Nat) (digits : List Char)
    (fits : digits.foldl (fun value c => 10 * value + Text.digitValue c) word < UInt64.size) :
    gather word digits =
      (digits.foldl (fun value c => 10 * value + Text.digitValue c) word, []) := by
  induction digits generalizing word with
  | nil => rfl
  | cons c cs ih =>
    have next := Nat.lt_of_le_of_lt (Text.le_foldl_digitValue cs _) fits
    rw [gather, if_pos next]
    exact ih _ fits

/-- The digits of a number that fits a word are read as the number. -/
lemma readNumber_toDigits {n : Nat} (fits : n < UInt64.size) (negative : Bool) {rest : List Char}
    (apart : Apart rest) :
    readNumber negative (Nat.toDigits 10 n ++ rest) =
      if !negative then .ok (.integer n, rest)
      else if n = 0 ∨ -(n : Int) < Int64.minValue.toInt then fraction true n 0 rest
      else .ok (.integer (-n), rest) := by
  have stops : ∀ c ∈ rest.head?, c.isDigit = false := fun c mem => (apart c mem).1
  obtain ⟨front, after⟩ := Text.span_append (Text.isDigit_toDigits (n := n)) stops
  have gathered : gather 0 (Nat.toDigits 10 n) = (n, []) := by
    have eq := gather_eq 0 (Nat.toDigits 10 n)
    rw [Text.foldl_toDigits] at eq
    exact eq fits
  simp only [readNumber, front, after]
  split
  · rename_i none
    exact absurd none Nat.toDigits_ne_nil
  · rename_i c more zero
    cases Text.toDigits_zero_cons zero
  · rw [gathered]
    split
    · exact absurd rfl (apart '.' rfl).2.1
    · exact absurd rfl (apart 'e' rfl).2.2.1
    · exact absurd rfl (apart 'E' rfl).2.2.2
    · rfl

/-- Integers are read within bounds that fit a word. -/
lemma reads_integer {least most value : Int} {expected : Document.Expected}
    (lower : least ≤ value) (upper : value ≤ most) (least_fits : Int64.minValue.toInt ≤ least)
    (most_fits : most < UInt64.size) :
    Reads (readInteger least most expected) (Text.decimalInt value).toList value := by
  have within : ∀ rest, orMismatch rest (Number.within least most expected (.integer value)) =
      .ok value := by
    intro rest
    rw [Number.within, if_pos ⟨lower, upper⟩]
    rfl
  cases value with
  | ofNat n =>
    have fits : n < UInt64.size := by
      have upper : (n : Int) ≤ most := upper
      omega
    obtain ⟨c, cs, digits, digit⟩ := Text.exists_toDigits n
    have unsigned : c ≠ '-' := by
      rintro rfl
      cases digit
    have text : (Text.decimalInt (.ofNat n)).toList = c :: cs := by
      rw [Text.decimalInt, Text.toList_decimal, digits]
    rw [text]
    apply Reads.of_cons (isBlank_of_isDigit digit)
    · rintro rfl
      cases digit
    intro front rest eq apart
    have read := readNumber_toDigits fits false apart
    rw [digits] at read
    simp only [readInteger, eq, unsigned, digit, or_true, if_true, if_false, decide_false]
    rw [← List.cons_append, read]
    simp only [Bool.not_false, if_true, bind, Except.bind]
    exact congrArg (fun value => Except.bind value fun value => Except.ok (value, rest))
      (within rest)
  | negSucc n =>
    have least_fits : -9223372036854775808 ≤ least := least_fits
    have fits : n + 1 < UInt64.size := by
      have size : UInt64.size = 18446744073709551616 := rfl
      omega
    have signed : ¬(n + 1 = 0 ∨ -((n + 1 : Nat) : Int) < Int64.minValue.toInt) := by
      have minimum : Int64.minValue.toInt = -9223372036854775808 := rfl
      omega
    have text : (Text.decimalInt (.negSucc n)).toList = '-' :: Nat.toDigits 10 (n + 1) := by
      rw [Text.decimalInt, String.toList_append, Text.toList_decimal]
      rfl
    rw [text]
    apply Reads.of_cons (by decide) (by decide)
    intro front rest eq apart
    simp only [readInteger, eq, true_or, if_true, decide_true,
      readNumber_toDigits fits true apart, Bool.not_true, Bool.false_eq_true, if_false, signed,
      bind, Except.bind]
    exact congrArg (fun value => Except.bind value fun value => Except.ok (value, rest))
      (within rest)

end Integers

end LogFanout.Json
