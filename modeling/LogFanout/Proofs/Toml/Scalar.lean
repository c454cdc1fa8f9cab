import LogFanout.Proofs.Text.Digits
import LogFanout.Toml.Scalar

/-!
# Reading numbers and booleans back

A value without quotes goes up to the end of its line, as no character of it ends it before. Integers
and booleans are read as what they were written for.
-/

namespace LogFanout.Toml

/-- A character of a value without quotes, which neither ends it nor lets the next one do so. -/
structure Solid (c : Char) : Prop where
  inner : isBreak c = false
  solid : isBlank c = false
  bare : isQuote c = false
  point : c ≠ '.'

lemma ne_of_isBreak {c d : Char} (inner : isBreak c = false) (ends : isBreak d = true) : c ≠ d := by
  rintro rfl
  rw [ends] at inner
  cases inner

/-- The characters that no value without quotes has inside. -/
def marks : List Char :=
  ['\n', '\r', '#', ',', '=', '[', ']', '\x7b', '\x7d', ' ', '\t', '"', '\'', '.']

lemma solid_of_marks {p : Char → Bool} (unmarked : marks.all (!p ·) = true) {c : Char}
    (holds : p c = true) : Solid c := by
  have apart : ∀ d ∈ marks, c ≠ d := by
    rintro d mem rfl
    have fails := List.all_eq_true.mp unmarked c mem
    rw [holds] at fails
    cases fails
  simp only [marks, List.forall_mem_cons] at apart
  obtain ⟨newline, carriage, comment, comma, equals, list, listEnd, table, tableEnd, space, tab,
    quote, quote', point, -⟩ := apart
  refine ⟨?_, ?_, ?_, point⟩
  · simp [isBreak, newline, carriage, comment, comma, equals, list, listEnd, table, tableEnd]
  · simp [isBlank, space, tab]
  · simp [isQuote, quote, quote']

lemma frontBare_append {last : Char} (solid : Solid last) {word : List Char}
    (all : ∀ c ∈ word, Solid c) (rest : List Char) :
    frontBare last (word ++ '\n' :: rest) = word := by
  induction word generalizing last with
  | nil => rfl
  | cons c word ih =>
    obtain ⟨here, others⟩ := List.forall_mem_cons.mp all
    have inner : endsBare last c = false := by
      simp [endsBare, here.inner, solid.solid, solid.point]
    rw [List.cons_append, frontBare, inner]
    simp only [Bool.false_eq_true, if_false, ih here others]

lemma takeBare_append {c : Char} {cs : List Char} (all : ∀ d ∈ c :: cs, Solid d)
    (rest : List Char) : takeBare c (cs ++ '\n' :: rest) = (c :: cs, '\n' :: rest) := by
  obtain ⟨here, others⟩ := List.forall_mem_cons.mp all
  have last : ((c :: cs).reverse.dropWhile isBlank).reverse = c :: cs := by
    have kept : (c :: cs).reverse.dropWhile isBlank = (c :: cs).reverse := by
      cases eq : (c :: cs).reverse with
      | nil => rfl
      | cons d ds =>
        have mem : d ∈ (c :: cs).reverse := eq ▸ List.mem_cons_self
        rw [List.dropWhile_cons, (all d (List.mem_reverse.mp mem)).solid]
        rfl
    rw [kept, List.reverse_reverse]
  simp only [takeBare, here.inner, Bool.false_eq_true, if_false, frontBare_append here others, last]
  simp

/-- A value without quotes is read up to the end of its line. -/
lemma readScalar_bare {c : Char} {cs : List Char} {value : Scalar} (all : ∀ d ∈ c :: cs, Solid d)
    (reads : readBare (c :: cs) = .ok value) (rest : List Char) :
    readScalar c (cs ++ '\n' :: rest) = (.ok value, '\n' :: rest) := by
  rw [readScalar, (all c List.mem_cons_self).bare]
  simp only [Bool.false_eq_true, if_false, takeBare_append all, reads, Except.mapError]

section Integers

lemma solid_of_isDigit {c : Char} (digit : c.isDigit = true) : Solid c :=
  solid_of_marks rfl digit

/-- The digits of a number are read as the number behind its sign. -/
lemma readNumber_toDigits (sign : Option Bool) (text : List Char) (n : Nat) :
    readNumber sign text (Nat.toDigits 10 n) =
      .ok (.integer (some (signed (sign.getD false) n))) := by
  have all := Text.isDigit_toDigits (n := n)
  have none := Text.dropWhile_run all
  have zero : ¬((Nat.toDigits 10 n).head? = some '0' ∧ 1 < (Nat.toDigits 10 n).length) := by
    rintro ⟨head, long⟩
    obtain ⟨cs, eq⟩ := List.head?_eq_some_iff.mp head
    rw [eq, Text.toDigits_zero_cons eq] at long
    cases long with
    | step no => cases no
  have decimal : ∀ negative, readDecimal negative text (Nat.toDigits 10 n) =
      .ok (.integer (some (signed negative n))) := by
    intro negative
    simp only [readDecimal, none, readWhole, if_neg zero, Text.digitsValue_toDigits, Except.map]
  rw [readNumber.eq_def]
  split
  · rename_i c digits eq
    cases Text.toDigits_zero_cons eq
  · exact decimal _

lemma readBare_decimalInt (n : Int) :
    readBare (Text.decimalInt n).toList = .ok (.integer (some n)) := by
  have first : ∀ m, ∃ c cs, Nat.toDigits 10 m = c :: cs ∧ beginsNumber c = true ∧
      ¬(c = '+' ∨ c = '-') ∧ c ≠ '.' := by
    intro m
    obtain ⟨c, cs, eq, digit⟩ := Text.exists_toDigits m
    refine ⟨c, cs, eq, ?_, ?_, ?_⟩
    · rw [beginsNumber, digit]
      rfl
    · rintro (rfl | rfl)
      all_goals cases digit
    · rintro rfl
      cases digit
  cases n with
  | ofNat n =>
    obtain ⟨c, cs, eq, begins, unsigned, -⟩ := first n
    have read := readNumber_toDigits none (Nat.toDigits 10 n) n
    rw [Text.decimalInt, Text.toList_decimal]
    rw [eq] at read ⊢
    simp only [readBare, if_neg unsigned, begins, if_true, read]
    rfl
  | negSucc n =>
    obtain ⟨c, cs, eq, begins, unsigned, point⟩ := first (n + 1)
    have text : (Text.decimalInt (.negSucc n)).toList = '-' :: Nat.toDigits 10 (n + 1) := by
      rw [Text.decimalInt, String.toList_append, Text.toList_decimal]
      rfl
    have read := readNumber_toDigits (some true) ('-' :: Nat.toDigits 10 (n + 1)) (n + 1)
    have space : ' ' ∉ Nat.toDigits 10 (n + 1) := by
      intro mem
      cases Text.isDigit_toDigits ' ' mem
    rw [text]
    rw [eq] at read space ⊢
    simp only [readBare, or_true, if_true, decide_true, readSigned, if_neg space, if_neg unsigned,
      if_neg point, begins, read]
    rfl

lemma decimalInt_ne_nil (n : Int) : (Text.decimalInt n).toList ≠ [] := by
  intro eq
  have read := readBare_decimalInt n
  rw [eq] at read
  cases read

lemma solid_decimalInt (n : Int) : ∀ c ∈ (Text.decimalInt n).toList, Solid c := by
  intro c mem
  cases n with
  | ofNat n =>
    rw [Text.decimalInt, Text.toList_decimal] at mem
    exact solid_of_isDigit (Text.isDigit_toDigits c mem)
  | negSucc n =>
    rw [Text.decimalInt, String.toList_append, Text.toList_decimal] at mem
    rcases List.mem_append.mp mem with mem | mem
    · rw [List.mem_singleton.mp mem]
      exact ⟨rfl, rfl, rfl, by decide⟩
    · exact solid_of_isDigit (Text.isDigit_toDigits c mem)

end Integers

end LogFanout.Toml
