import LogFanout.Proofs.Text.Digits
import LogFanout.Text.Ascii
import Mathlib.Data.List.Induction

/-!
# What is a numeral

A numeral is a row of digits, with or without a plus sign in front, that is worth no more than a
bound. Reading gives its value, or else what is wrong at the first character at which no numeral is
left to hope for (`readNumeral_eq_iff`).
-/

namespace LogFanout.Text

/-- A row of digits that is worth at most `bound`. -/
structure DigitsWithin (bound : Nat) (digits : List Char) : Prop where
  all : ∀ c ∈ digits, c.isDigit = true
  within : digitsValue 10 digits ≤ bound

/-- The part of a numeral that has to be digits: a plus sign does not belong to it if anything
follows the sign. -/
inductive Unsigned : List Char → List Char → Prop where
  | signed {cs} :
    cs ≠ [] →
    Unsigned ('+' :: cs) cs
  | plain {cs} :
    (∀ rest, cs = '+' :: rest → rest = []) →
    Unsigned cs cs

/-- What a text is as a numeral of at most `bound`. -/
inductive Numeral (bound : Nat) : List Char → Except NumeralFault Nat → Prop where
  | value {cs digits} :
    cs = digits ∨ cs = '+' :: digits →
    digits ≠ [] →
    DigitsWithin bound digits →
    Numeral bound cs (.ok (digitsValue 10 digits))
  | empty :
    Numeral bound [] (.error .empty)
  | invalidDigit {cs front c rest} :
    Unsigned cs (front ++ c :: rest) →
    DigitsWithin bound front →
    c.isDigit = false →
    Numeral bound cs (.error .invalidDigit)
  | tooLarge {cs front c rest} :
    Unsigned cs (front ++ c :: rest) →
    DigitsWithin bound front →
    c.isDigit = true →
    bound < digitsValue 10 (front ++ [c]) →
    Numeral bound cs (.error .tooLarge)

lemma DigitsWithin.nil (bound : Nat) : DigitsWithin bound [] where
  all c mem := by cases mem
  within := Nat.zero_le bound

lemma digitsValue_concat {front : List Char} {c : Char} (digit : c.isDigit = true) :
    digitsValue 10 (front ++ [c]) = 10 * digitsValue 10 front + digitValue c := by
  rw [digitsValue, List.foldl_append, List.foldl_cons, List.foldl_nil, hexValue?_of_isDigit digit]
  rfl

/-- One more digit. -/
lemma DigitsWithin.concat {bound : Nat} {front : List Char} {c : Char}
    (before : DigitsWithin bound front) (digit : c.isDigit = true)
    (within : digitsValue 10 (front ++ [c]) ≤ bound) : DigitsWithin bound (front ++ [c]) where
  all d mem := by
    rcases List.mem_append.mp mem with mem | mem
    · exact before.all d mem
    · rwa [List.mem_singleton.mp mem]
  within := within

/-- Rows of digits stay within the bound when their end is taken off. -/
lemma DigitsWithin.init {bound : Nat} {front : List Char} {c : Char}
    (longer : DigitsWithin bound (front ++ [c])) : DigitsWithin bound front where
  all d mem := longer.all d (List.mem_append_left _ mem)
  within := by
    have digit : c.isDigit = true := longer.all c (List.mem_append_right _ List.mem_cons_self)
    have within := longer.within
    rw [digitsValue_concat digit] at within
    omega

/-- Digits are taken into the value as long as they keep it within the bound. -/
lemma readDigits_append {bound : Nat} {front : List Char} (within : DigitsWithin bound front)
    (rest : List Char) :
    readDigits bound 0 (front ++ rest) = readDigits bound (digitsValue 10 front) rest := by
  induction front using List.reverseRecOn generalizing rest with
  | nil => rfl
  | append_singleton front c ih =>
    have digit : c.isDigit = true := within.all c (List.mem_append_right _ List.mem_cons_self)
    have value : digitsValue 10 (front ++ [c]) = 10 * digitsValue 10 front + digitValue c :=
      digitsValue_concat digit
    have small : ¬bound < 10 * digitsValue 10 front + digitValue c := by
      rw [← value]
      exact Nat.not_lt.mpr within.within
    rw [List.append_assoc, List.singleton_append, ih within.init, readDigits, digit, value]
    simp only [Bool.not_true, Bool.false_eq_true, if_false, small]

/-- A text is a row of digits within the bound, or there is a first character that ends it. -/
lemma digitsWithin_or_exists (bound : Nat) (cs : List Char) :
    DigitsWithin bound cs ∨ ∃ front c rest, cs = front ++ c :: rest ∧ DigitsWithin bound front ∧
      (c.isDigit = false ∨ c.isDigit = true ∧ bound < digitsValue 10 (front ++ [c])) := by
  induction cs using List.reverseRecOn with
  | nil => exact .inl (.nil bound)
  | append_singleton front c ih =>
    rcases ih with within | ⟨front', d, rest, eq, within, why⟩
    · cases digit : c.isDigit with
      | false => exact .inr ⟨front, c, [], rfl, within, .inl digit⟩
      | true =>
        rcases Nat.lt_or_ge bound (digitsValue 10 (front ++ [c])) with large | small
        · exact .inr ⟨front, c, [], rfl, within, .inr ⟨digit, large⟩⟩
        · exact .inl (within.concat digit small)
    · refine .inr ⟨front', d, rest ++ [c], ?_, within, why⟩
      rw [eq, List.append_assoc, List.cons_append]

lemma exists_unsigned {cs : List Char} (some : cs ≠ []) :
    ∃ digits, Unsigned cs digits ∧ digits ≠ [] := by
  by_cases signed : ∃ rest, cs = '+' :: rest ∧ rest ≠ []
  · obtain ⟨rest, rfl, more⟩ := signed
    exact ⟨rest, .signed more, more⟩
  · refine ⟨cs, .plain fun rest eq => ?_, some⟩
    by_contra more
    exact signed ⟨rest, eq, more⟩

/-- A sign that something follows is passed over. -/
lemma readNumeral_unsigned {cs digits : List Char} (unsigned : Unsigned cs digits)
    (some : digits ≠ []) (bound : Nat) : readNumeral bound cs = readDigits bound 0 digits := by
  cases unsigned with
  | signed more =>
    obtain ⟨c, rest, rfl⟩ := List.exists_cons_of_ne_nil more
    rfl
  | plain lone =>
    match cs with
    | [] => exact absurd rfl some
    | [c] => rfl
    | c :: d :: rest =>
      rw [readNumeral]
      · exact some
      · intro c' eq
        cases eq
      · intro more eq
        obtain rfl := lone more eq
        cases eq

/-- Digits are what has to be digits. -/
lemma unsigned_of_digits {cs digits : List Char} (text : cs = digits ∨ cs = '+' :: digits)
    (some : digits ≠ []) (all : ∀ c ∈ digits, c.isDigit = true) : Unsigned cs digits := by
  rcases text with rfl | rfl
  · refine .plain fun rest eq => ?_
    cases all '+' (eq ▸ List.mem_cons_self)
  · exact .signed some

lemma Unsigned.text {cs digits : List Char} (unsigned : Unsigned cs digits) :
    cs = digits ∨ cs = '+' :: digits := by
  cases unsigned with
  | signed => exact .inr rfl
  | plain => exact .inl rfl

lemma append_cons_ne_nil (front : List Char) (c : Char) (rest : List Char) :
    front ++ c :: rest ≠ [] :=
  List.append_ne_nil_of_right_ne_nil front (List.cons_ne_nil c rest)

lemma Numeral.readNumeral {bound : Nat} {cs : List Char} {outcome : Except NumeralFault Nat}
    (numeral : Numeral bound cs outcome) : readNumeral bound cs = outcome := by
  cases numeral with
  | @value _ digits text some within =>
    have read := readDigits_append within []
    rw [List.append_nil] at read
    rw [readNumeral_unsigned (unsigned_of_digits text some within.all) some, read]
    rfl
  | empty => rfl
  | @invalidDigit _ front c rest unsigned within digit =>
    rw [readNumeral_unsigned unsigned (append_cons_ne_nil front c rest), readDigits_append within,
      readDigits, digit]
    rfl
  | @tooLarge _ front c rest unsigned within digit large =>
    rw [digitsValue_concat digit] at large
    rw [readNumeral_unsigned unsigned (append_cons_ne_nil front c rest), readDigits_append within,
      readDigits, digit]
    simp only [Bool.not_true, Bool.false_eq_true, if_false, if_pos large]

lemma exists_numeral (bound : Nat) (cs : List Char) : ∃ outcome, Numeral bound cs outcome := by
  by_cases nothing : cs = []
  · subst nothing
    exact ⟨_, .empty⟩
  obtain ⟨digits, unsigned, some⟩ := exists_unsigned nothing
  rcases digitsWithin_or_exists bound digits with
    within | ⟨front, c, rest, rfl, within, digit | ⟨digit, large⟩⟩
  · exact ⟨_, .value unsigned.text some within⟩
  · exact ⟨_, .invalidDigit unsigned within digit⟩
  · exact ⟨_, .tooLarge unsigned within digit large⟩

/-- A text is read as what it is. -/
lemma readNumeral_eq_iff {bound : Nat} {cs : List Char} {outcome : Except NumeralFault Nat} :
    readNumeral bound cs = outcome ↔ Numeral bound cs outcome := by
  constructor
  · rintro rfl
    obtain ⟨outcome, numeral⟩ := exists_numeral bound cs
    rwa [numeral.readNumeral]
  · exact Numeral.readNumeral

lemma toLower_digit {c : Char} (digit : c.isDigit = true) : c.toLower = c := by
  rw [Char.isDigit, Bool.and_eq_true, decide_eq_true_eq, decide_eq_true_eq] at digit
  apply dif_neg
  intro upper
  exact absurd (UInt32.le_trans upper.1 digit.2) (by decide)

/-- There are no capitals in a numeral. -/
lemma toLower_numeral {bound n : Nat} {cs : List Char} (numeral : Numeral bound cs (.ok n)) :
    ∀ c ∈ cs, c.toLower = c := by
  cases numeral with
  | value written _ within =>
    intro c mem
    rcases written with rfl | rfl
    · exact toLower_digit (within.all c mem)
    · rcases List.mem_cons.mp mem with rfl | mem
      · rfl
      · exact toLower_digit (within.all c mem)

lemma asciiLower_numeral {bound n : Nat} {text : String}
    (numeral : Numeral bound text.toList (.ok n)) :
    asciiLower text = text := by
  rw [asciiLower, List.map_congr_left (toLower_numeral numeral), List.map_id',
    String.ofList_toList]

end LogFanout.Text
