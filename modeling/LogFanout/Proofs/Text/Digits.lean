import LogFanout.Text.Numeral
import Mathlib.Data.List.Basic

/-!
# Decimal digits

The digits of a number are digits, none of them is a zero in front of others, and their value is the
number.
-/

namespace LogFanout.Text

lemma toList_decimal (n : Nat) : (decimal n).toList = Nat.toDigits 10 n :=
  String.toList_ofList

lemma isDigit_toDigits {n : Nat} : ∀ c ∈ Nat.toDigits 10 n, c.isDigit = true :=
  fun _ mem => Nat.isDigit_of_mem_toDigits (by decide) (by decide) mem

/-- A number is at least one digit long. -/
lemma exists_toDigits (n : Nat) : ∃ c cs, Nat.toDigits 10 n = c :: cs ∧ c.isDigit = true := by
  obtain ⟨c, cs, eq⟩ := List.exists_cons_of_ne_nil (Nat.toDigits_ne_nil (n := n) (b := 10))
  exact ⟨c, cs, eq, isDigit_toDigits c (eq ▸ List.mem_cons_self)⟩

/-- Only zero begins with a zero. -/
lemma eq_zero_of_toDigits {n : Nat} {cs : List Char} (eq : Nat.toDigits 10 n = '0' :: cs) :
    n = 0 := by
  induction n using Nat.strongRecOn generalizing cs with
  | ind n ih =>
    rw [Nat.toDigits_eq_if (by decide)] at eq
    split at eq
    · exact Nat.digitChar_eq_zero.mp (List.cons.inj eq).1
    · rename_i large
      obtain ⟨c, front, head⟩ :=
        List.exists_cons_of_ne_nil (Nat.toDigits_ne_nil (n := n / 10) (b := 10))
      rw [head, List.cons_append] at eq
      obtain ⟨rfl, -⟩ := List.cons.inj eq
      have zero := ih (n / 10) (by omega) head
      omega

lemma toDigits_zero_cons {n : Nat} {cs : List Char} (eq : Nat.toDigits 10 n = '0' :: cs) :
    cs = [] := by
  obtain rfl := eq_zero_of_toDigits eq
  rw [Nat.toDigits_zero] at eq
  exact (List.cons.inj eq).2.symm

lemma foldl_toDigits (n : Nat) :
    (Nat.toDigits 10 n).foldl (fun value c => 10 * value + digitValue c) 0 = n := by
  have value := Nat.ofDigitChars_ten_toDigits (n := n)
  rw [Nat.ofDigitChars_eq_foldl] at value
  exact value

lemma le_foldl_digitValue (digits : List Char) (value : Nat) :
    value ≤ digits.foldl (fun value c => 10 * value + digitValue c) value := by
  induction digits generalizing value with
  | nil => exact Nat.le_refl _
  | cons c cs ih =>
    have step : value ≤ 10 * value + digitValue c := by omega
    exact Nat.le_trans step (ih _)

lemma hexValue?_of_isDigit {c : Char} (digit : c.isDigit = true) :
    hexValue? c = some (digitValue c) := by
  rw [hexValue?, if_pos digit]

lemma digitsValue_of_isDigit {digits : List Char} (all : ∀ c ∈ digits, c.isDigit = true) :
    digitsValue 10 digits = digits.foldl (fun value c => 10 * value + digitValue c) 0 := by
  rw [digitsValue]
  apply List.foldl_ext
  intro value c mem
  rw [hexValue?_of_isDigit (all c mem)]
  rfl

lemma digitsValue_toDigits (n : Nat) : digitsValue 10 (Nat.toDigits 10 n) = n := by
  rw [digitsValue_of_isDigit isDigit_toDigits, foldl_toDigits]

/-- A text is a number in decimal digits, without a zero in front of others. -/
structure DecimalOf (n : Nat) (text : String) : Prop where
  some : text ≠ ""
  digits : ∀ c ∈ text.toList, c.isDigit = true
  lead : ∀ more, text.toList = '0' :: more → more = []
  value : digitsValue 10 text.toList = n

lemma decimalOf_decimal (n : Nat) : DecimalOf n (decimal n) where
  some := by
    rw [ne_eq, ← String.toList_eq_nil_iff, toList_decimal]
    exact Nat.toDigits_ne_nil
  digits := by
    rw [toList_decimal]
    exact isDigit_toDigits
  lead _ eq := by
    rw [toList_decimal] at eq
    exact toDigits_zero_cons eq
  value := by rw [toList_decimal, digitsValue_toDigits]

/-- A run of characters of one kind ends where another kind begins. -/
lemma span_append {kind : Char → Bool} {run rest : List Char} (all : ∀ c ∈ run, kind c = true)
    (ends : ∀ c ∈ rest.head?, kind c = false) :
    (run ++ rest).takeWhile kind = run ∧ (run ++ rest).dropWhile kind = rest := by
  rw [List.takeWhile_append_of_pos all, List.dropWhile_append_of_pos all]
  cases rest with
  | nil => simp
  | cons c rest =>
    have stops := ends c rfl
    simp [stops]

lemma dropWhile_run {kind : Char → Bool} {run : List Char} (all : ∀ c ∈ run, kind c = true) :
    run.dropWhile kind = [] := by
  have rest : (run ++ []).dropWhile kind = [] := (span_append all fun c mem => by cases mem).2
  rwa [List.append_nil] at rest

end LogFanout.Text
