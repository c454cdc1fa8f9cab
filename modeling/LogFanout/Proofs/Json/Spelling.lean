import LogFanout.Json.Text
import LogFanout.Json.Value
import LogFanout.Proofs.Text.Digits
import Mathlib.Tactic.IntervalCases

/-!
# What a string spells

A character of a string stands for itself or is escaped: by a letter, by its number, or beyond the
first plane by those of two surrogates (`Spelled`). Between its quotes a string spells its
characters in any of these ways (`Spells`), and is read as what it spells (`readText_spells`).
-/

namespace LogFanout.Json

/-- The characters that a letter behind a backslash stands for. -/
def letters : List (Char × Char) :=
  [('"', '"'), ('\\', '\\'), ('/', '/'), ('b', '\x08'), ('f', '\x0c'), ('n', '\n'), ('r', '\r'),
    ('t', '\t')]

/-- Four hexadecimal digits, capital or small. -/
structure Hex (digits : List Char) (n : Nat) : Prop where
  four : digits.length = 4
  all : ∀ d ∈ digits, (Text.hexValue? d).isSome = true
  value : Text.digitsValue 16 digits = n

/-- The ways to write a character inside a string. -/
inductive Spelled : List Char → Char → Prop where
  | plain {c} :
    c ≠ '"' →
    c ≠ '\\' →
    ¬c.toNat < 0x20 →
    Spelled [c] c
  | letter {d c} :
    (d, c) ∈ letters →
    Spelled ['\\', d] c
  | code {digits c} :
    Hex digits c.toNat →
    Spelled ('\\' :: 'u' :: digits) c
  | pair {high low leading trailing c} :
    Hex high leading →
    Hex low trailing →
    0xD800 ≤ leading ∧ leading ≤ 0xDBFF →
    0xDC00 ≤ trailing ∧ trailing ≤ 0xDFFF →
    c.toNat = 0x10000 + 0x400 * (leading - 0xD800) + (trailing - 0xDC00) →
    Spelled ('\\' :: 'u' :: (high ++ '\\' :: 'u' :: low)) c

/-- A text between quotes and the characters that it spells. -/
inductive Spells : List Char → List Char → Prop where
  | nil :
    Spells [] []
  | cons {piece c text cs} :
    Spelled piece c →
    Spells text cs →
    Spells (piece ++ text) (c :: cs)

/-- A text that writes a string, with its quotes. -/
inductive Quotes (s : String) : List Char → Prop where
  | mk {text} :
    Spells text s.toList →
    Quotes s ('"' :: (text ++ ['"']))

section Reading

lemma Hex.readHex {digits : List Char} {n : Nat} (hex : Hex digits n) (rest : List Char) :
    readHex (digits ++ rest) = .ok (n, rest) := by
  obtain ⟨four, all, value⟩ := hex
  match digits, four with
  | [a, b, c, d], _ =>
    have valid : ([a, b, c, d].all fun c => (Text.hexValue? c).isSome) = true :=
      List.all_eq_true.mpr all
    simp only [List.cons_append, List.nil_append, Json.readHex, valid, if_true, value]

lemma unescape?_letters {d c : Char} (mem : (d, c) ∈ letters) : unescape? d = some c := by
  simp only [letters, List.mem_cons, Prod.mk.injEq, List.not_mem_nil, or_false] at mem
  rcases mem with ⟨rfl, rfl⟩ | ⟨rfl, rfl⟩ | ⟨rfl, rfl⟩ | ⟨rfl, rfl⟩ | ⟨rfl, rfl⟩ | ⟨rfl, rfl⟩ |
    ⟨rfl, rfl⟩ | ⟨rfl, rfl⟩
  all_goals rfl

/-- No letter is taken for the beginning of a number. -/
lemma letters_ne_code {d c : Char} (mem : (d, c) ∈ letters) : d ≠ 'u' := by
  rintro rfl
  cases unescape?_letters mem

/-- No character has the number of a surrogate. -/
lemma toNat_not_surrogate (c : Char) :
    isLeading c.toNat = false ∧ isTrailing c.toNat = false := by
  have valid : c.toNat < 0xD800 ∨ 0xDFFF < c.toNat ∧ c.toNat < 0x110000 := c.valid
  simp only [isLeading, isTrailing, Bool.and_eq_false_iff, decide_eq_false_iff_not]
  omega

/-- A character stands for itself, or is read from behind a backslash. -/
lemma Spelled.cases {piece : List Char} {c : Char} (spelled : Spelled piece c) :
    (piece = [c] ∧ c ≠ '"' ∧ c ≠ '\\' ∧ ¬c.toNat < 0x20) ∨
      ∃ tail, piece = '\\' :: tail ∧ ∀ rest, readEscape (tail ++ rest) = .ok (c, rest) := by
  cases spelled with
  | plain quote backslash solid => exact .inl ⟨rfl, quote, backslash, solid⟩
  | @letter d c mem =>
    refine .inr ⟨[d], rfl, fun rest => ?_⟩
    rw [List.singleton_append, readEscape, if_neg (letters_ne_code mem), unescape?_letters mem]
  | @code digits c hex =>
    obtain ⟨leading, trailing⟩ := toNat_not_surrogate c
    refine .inr ⟨'u' :: digits, rfl, fun rest => ?_⟩
    simp only [List.cons_append, readEscape, if_true, hex.readHex, bind, Except.bind, trailing,
      leading, Bool.false_eq_true, if_false, Char.ofNat_toNat]
  | @pair high low leading trailing c hex hex' first second value =>
    have isFirst : isLeading leading = true := by simp [isLeading, first]
    have isSecond : isTrailing trailing = true := by simp [isTrailing, second]
    have notSecond : isTrailing leading = false := by
      simp only [isTrailing, Bool.and_eq_false_iff, decide_eq_false_iff_not]
      omega
    refine .inr ⟨'u' :: (high ++ '\\' :: 'u' :: low), rfl, fun rest => ?_⟩
    simp only [List.cons_append, List.append_assoc, readEscape, if_true, hex.readHex, bind,
      Except.bind, notSecond, isFirst, Bool.false_eq_true, if_false, readTrailing, hex'.readHex,
      isSecond]
    rw [← value, Char.ofNat_toNat]

lemma Spelled.length_pos {piece : List Char} {c : Char} (spelled : Spelled piece c) :
    0 < piece.length := by
  rcases spelled.cases with ⟨rfl, -⟩ | ⟨tail, rfl, -⟩
  · exact Nat.one_pos
  · exact Nat.succ_pos _

/-- However it is written, a character is read as one. -/
lemma Spelled.readChars {piece : List Char} {c : Char} (spelled : Spelled piece c) (f : Char)
    (fuel done rest : List Char) :
    readChars (f :: fuel) done (piece ++ rest) = readChars fuel (c :: done) rest := by
  rcases spelled.cases with ⟨rfl, quote, backslash, solid⟩ | ⟨tail, rfl, read⟩
  · rw [List.singleton_append, Json.readChars, if_neg quote, if_neg backslash, if_neg solid]
  · rw [List.cons_append, Json.readChars, read]
    rfl

lemma Spells.length_le {text cs : List Char} (spells : Spells text cs) :
    cs.length ≤ text.length := by
  induction spells with
  | nil => exact Nat.le_refl _
  | cons spelled _ ih =>
    have some := spelled.length_pos
    rw [List.length_append, List.length_cons]
    omega

/-- A string is read up to its closing quote. -/
lemma Spells.readChars {text cs : List Char} (spells : Spells text cs) (fuel done rest : List Char)
    (enough : cs.length < fuel.length) :
    readChars fuel done (text ++ '"' :: rest) = .ok (done.reverse ++ cs, rest) := by
  induction spells generalizing fuel done with
  | nil =>
    obtain ⟨f, fuel, rfl⟩ := List.exists_cons_of_length_pos enough
    rw [List.append_nil]
    rfl
  | cons spelled _ ih =>
    obtain ⟨f, fuel, rfl⟩ := List.exists_cons_of_length_pos (Nat.zero_lt_of_lt enough)
    rw [List.append_assoc, spelled.readChars, ih _ _ (Nat.lt_of_succ_lt_succ enough)]
    simp

/-- A string is read as what it spells. -/
lemma readText_spells {s : String} {text : List Char} (spells : Spells text s.toList)
    (rest : List Char) : readText (text ++ '"' :: rest) = .ok (s, rest) := by
  have enough : s.toList.length < (text ++ '"' :: rest).length := by
    have shorter := spells.length_le
    rw [List.length_append, List.length_cons]
    omega
  rw [readText, spells.readChars _ _ _ enough]
  simp only [bind, Except.bind, List.reverse_nil, List.nil_append, String.ofList_toList]

end Reading

section Writing

lemma hex_control {n : Nat} (control : n < 0x20) :
    Hex ['0', '0', hexDigit (n / 16), hexDigit (n % 16)] n where
  four := rfl
  all := by interval_cases n <;> exact List.all_eq_true.mp rfl
  value := by interval_cases n <;> rfl

/-- Strings are written in one of the ways to write them. -/
lemma spelled_escape (c : Char) : Spelled (escape c) c := by
  by_cases named : c ∈ ['"', '\\', '\x08', '\x0c', '\n', '\r', '\t']
  · simp only [List.mem_cons, List.not_mem_nil, or_false] at named
    rcases named with rfl | rfl | rfl | rfl | rfl | rfl | rfl
    all_goals exact .letter (by decide)
  simp only [List.mem_cons, List.not_mem_nil, or_false, not_or] at named
  obtain ⟨quote, backslash, backspace, feed, line, carriage, tab⟩ := named
  rw [escape, if_neg quote, if_neg backslash, if_neg backspace, if_neg feed, if_neg line,
    if_neg carriage, if_neg tab]
  split
  · rename_i control
    exact .code (hex_control control)
  · rename_i solid
    exact .plain quote backslash solid

lemma spells_escape (cs : List Char) : Spells (cs.flatMap escape) cs := by
  induction cs with
  | nil => exact .nil
  | cons c cs ih => exact .cons (spelled_escape c) ih

lemma quotes_writeText (s : String) : Quotes s (writeText s) :=
  .mk (spells_escape s.toList)

end Writing

end LogFanout.Json
