import LogFanout.Proofs.Toml.Spelling
import LogFanout.Toml.Quote
import LogFanout.Toml.Scalar

/-!
# Reading strings back

Whatever form is chosen for a string, what is written between the marks spells it; so every string
is read back (`readScalar_writeText`).
-/

namespace LogFanout.Toml

lemma hexCapital_solid {n : Nat} (digit : n < 16) :
    hexCapital n ≠ '"' ∧ hexCapital n ≠ '\\' ∧ hexCapital n ≠ '\n' := by
  interval_cases n <;> decide

lemma readCode_control {n : Nat} (control : n < 0x20 ∨ n = 0x7f) (rest : List Char) :
    readCode 4 ('0' :: '0' :: hexCapital (n / 16) :: hexCapital (n % 16) :: rest) =
      .ok (Char.ofNat n, rest) := by
  rcases control with control | rfl
  · interval_cases n <;> rfl
  · rfl

/-- Control characters may be written by their numbers. -/
lemma Escaped.of_control {c : Char} (control : c.toNat < 0x20 ∨ c.toNat = 0x7f) :
    Escaped c 'u' ['0', '0', hexCapital (c.toNat / 16), hexCapital (c.toNat % 16)] where
  newline := by decide
  carriage := by decide
  blank := by decide
  solid := by
    have high := hexCapital_solid (n := c.toNat / 16) (by omega)
    have low := hexCapital_solid (n := c.toNat % 16) (by omega)
    intro e mem
    simp only [List.mem_cons, List.not_mem_nil, or_false] at mem
    rcases mem with rfl | rfl | rfl | rfl
    · decide
    · decide
    · exact high
    · exact low
  reads rest := by
    have read := readCode_control control rest
    rw [Char.ofNat_toNat] at read
    exact read

/-- A letter behind a backslash stands for a character. -/
lemma Escaped.of_letter {c d : Char} (letter : d ≠ '\n' ∧ d ≠ '\r' ∧ isBlank d = false)
    (reads : ∀ rest, readEscape (d :: rest) = .ok (c, rest)) : Escaped c d [] where
  newline := letter.1
  carriage := letter.2.1
  blank := letter.2.2
  solid e mem := by cases mem
  reads := reads

/-- A character other than quote and newline stands for itself or behind a backslash. -/
lemma escape_cases {c : Char} (quote : c ≠ '"') (newline : c ≠ '\n') :
    (escape c = [c] ∧ c ≠ '\\' ∧ isControl c = false) ∨
      ∃ d tail, escape c = '\\' :: d :: tail ∧ Escaped c d tail := by
  by_cases named : c ∈ ['\\', '\x08', '\t', '\x0c', '\r']
  · right
    simp only [List.mem_cons, List.not_mem_nil, or_false] at named
    rcases named with rfl | rfl | rfl | rfl | rfl
    all_goals exact ⟨_, [], rfl, .of_letter (by decide) fun _ => rfl⟩
  simp only [List.mem_cons, List.not_mem_nil, or_false, not_or] at named
  obtain ⟨backslash, backspace, tab, feed, carriage⟩ := named
  cases control : isControl c with
  | true =>
    refine .inr ⟨_, _, ?_, .of_control ?_⟩
    · simp only [escape, backslash, backspace, tab, feed, carriage, control, if_false, if_true]
    · simp only [isControl, Bool.or_eq_true, Bool.and_eq_true, decide_eq_true_eq] at control
      rcases control with ⟨⟨low, -⟩, -⟩ | rfl
      · exact .inl low
      · exact .inr rfl
  | false =>
    refine .inl ⟨?_, backslash, rfl⟩
    simp only [escape, backslash, backspace, tab, feed, carriage, control, if_false,
      Bool.false_eq_true]

lemma ne_carriage {c : Char} (plain : isControl c = false) : c ≠ '\r' := by
  rintro rfl
  cases plain

lemma refuses_false {form : Form} {c : Char} (plain : isControl c = false)
    (newline : c = '\n' → form.isLong = true) : form.refuses c = false := by
  by_cases line : c = '\n'
  · rw [Form.refuses, newline line, line]
    rfl
  · have solid : isPlain c = true := by
      simp only [isControl, Bool.or_eq_false_iff, Bool.and_eq_false_iff, decide_eq_false_iff_not,
        not_not, line, or_false] at plain
      obtain ⟨high | rfl, delete⟩ := plain
      · simp [isPlain, Nat.le_of_not_lt high, delete]
      · rfl
    rw [Form.refuses, solid]
    rfl

lemma spells_escape {form : Form} (escapes : form.escapes = true) {run : Nat} {c : Char}
    {cs text : List Char} (quote : c ≠ '"') (newline : c ≠ '\n') (spells : Spells form 0 cs text) :
    Spells form run (c :: cs) (escape c ++ text) := by
  rcases escape_cases quote newline with ⟨eq, backslash, plain⟩ | ⟨d, tail, eq, escaped⟩
  · rw [eq]
    refine .plain ?_ ?_ (ne_carriage plain) (refuses_false plain fun eq => absurd eq newline) spells
    · rw [quote_of_escapes escapes]
      exact quote
    · simp [backslash]
  · rw [eq, List.cons_append, List.cons_append]
    exact .escape escapes escaped spells

lemma spells_basic (cs : List Char) : Spells .basic 0 cs (cs.flatMap escapeLine) := by
  induction cs with
  | nil => exact .nil
  | cons c cs ih =>
    rw [List.flatMap_cons, escapeLine]
    split
    · rename_i eq
      subst eq
      exact .escape rfl (.of_letter (by decide) fun _ => rfl) ih
    · split
      · rename_i eq
        subst eq
        exact .escape rfl (.of_letter (by decide) fun _ => rfl) ih
      · rename_i quote newline
        exact spells_escape rfl quote newline ih

lemma spells_basicLines {run : Nat} (few : run ≤ 2) (cs : List Char) :
    Spells .basicLines run cs (escapeLines run cs) := by
  induction cs generalizing run with
  | nil => exact .nil
  | cons c cs ih =>
    rw [escapeLines]
    split
    · rename_i eq
      subst eq
      split
      · exact .escape rfl (.of_letter (by decide) fun _ => rfl) (ih (Nat.zero_le 2))
      · have less : run < 2 := by omega
        exact .quote rfl less (ih less)
    · split
      · rename_i eq
        subst eq
        exact .plain (by decide) rfl (by decide) (by decide) (ih (Nat.zero_le 2))
      · rename_i quote newline
        exact spells_escape rfl quote newline (ih (Nat.zero_le 2))

lemma spells_literal {cs : List Char} (plain : cs.any isControl = false)
    (quote : cs.contains '\'' = false) (newline : cs.contains '\n' = false) :
    Spells .literal 0 cs cs := by
  induction cs with
  | nil => exact .nil
  | cons c cs ih =>
    simp only [List.any_cons, Bool.or_eq_false_iff, List.contains_cons, beq_eq_false_iff_ne] at *
    exact .plain quote.1.symm rfl (ne_carriage plain.1)
      (refuses_false plain.1 fun eq => absurd eq newline.1.symm) (ih plain.2 quote.2 newline.2)

lemma le_longestRun (mark : Char) (run : Nat) (cs : List Char) : run ≤ longestRun mark run cs := by
  induction cs generalizing run with
  | nil => exact Nat.le_refl _
  | cons c cs ih =>
    rw [longestRun]
    split
    · exact Nat.le_trans (Nat.le_succ run) (ih _)
    · exact Nat.le_max_left _ _

lemma spells_literalLines {run : Nat} {cs : List Char} (plain : cs.any isControl = false)
    (few : longestRun '\'' run cs ≤ 2) : Spells .literalLines run cs cs := by
  induction cs generalizing run with
  | nil => exact .nil
  | cons c cs ih =>
    simp only [List.any_cons, Bool.or_eq_false_iff] at plain
    rw [longestRun] at few
    split at few
    · rename_i eq
      subst eq
      have less := Nat.le_trans (le_longestRun '\'' (run + 1) cs) few
      exact .quote rfl less (ih plain.2 few)
    · rename_i quote
      have rest := Nat.le_trans (Nat.le_max_right _ _) few
      exact .plain quote rfl (ne_carriage plain.1) (refuses_false plain.1 fun _ => rfl)
        (ih plain.2 rest)

/-- Without newlines, a spelled text does not begin with one. -/
lemma dropNewline_spells {form : Form} {cs text : List Char} (spells : Spells form 0 cs text)
    (newline : cs.contains '\n' = false) : dropNewline text = text := by
  have other : ∀ {c : Char} {text : List Char}, c ≠ '\n' → c ≠ '\r' →
      dropNewline (c :: text) = c :: text := by
    intro c text newline carriage
    rw [dropNewline]
    · intro _ eq
      exact newline (List.cons.inj eq).1
    · intro _ eq
      exact carriage (List.cons.inj eq).1
  cases spells with
  | nil => rfl
  | quote => exact other (quote_ne_newline form) (quote_ne_carriage form)
  | plain _ _ carriage =>
    simp only [List.contains_cons, Bool.or_eq_false_iff, beq_eq_false_iff_ne] at newline
    exact other newline.1.symm carriage
  | escape => exact other (by decide) (by decide)

lemma Form.of_literal {cs : List Char} (literal : Form.of cs = .literal) :
    cs.any isControl = false ∧ cs.contains '\'' = false ∧ cs.contains '\n' = false := by
  simp only [Form.of] at literal
  split_ifs at literal
  simp_all

lemma Form.of_literalLines {cs : List Char} (literal : Form.of cs = .literalLines) :
    cs.any isControl = false ∧ longestRun '\'' 0 cs ≤ 2 := by
  simp only [Form.of] at literal
  split_ifs at literal
  simp_all

/-- A newline is put in front of a string that holds one. -/
lemma firstLine_append {form : Form} {cs text : List Char} (long : form.isLong = true)
    (spells : Spells form 0 cs text) :
    firstLine cs ++ text = text ∧ (form.isLong = true → dropNewline text = text) ∨
      form.isLong = true ∧ firstLine cs ++ text = '\n' :: text := by
  rw [firstLine]
  cases newline : cs.contains '\n' with
  | true => exact .inr ⟨long, rfl⟩
  | false => exact .inl ⟨rfl, fun _ => dropNewline_spells spells newline⟩

/-- What stands between the marks of a written string spells it, behind a newline or not. -/
lemma writeText_spells (s : String) :
    ∃ form front text, writeText s = form.mark ++ front ++ form.mark ∧
      Spells form 0 s.toList text ∧
      (front = text ∧ (form.isLong = true → dropNewline text = text) ∨
        form.isLong = true ∧ front = '\n' :: text) := by
  simp only [writeText]
  cases form : Form.of s.toList with
  | basic =>
    exact ⟨.basic, _, _, rfl, spells_basic _, .inl ⟨rfl, fun long => by cases long⟩⟩
  | literal =>
    obtain ⟨plain, quote, newline⟩ := Form.of_literal form
    exact ⟨.literal, _, _, rfl, spells_literal plain quote newline,
      .inl ⟨rfl, fun long => by cases long⟩⟩
  | basicLines =>
    have spells := spells_basicLines (Nat.zero_le 2) s.toList
    exact ⟨.basicLines, _, _, rfl, spells, firstLine_append rfl spells⟩
  | literalLines =>
    obtain ⟨plain, few⟩ := Form.of_literalLines form
    have spells := spells_literalLines plain few
    exact ⟨.literalLines, _, _, rfl, spells, firstLine_append rfl spells⟩

/-- Every string is read back if no quote follows it. -/
lemma readScalar_writeText (s : String) {rest : List Char}
    (ends : ∀ c ∈ rest.head?, isQuote c = false) :
    ∃ c cs, writeText s ++ rest = c :: cs ∧ isQuote c = true ∧
      readScalar c cs = (.ok (.text s), rest) := by
  obtain ⟨form, front, text, eq, spells, fronts⟩ := writeText_spells s
  have quote : isQuote form.quote = true := by cases form <;> rfl
  have mark : form.mark = form.quote :: form.mark.tail := by cases form <;> rfl
  have other : rest.head? ≠ some form.quote := by
    intro eq
    cases quote.symm.trans (ends _ eq)
  refine ⟨form.quote, form.mark.tail ++ front ++ form.mark ++ rest, ?_, quote, ?_⟩
  · rw [eq]
    nth_rewrite 1 [mark]
    rfl
  · have whole : form.isLong = false → Spells form 0 s.toList front := by
      intro short
      rcases fronts with ⟨rfl, -⟩ | ⟨long, -⟩
      · exact spells
      · cases short.symm.trans long
    rw [readScalar, if_pos quote, opening_eq whole other, readText_spells spells fronts other,
      String.ofList_toList]
    rfl

end LogFanout.Toml
