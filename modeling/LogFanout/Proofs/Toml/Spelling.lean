import LogFanout.Toml.Text
import Mathlib.Tactic.IntervalCases
import Mathlib.Tactic.Lemma

/-!
# What a string spells

Between its marks a string spells its characters, each of them as it is or behind a backslash, and
never three quotes in a row that end it too early (`Spells`). Such a text is taken whole, and is
read as the characters that it spells (`readText_spells`).
-/

namespace LogFanout.Toml

/-- What stands behind a backslash is read as one character. -/
structure Escaped (c d : Char) (tail : List Char) : Prop where
  newline : d ≠ '\n'
  carriage : d ≠ '\r'
  blank : isBlank d = false
  solid : ∀ e ∈ tail, e ≠ '"' ∧ e ≠ '\\' ∧ e ≠ '\n'
  reads : ∀ rest, readEscape (d :: (tail ++ rest)) = .ok (c, rest)

/-- A text spells characters in a form, after a row of `run` quotes. -/
inductive Spells (form : Form) : (run : Nat) → List Char → List Char → Prop where
  | nil {run} :
    Spells form run [] []
  | quote {run cs text} :
    form.isLong = true →
    run < 2 →
    Spells form (run + 1) cs text →
    Spells form run (form.quote :: cs) (form.quote :: text)
  | plain {run c cs text} :
    c ≠ form.quote →
    (form.escapes && c = '\\') = false →
    c ≠ '\r' →
    form.refuses c = false →
    Spells form 0 cs text →
    Spells form run (c :: cs) (c :: text)
  | escape {run c d tail cs text} :
    form.escapes = true →
    Escaped c d tail →
    Spells form 0 cs text →
    Spells form run (c :: cs) ('\\' :: d :: (tail ++ text))

variable {form : Form}

lemma mark_short (short : form.isLong = false) : form.mark = [form.quote] := by
  rw [Form.mark, short]
  rfl

lemma mark_long (long : form.isLong = true) :
    form.mark = [form.quote, form.quote, form.quote] := by
  rw [Form.mark, long]
  rfl

lemma quote_of_escapes (escapes : form.escapes = true) : form.quote = '"' := by
  cases form <;> first | rfl | cases escapes

lemma quote_ne_newline (form : Form) : form.quote ≠ '\n' := by
  cases form <;> decide

lemma quote_ne_backslash (form : Form) : form.quote ≠ '\\' := by
  cases form <;> decide

section Line

/-- Characters that do not end a string of one line go by. -/
lemma takeLine_solid {text : List Char}
    (solid : ∀ c ∈ text, c ≠ form.quote ∧ (form.escapes && c = '\\') = false ∧ c ≠ '\n')
    (done rest : List Char) :
    takeLine form false done (text ++ rest) = takeLine form false (text.reverse ++ done) rest := by
  induction text generalizing done with
  | nil => rfl
  | cons c text ih =>
    obtain ⟨⟨quote, backslash, newline⟩, others⟩ := List.forall_mem_cons.mp solid
    rw [List.cons_append, takeLine]
    simp only [Bool.false_eq_true, false_and, if_false, quote, newline, backslash]
    rw [ih others, List.reverse_cons, List.append_assoc]
    rfl

/-- What stands behind a backslash goes by. -/
lemma takeLine_escaped {c d : Char} {tail : List Char} (escaped : Escaped c d tail)
    (escapes : form.escapes = true) (done rest : List Char) :
    takeLine form false done ('\\' :: d :: (tail ++ rest)) =
      takeLine form false (('\\' :: d :: tail).reverse ++ done) rest := by
  have solid : ∀ e ∈ tail, e ≠ form.quote ∧ (form.escapes && e = '\\') = false ∧ e ≠ '\n' := by
    intro e mem
    obtain ⟨quote, backslash, newline⟩ := escaped.solid e mem
    refine ⟨quote_of_escapes escapes ▸ quote, ?_, newline⟩
    simp [backslash]
  have quote : '\\' ≠ form.quote := (quote_ne_backslash form).symm
  rw [takeLine]
  simp only [Bool.false_eq_true, false_and, if_false, quote, Char.reduceEq, escapes, decide_true,
    Bool.and_true]
  rw [takeLine]
  by_cases special : d = '\\' ∨ d = '"'
  · simp only [true_and, special, if_true]
    rw [takeLine_solid solid]
    simp
  · have other := not_or.mp special
    have ends : d ≠ form.quote := quote_of_escapes escapes ▸ other.2
    simp only [true_and, if_false, ends, escaped.newline, other.1, decide_false,
      Bool.and_false]
    rw [takeLine_solid solid]
    simp

/-- A string of one line is taken up to its closing quote. -/
lemma takeLine_spells {run : Nat} {cs text : List Char} (short : form.isLong = false)
    (spells : Spells form run cs text) (done rest : List Char) :
    takeLine form false done (text ++ form.quote :: rest) =
      (done.reverse ++ text ++ [form.quote], rest) := by
  induction spells generalizing done with
  | nil =>
    rw [List.nil_append, takeLine]
    simp
  | quote long => cases short.symm.trans long
  | @plain run c cs text quote backslash _ taken _ ih =>
    have newline : c ≠ '\n' := by
      rintro rfl
      rw [Form.refuses, short] at taken
      cases taken
    have solid : ∀ e ∈ [c], e ≠ form.quote ∧ (form.escapes && e = '\\') = false ∧ e ≠ '\n' := by
      intro e mem
      obtain rfl := List.mem_singleton.mp mem
      exact ⟨quote, backslash, newline⟩
    have goes : takeLine form false done (c :: (text ++ form.quote :: rest)) =
        takeLine form false (c :: done) (text ++ form.quote :: rest) :=
      takeLine_solid solid done _
    rw [List.cons_append, goes, ih]
    simp
  | escape escapes escaped _ ih =>
    have goes := takeLine_escaped escaped escapes done
    simp only [List.cons_append, List.append_assoc, goes, ih]
    simp

end Line

section Lines

lemma takeLines_solid (long : form.isLong = true) {text : List Char}
    (solid : ∀ c ∈ text, c ≠ form.quote ∧ (form.escapes && c = '\\') = false)
    (done rest : List Char) :
    takeLines form false done (text ++ rest) =
      takeLines form false (text.reverse ++ done) rest := by
  induction text generalizing done with
  | nil => rfl
  | cons c text ih =>
    obtain ⟨⟨quote, backslash⟩, others⟩ := List.forall_mem_cons.mp solid
    have inner : form.mark.isPrefixOf (c :: (text ++ rest)) = false := by
      simp [mark_long long, List.isPrefixOf, Ne.symm quote]
    rw [List.cons_append, takeLines]
    simp only [Bool.false_eq_true, false_and, if_false, inner, backslash]
    rw [ih others, List.reverse_cons, List.append_assoc]
    rfl

lemma takeLines_escaped (long : form.isLong = true) {c d : Char} {tail : List Char}
    (escaped : Escaped c d tail) (escapes : form.escapes = true) (done rest : List Char) :
    takeLines form false done ('\\' :: d :: (tail ++ rest)) =
      takeLines form false (('\\' :: d :: tail).reverse ++ done) rest := by
  have solid : ∀ e ∈ tail, e ≠ form.quote ∧ (form.escapes && e = '\\') = false := by
    intro e mem
    obtain ⟨quote, backslash, -⟩ := escaped.solid e mem
    refine ⟨quote_of_escapes escapes ▸ quote, ?_⟩
    simp [backslash]
  have inner : ∀ {e : Char} {cs : List Char}, e ≠ form.quote →
      form.mark.isPrefixOf (e :: cs) = false := by
    intro e cs quote
    simp [mark_long long, List.isPrefixOf, Ne.symm quote]
  rw [takeLines]
  simp only [Bool.false_eq_true, false_and, if_false, inner (quote_ne_backslash form).symm, escapes,
    decide_true, Bool.and_true]
  rw [takeLines]
  by_cases special : d = '\\' ∨ d = '"'
  · simp only [true_and, special, if_true]
    rw [takeLines_solid long solid]
    simp
  · have other := not_or.mp special
    have ends : d ≠ form.quote := quote_of_escapes escapes ▸ other.2
    simp only [true_and, if_false, inner ends, Bool.false_eq_true, other.1, decide_false,
      Bool.and_false]
    rw [takeLines_solid long solid]
    simp

/-- A row of quotes ends with the text or before another character, before there are three. -/
lemma Spells.row {run : Nat} {cs text : List Char} (spells : Spells form run cs text)
    (few : run ≤ 2) :
    ∃ k, run + k ≤ 2 ∧ (text = List.replicate k form.quote ∨
      ∃ d tail, d ≠ form.quote ∧ text = List.replicate k form.quote ++ d :: tail) := by
  induction spells with
  | nil => exact ⟨0, few, .inl rfl⟩
  | quote _ less _ ih =>
    obtain ⟨k, total, row⟩ := ih less
    refine ⟨k + 1, by omega, ?_⟩
    rcases row with rfl | ⟨d, tail, other, rfl⟩
    · exact .inl rfl
    · exact .inr ⟨d, tail, other, rfl⟩
  | plain quote => exact ⟨0, few, .inr ⟨_, _, quote, rfl⟩⟩
  | escape => exact ⟨0, few, .inr ⟨_, _, (quote_ne_backslash form).symm, rfl⟩⟩

/-- At most two quotes in front of a closing mark go with the string. -/
lemma takeLines_close (long : form.isLong = true) {k : Nat} (few : k ≤ 2) (done : List Char)
    {rest : List Char} (ends : rest.head? ≠ some form.quote) :
    takeLines form false done (List.replicate k form.quote ++ form.mark ++ rest) =
      (done.reverse ++ List.replicate k form.quote ++ form.mark, rest) := by
  have turn : List.replicate k form.quote ++ form.mark =
      form.mark ++ List.replicate k form.quote := by
    rw [mark_long long]
    interval_cases k <;> rfl
  have more : ((List.replicate k form.quote ++ rest).take 2).takeWhile (· = form.quote) =
      List.replicate k form.quote := by
    cases rest with
    | nil => interval_cases k <;> simp
    | cons d rest =>
      have other : d ≠ form.quote := fun eq => ends (eq ▸ rfl)
      interval_cases k <;> simp [other]
  rw [List.append_assoc done.reverse, turn, List.append_assoc, mark_long long]
  rw [List.cons_append, takeLines]
  simp only [Bool.false_eq_true, false_and, if_false]
  rw [if_pos (by simp [mark_long long])]
  simp only [List.cons_append, List.nil_append, List.drop_succ_cons, List.drop_zero, more,
    List.length_replicate, mark_long long]
  simp

/-- A string of several lines is taken up to its closing quotes. -/
lemma takeLines_spells {run : Nat} {cs text : List Char} (long : form.isLong = true)
    (spells : Spells form run cs text) (few : run ≤ 2) (done : List Char) {rest : List Char}
    (ends : rest.head? ≠ some form.quote) :
    takeLines form false done (text ++ form.mark ++ rest) =
      (done.reverse ++ text ++ form.mark, rest) := by
  induction spells generalizing done with
  | nil =>
    have close := takeLines_close long (Nat.zero_le 2) done ends
    simpa using close
  | @quote run cs text _ less spells ih =>
    obtain ⟨k, total, row⟩ := spells.row less
    rcases row with rfl | ⟨d, tail, other, eq⟩
    · have two : k + 1 ≤ 2 := by omega
      exact takeLines_close long two done ends
    · have inner : form.mark.isPrefixOf (form.quote :: (text ++ form.mark ++ rest)) = false := by
        have few : k ≤ 1 := by omega
        rw [mark_long long, eq]
        interval_cases k <;> simp [List.isPrefixOf, Ne.symm other]
      have backslash : (form.escapes && form.quote = '\\') = false := by
        simp [quote_ne_backslash]
      rw [List.cons_append, List.cons_append, takeLines]
      simp only [Bool.false_eq_true, false_and, if_false, inner, backslash]
      rw [ih less]
      simp
  | @plain run c cs text quote backslash _ _ _ ih =>
    have solid : ∀ e ∈ [c], e ≠ form.quote ∧ (form.escapes && e = '\\') = false := by
      intro e mem
      obtain rfl := List.mem_singleton.mp mem
      exact ⟨quote, backslash⟩
    have goes : takeLines form false done (c :: (text ++ form.mark ++ rest)) =
        takeLines form false (c :: done) (text ++ form.mark ++ rest) :=
      takeLines_solid long solid done _
    rw [List.cons_append, List.cons_append, goes, ih (Nat.zero_le 2)]
    simp
  | escape escapes escaped _ ih =>
    have goes := takeLines_escaped long escaped escapes done
    simp only [List.cons_append, List.append_assoc, goes] at ih ⊢
    rw [ih (Nat.zero_le 2)]
    simp

end Lines

section Reading

lemma Spells.length_le {run : Nat} {cs text : List Char} (spells : Spells form run cs text) :
    cs.length ≤ text.length := by
  induction spells with
  | nil => exact Nat.le_refl _
  | quote _ _ _ ih => exact Nat.succ_le_succ ih
  | plain _ _ _ _ _ ih => exact Nat.succ_le_succ ih
  | escape _ _ _ ih =>
    simp only [List.length_cons, List.length_append]
    omega

lemma refuses_quote (form : Form) : form.refuses form.quote = false := by
  cases form <;> decide

lemma quote_ne_carriage (form : Form) : form.quote ≠ '\r' := by
  cases form <;> decide

/-- With escapes, a text is read as what it spells. -/
lemma readEscaped_spells {run : Nat} {cs text : List Char} (escapes : form.escapes = true)
    (spells : Spells form run cs text) (fuel done : List Char) (enough : cs.length ≤ fuel.length) :
    readEscaped form fuel done text = .ok (done.reverse ++ cs) := by
  have plain : ∀ {c f : Char} {fuel done text : List Char}, c ≠ '\\' → c ≠ '\r' →
      form.refuses c = false →
      readEscaped form (f :: fuel) done (c :: text) = readEscaped form fuel (c :: done) text := by
    intro c f fuel done text backslash carriage taken
    rw [readEscaped.eq_def]
    simp only [backslash, carriage, taken, and_false, Bool.false_eq_true, if_false]
  induction spells generalizing fuel done with
  | nil => simp [readEscaped]
  | quote _ _ _ ih =>
    obtain ⟨f, fuel, rfl⟩ := List.exists_cons_of_length_pos (Nat.zero_lt_of_lt enough)
    rw [plain (quote_ne_backslash form) (quote_ne_carriage form) (refuses_quote form),
      ih _ _ (Nat.le_of_succ_le_succ enough)]
    simp
  | @plain run c cs text _ backslash carriage taken _ ih =>
    obtain ⟨f, fuel, rfl⟩ := List.exists_cons_of_length_pos (Nat.zero_lt_of_lt enough)
    have other : c ≠ '\\' := by
      rintro rfl
      rw [escapes] at backslash
      cases backslash
    rw [plain other carriage taken, ih _ _ (Nat.le_of_succ_le_succ enough)]
    simp
  | @escape run c d tail cs text _ escaped _ ih =>
    obtain ⟨f, fuel, rfl⟩ := List.exists_cons_of_length_pos (Nat.zero_lt_of_lt enough)
    have joined : beginsFold (d :: (tail ++ text)) = false := by
      simp [beginsFold, escaped.newline, escaped.carriage, escaped.blank]
    rw [readEscaped.eq_def]
    simp only [if_true, joined, Bool.false_eq_true, and_false, if_false, escaped.reads, bind,
      Except.bind]
    rw [ih _ _ (Nat.le_of_succ_le_succ enough)]
    simp

/-- Without escapes, a text spells itself. -/
lemma checkPlain_spells {run : Nat} {cs text : List Char} (raw : form.escapes = false)
    (spells : Spells form run cs text) : text = cs ∧ checkPlain form text = .ok () := by
  have plain : ∀ {c : Char} {text : List Char}, c ≠ '\r' → form.refuses c = false →
      checkPlain form (c :: text) = checkPlain form text := by
    intro c text carriage taken
    rw [checkPlain]
    · simp only [carriage, taken, and_false, Bool.false_eq_true, if_false]
    · intro _ eq
      exact absurd eq carriage
  induction spells with
  | nil => exact ⟨rfl, rfl⟩
  | quote _ _ _ ih =>
    obtain ⟨rfl, checked⟩ := ih
    exact ⟨rfl, (plain (quote_ne_carriage form) (refuses_quote form)).trans checked⟩
  | plain _ _ carriage taken _ ih =>
    obtain ⟨rfl, checked⟩ := ih
    exact ⟨rfl, (plain carriage taken).trans checked⟩
  | escape escapes => cases raw.symm.trans escapes

lemma readInner_spells {cs text front : List Char} (spells : Spells form 0 cs text)
    (drops : (if form.isLong then dropNewline front else front) = text) :
    readInner form front = .ok (String.ofList cs) := by
  rw [readInner]
  simp only [drops]
  cases escapes : form.escapes with
  | true =>
    have read := readEscaped_spells escapes spells text [] spells.length_le
    simp only [if_true, read, bind, Except.bind, List.reverse_nil, List.nil_append]
  | false =>
    obtain ⟨rfl, checked⟩ := checkPlain_spells escapes spells
    simp only [Bool.false_eq_true, if_false, checked, bind, Except.bind]

end Reading

section Marks

lemma dropMark?_append (mark text : List Char) : dropMark? mark (text ++ mark) = some text := by
  rw [dropMark?, if_pos (by simp)]
  simp

/-- The text behind the first quote tells the form. -/
lemma opening_eq {cs front rest : List Char}
    (spells : form.isLong = false → Spells form 0 cs front)
    (ends : rest.head? ≠ some form.quote) :
    Form.opening form.quote (form.mark.tail ++ front ++ form.mark ++ rest) = form := by
  cases long : form.isLong with
  | true =>
    rw [mark_long long]
    cases form with
    | basic => cases long
    | literal => cases long
    | basicLines => simp [Form.opening, Form.quote, List.isPrefixOf]
    | literalLines => simp [Form.opening, Form.quote, List.isPrefixOf]
  | false =>
    have short : [form.quote, form.quote].isPrefixOf (front ++ form.quote :: rest) = false := by
      cases spells long with
      | nil =>
        cases rest with
        | nil => simp [List.isPrefixOf]
        | cons d rest =>
          have other : d ≠ form.quote := fun eq => ends (eq ▸ rfl)
          simp [List.isPrefixOf, Ne.symm other]
      | quote long' => cases long.symm.trans long'
      | plain quote => simp [List.isPrefixOf, Ne.symm quote]
      | escape => simp [List.isPrefixOf, quote_ne_backslash]
    rw [mark_short long]
    simp only [List.tail_cons, List.nil_append, List.append_assoc, List.singleton_append]
    cases form with
    | basicLines => cases long
    | literalLines => cases long
    | basic => simp only [Form.opening, Form.quote] at short ⊢; simp [short]
    | literal => simp only [Form.opening, Form.quote] at short ⊢; simp [short]

/-- A text that spells characters is read as them between its marks. Over several lines a newline
may stand in front. -/
lemma readText_spells {cs text : List Char} (spells : Spells form 0 cs text) {front : List Char}
    (fronts : front = text ∧ (form.isLong = true → dropNewline text = text) ∨
      form.isLong = true ∧ front = '\n' :: text)
    {rest : List Char} (ends : rest.head? ≠ some form.quote) :
    readText form (form.mark.tail ++ front ++ form.mark ++ rest) = (.ok (String.ofList cs), rest) := by
  have inner : readInner form front = .ok (String.ofList cs) := by
    apply readInner_spells spells
    rcases fronts with ⟨rfl, drops⟩ | ⟨long, rfl⟩
    · split
      · exact drops ‹_›
      · rfl
    · rw [if_pos long]
      rfl
  have written : (if form.isLong then
      takeLines form false [] ((form.mark.tail ++ front ++ form.mark ++ rest).drop 2)
    else takeLine form false [] (form.mark.tail ++ front ++ form.mark ++ rest)) =
      (front ++ form.mark, rest) := by
    cases long : form.isLong with
    | false =>
      rcases fronts with ⟨rfl, -⟩ | ⟨long', -⟩
      · have taken := takeLine_spells long spells [] rest
        simpa [mark_short long] using taken
      · cases long.symm.trans long'
    | true =>
      have whole : ∃ chars, Spells form 0 chars front := by
        rcases fronts with ⟨rfl, -⟩ | ⟨-, rfl⟩
        · exact ⟨cs, spells⟩
        · refine ⟨'\n' :: cs, .plain (quote_ne_newline form).symm ?_ (by decide) ?_ spells⟩
          · simp
          · rw [Form.refuses, long]
            rfl
      obtain ⟨chars, spells⟩ := whole
      have taken := takeLines_spells long spells (Nat.zero_le 2) [] ends
      have tail : form.mark.tail = [form.quote, form.quote] := by
        rw [mark_long long]
        rfl
      rw [tail]
      simpa using taken
  rw [readText]
  simp only [written, dropMark?_append, inner]
  rfl

end Marks

end LogFanout.Toml
