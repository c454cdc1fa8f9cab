import LogFanout.Json.Skip
import LogFanout.Proofs.Json.Grammar

/-!
# Passing over values

Every well-formed value is passed over, however deep it is nested and whatever stands open around it
(`WellFormed.skipped`).
-/

namespace LogFanout.Json

section Scalars

lemma skipEscape_letter {d c : Char} (mem : (d, c) ∈ letters) (rest : List Char) :
    skipEscape (d :: rest) = .ok rest := by
  rw [skipEscape, if_neg (letters_ne_code mem), unescape?_letters mem]

lemma skipEscape_code {digits : List Char} {n : Nat} (hex : Hex digits n) (rest : List Char) :
    skipEscape ('u' :: (digits ++ rest)) = .ok rest := by
  simp only [skipEscape, if_true, hex.readHex, bind, Except.bind]

lemma skipChars_escaped {text : List Char} (escaped : Escaped text) (fuel rest : List Char)
    (enough : text.length < fuel.length) : skipChars fuel (text ++ '"' :: rest) = .ok rest := by
  induction escaped generalizing fuel with
  | nil =>
    obtain ⟨f, fuel, rfl⟩ := List.exists_cons_of_length_pos enough
    rfl
  | plain quote backslash solid _ ih =>
    obtain ⟨f, fuel, rfl⟩ := List.exists_cons_of_length_pos (Nat.zero_lt_of_lt enough)
    rw [List.cons_append, skipChars, if_neg quote, if_neg backslash, if_neg solid]
    exact ih fuel (Nat.lt_of_succ_lt_succ enough)
  | @letter d c text mem _ ih =>
    obtain ⟨f, fuel, rfl⟩ := List.exists_cons_of_length_pos (Nat.zero_lt_of_lt enough)
    rw [List.cons_append, List.cons_append, skipChars, skipEscape_letter mem]
    simp only [List.length_cons] at enough
    exact ih fuel (by omega)
  | @code digits n text hex _ ih =>
    obtain ⟨f, fuel, rfl⟩ := List.exists_cons_of_length_pos (Nat.zero_lt_of_lt enough)
    rw [List.cons_append, List.cons_append, List.append_assoc, skipChars, skipEscape_code hex]
    simp only [List.length_cons, List.length_append] at enough
    exact ih fuel (by omega)

lemma skipText_escaped {text : List Char} (escaped : Escaped text) (rest : List Char) :
    skipText (text ++ '"' :: rest) = .ok rest := by
  apply skipChars_escaped escaped
  rw [List.length_append, List.length_cons]
  omega

lemma Digits.exists_cons {digits : List Char} (row : Digits digits) :
    ∃ d ds, digits = d :: ds ∧ d.isDigit = true ∧ ∀ c ∈ ds, c.isDigit = true := by
  obtain ⟨d, ds, rfl⟩ := List.exists_cons_of_ne_nil row.some
  obtain ⟨digit, digits⟩ := List.forall_mem_cons.mp row.all
  exact ⟨d, ds, rfl, digit, digits⟩

/-- What is no digit does not stand first in a row of them. -/
lemma ne_of_isDigit {c d : Char} (digit : d.isDigit = true) (other : c.isDigit = false) :
    d ≠ c := by
  rintro rfl
  cases digit.symm.trans other

variable {rest : List Char}

/-- A row of digits ends where no digit follows. -/
lemma Digits.span {digits : List Char} (row : Digits digits)
    (ends : ∀ c ∈ rest.head?, c.isDigit = false) :
    (digits ++ rest).takeWhile Char.isDigit = digits ∧
      (digits ++ rest).dropWhile Char.isDigit = rest :=
  Text.span_append row.all ends

lemma skipExponent_digits {sign digits : List Char} (signed : sign ∈ [[], ['+'], ['-']])
    (row : Digits digits) (ends : ∀ c ∈ rest.head?, c.isDigit = false) :
    skipExponent (sign ++ (digits ++ rest)) = .ok rest := by
  obtain ⟨d, ds, rfl, digit, digits⟩ := row.exists_cons
  have after : (ds ++ rest).dropWhile Char.isDigit = rest := (Text.span_append digits ends).2
  simp only [List.mem_cons, List.not_mem_nil, or_false] at signed
  rcases signed with rfl | rfl | rfl
  · simp only [List.nil_append, List.cons_append]
    unfold skipExponent
    split
    · rename_i eq
      exact absurd (List.cons.inj eq).1 (ne_of_isDigit digit (by decide))
    · rename_i eq
      exact absurd (List.cons.inj eq).1 (ne_of_isDigit digit (by decide))
    · simp only [digit, if_true, after]
  · simp only [skipExponent, List.cons_append, List.nil_append, digit, if_true, after]
  · simp only [skipExponent, List.cons_append, List.nil_append, digit, if_true, after]

lemma skipTail_exponent {exponent : List Char} (tail : Exponent exponent) (apart : Apart rest) :
    skipTail (exponent ++ rest) = .ok rest := by
  cases tail with
  | none =>
    rw [List.nil_append]
    unfold skipTail
    split
    · exact absurd rfl (apart 'e' rfl).2.2.1
    · exact absurd rfl (apart 'E' rfl).2.2.2
    · rfl
  | @digits e sign digits letter signed row =>
    have skipped := skipExponent_digits signed row fun c mem => (apart c mem).1
    rw [← List.append_assoc] at skipped
    simp only [List.mem_cons, List.not_mem_nil, or_false] at letter
    rcases letter with rfl | rfl
    · exact skipped
    · exact skipped

/-- An exponent does not continue the digits in front of it. -/
lemma Exponent.ends {exponent : List Char} (tail : Exponent exponent) (apart : Apart rest) :
    ∀ c ∈ (exponent ++ rest).head?, c.isDigit = false ∧ c ≠ '.' := by
  cases tail with
  | none => exact fun c mem => ⟨(apart c mem).1, (apart c mem).2.1⟩
  | @digits e sign digits letter =>
    intro c mem
    obtain rfl : e = c := Option.some.inj mem
    simp only [List.mem_cons, List.not_mem_nil, or_false] at letter
    rcases letter with rfl | rfl
    all_goals decide

lemma skipNumber_number {whole places exponent : List Char} (row : Digits whole)
    (leading : ∀ more, whole = '0' :: more → more = []) (behind : Places places)
    (tail : Exponent exponent) (apart : Apart rest) :
    skipNumber (whole ++ (places ++ (exponent ++ rest))) = .ok rest := by
  have ends := tail.ends apart
  have point : ∀ c ∈ (places ++ (exponent ++ rest)).head?, c.isDigit = false := by
    cases behind with
    | none => exact fun c mem => (ends c mem).1
    | digits =>
      intro c mem
      obtain rfl : '.' = c := Option.some.inj mem
      decide
  obtain ⟨front, after⟩ := row.span point
  rw [skipNumber, front, after]
  split
  · exact absurd rfl row.some
  · rename_i c more
    cases leading (c :: more) rfl
  · cases behind with
    | none =>
      rw [List.nil_append]
      split
      · rename_i eq
        exact absurd rfl (ends '.' (by rw [eq]; rfl)).2
      · exact skipTail_exponent tail apart
    | digits row' =>
      obtain ⟨front', after'⟩ := row'.span fun c mem => (ends c mem).1
      simp only [List.cons_append]
      rw [front', after']
      split
      · exact absurd rfl row'.some
      · exact skipTail_exponent tail apart

end Scalars

/-- From a place in the text, where the frames of a stack stand open, passing over goes on to a
later place. -/
def Leads (stack : List Frame) (next : Next) (cs : List Char) (stack' : List Frame) (next' : Next)
    (rest : List Char) : Prop :=
  ∀ fuel : List Char, cs.length ≤ fuel.length →
    ∃ fuel' : List Char, rest.length ≤ fuel'.length ∧
      skipFrom fuel stack next cs = skipFrom fuel' stack' next' rest

/-- A text of one value, which is passed over whatever stands open around it. -/
structure Skipped (text : List Char) : Prop where
  begins : ∃ c cs, text = c :: cs ∧ isBlank c = false ∧ c ≠ ']' ∧ c ≠ '\x7d'
  leads : ∀ gap stack rest, Blank gap → Apart rest →
    Leads stack .value (gap ++ (text ++ rest)) stack .more rest

section Steps

-- The equations of a round are made here once, for all steps.
attribute [local simp] skipFrom

variable {stack stack' stack'' : List Frame} {next next' next'' : Next}
  {cs cs' rest gap : List Char}

lemma Leads.trans (leads : Leads stack next cs stack' next' cs')
    (leads' : Leads stack' next' cs' stack'' next'' rest) :
    Leads stack next cs stack'' next'' rest := by
  intro fuel enough
  obtain ⟨fuel', enough', eq⟩ := leads fuel enough
  obtain ⟨fuel'', enough'', eq'⟩ := leads' fuel' enough'
  exact ⟨fuel'', enough'', eq.trans eq'⟩

/-- A round that reads at least one character has fuel for it. -/
lemma Leads.of_round (shorter : rest.length < cs.length)
    (round : ∀ f fuel, skipFrom (f :: fuel) stack next cs = skipFrom fuel stack' next' rest) :
    Leads stack next cs stack' next' rest := by
  intro fuel enough
  obtain ⟨f, fuel, rfl⟩ := List.exists_cons_of_length_pos
    (Nat.lt_of_lt_of_le (Nat.zero_lt_of_lt shorter) enough)
  rw [List.length_cons] at enough
  exact ⟨fuel, by omega, round f fuel⟩

lemma leads_scalar (blank : Blank gap) {c : Char} (solid : isBlank c = false)
    (bracket : c ≠ '[') (brace : c ≠ '\x7b') (skipped : skipScalar c cs = .ok rest)
    (shorter : rest.length ≤ cs.length) :
    Leads stack .value (gap ++ c :: cs) stack .more rest := by
  apply Leads.of_round
  · rw [List.length_append, List.length_cons]
    omega
  · intro f fuel
    simp [dropBlank_append blank solid, bracket, brace, skipped, bind, Except.bind]

lemma leads_array {gap' : List Char} (blank : Blank gap) (blank' : Blank gap') {c : Char}
    (solid : isBlank c = false) (some : c ≠ ']') :
    Leads stack .value (gap ++ '[' :: (gap' ++ c :: cs)) (.list :: stack) .value (c :: cs) := by
  apply Leads.of_round
  · simp only [List.length_append, List.length_cons]
    omega
  · intro f fuel
    rw [skipFrom, dropBlank_append blank (by decide)]
    simp only [if_true, dropBlank_append blank' solid]
    split
    · rename_i eq
      cases eq
    · rename_i eq
      exact absurd (List.cons.inj eq).1 some
    · rfl

lemma leads_emptyArray {gap' : List Char} (blank : Blank gap) (blank' : Blank gap') :
    Leads stack .value (gap ++ '[' :: (gap' ++ ']' :: rest)) stack .more rest := by
  have solid : isBlank ']' = false := by decide
  apply Leads.of_round
  · simp only [List.length_append, List.length_cons]
    omega
  · intro f fuel
    rw [skipFrom, dropBlank_append blank (by decide)]
    simp only [if_true, dropBlank_append blank' solid]

lemma leads_close (frame : Frame) (blank : Blank gap) :
    Leads (frame :: stack) .more (gap ++ frame.closer :: rest) stack .more rest := by
  have solid : isBlank frame.closer = false := by cases frame <;> decide
  have other : frame.closer ≠ ',' := by cases frame <;> decide
  apply Leads.of_round
  · simp only [List.length_append, List.length_cons]
    omega
  · intro f fuel
    simp [dropBlank_append blank solid, other]

lemma leads_comma (blank : Blank gap) :
    Leads (.list :: stack) .more (gap ++ ',' :: cs) (.list :: stack) .value cs := by
  apply Leads.of_round
  · simp only [List.length_append, List.length_cons]
    omega
  · intro f fuel
    rw [skipFrom, dropBlank_append blank (by decide)]
    rfl

lemma skipKey_member {name gap' : List Char} (blank : Blank gap) (escaped : Escaped name)
    (blank' : Blank gap') :
    skipKey (gap ++ '"' :: (name ++ '"' :: (gap' ++ ':' :: rest))) = .ok rest := by
  rw [skipKey, dropBlank_append blank (by decide)]
  simp only [skipText_escaped escaped, bind, Except.bind, readColon_append blank']

lemma leads_object {gap₁ name gap₂ : List Char} (blank : Blank gap) (blank₁ : Blank gap₁)
    (escaped : Escaped name) (blank₂ : Blank gap₂) :
    Leads stack .value (gap ++ '\x7b' :: (gap₁ ++ '"' :: (name ++ '"' :: (gap₂ ++ ':' :: cs))))
      (.record :: stack) .value cs := by
  have solid : isBlank '"' = false := by decide
  have key : skipKey ('"' :: (name ++ '"' :: (gap₂ ++ ':' :: cs))) = .ok cs :=
    skipKey_member blank_nil escaped blank₂
  apply Leads.of_round
  · simp only [List.length_append, List.length_cons]
    omega
  · intro f fuel
    rw [skipFrom, dropBlank_append blank (by decide)]
    simp only [Char.reduceEq, if_false, if_true, dropBlank_append blank₁ solid]
    split
    · rename_i eq
      cases eq
    · rename_i eq
      exact absurd (List.cons.inj eq).1 (by decide)
    · rw [key]
      rfl

lemma leads_emptyObject {gap' : List Char} (blank : Blank gap) (blank' : Blank gap') :
    Leads stack .value (gap ++ '\x7b' :: (gap' ++ '\x7d' :: rest)) stack .more rest := by
  have solid : isBlank '\x7d' = false := by decide
  apply Leads.of_round
  · simp only [List.length_append, List.length_cons]
    omega
  · intro f fuel
    rw [skipFrom, dropBlank_append blank (by decide)]
    simp only [Char.reduceEq, if_false, if_true, dropBlank_append blank' solid]

lemma leads_member {gap₁ name gap₂ : List Char} (blank : Blank gap) (blank₁ : Blank gap₁)
    (escaped : Escaped name) (blank₂ : Blank gap₂) :
    Leads (.record :: stack) .more
      (gap ++ ',' :: (gap₁ ++ '"' :: (name ++ '"' :: (gap₂ ++ ':' :: cs))))
      (.record :: stack) .value cs := by
  apply Leads.of_round
  · simp only [List.length_append, List.length_cons]
    omega
  · intro f fuel
    rw [skipFrom, dropBlank_append blank (by decide)]
    simp only [if_true, skipKey_member blank₁ escaped blank₂, bind, Except.bind]

end Steps

section Values

variable {stack : List Frame} {gap text : List Char}

/-- What is left of an array behind an item. -/
lemma Items.leads_rest {items : List (List Char)} (lists : Items false items text)
    (skipped : ∀ item ∈ items, Skipped item) (stack : List Frame) (rest : List Char) :
    Leads (.list :: stack) .more (text ++ ']' :: rest) stack .more rest := by
  induction items generalizing text with
  | nil =>
    cases lists with
    | done blank => exact leads_close .list blank
  | cons item items ih =>
    obtain ⟨here, later⟩ := List.forall_mem_cons.mp skipped
    cases lists with
    | next lead more =>
      cases lead with
      | next blank blank' =>
        have value := here.leads _ (.list :: stack) _ blank' (more.apart rest)
        have steps := (leads_comma blank).trans (value.trans (ih more later))
        simpa only [List.append_assoc, List.cons_append] using steps

/-- An array. -/
lemma Items.skipped {items : List (List Char)} (lists : Items true items text)
    (skipped : ∀ item ∈ items, Skipped item) : Skipped ('[' :: (text ++ [']'])) where
  begins := ⟨'[', _, rfl, by decide, by decide, by decide⟩
  leads gap stack rest blank _ := by
    rw [List.cons_append, List.append_assoc, List.singleton_append]
    cases lists with
    | done blank' => exact leads_emptyArray blank blank'
    | @next _ _ item items text lead more =>
      cases lead with
      | first blank' =>
        obtain ⟨here, later⟩ := List.forall_mem_cons.mp skipped
        obtain ⟨c, cs, eq, solid, some, -⟩ := here.begins
        have value := here.leads [] (.list :: stack) _ blank_nil (more.apart rest)
        simp only [eq, List.append_assoc, List.cons_append, List.nil_append] at value ⊢
        exact (leads_array blank blank' solid some).trans
          (value.trans (more.leads_rest later stack rest))

/-- What is left of an object behind a member. -/
lemma Members.leads_rest {members : List (Unit × List Char)}
    (lists : Members (fun name _ => Escaped name) false members text)
    (skipped : ∀ member ∈ members, Skipped member.2) (stack : List Frame) (rest : List Char) :
    Leads (.record :: stack) .more (text ++ '\x7d' :: rest) stack .more rest := by
  induction members generalizing text with
  | nil =>
    cases lists with
    | done blank => exact leads_close .record blank
  | cons member members ih =>
    obtain ⟨here, later⟩ := List.forall_mem_cons.mp skipped
    cases lists with
    | next lead escaped blank₂ blank₃ more =>
      cases lead with
      | next blank blank₁ =>
        have value := here.leads _ (.record :: stack) _ blank₃ (more.apart rest)
        have steps := (leads_member blank blank₁ escaped blank₂).trans
          (value.trans (ih more later))
        simpa only [List.append_assoc, List.cons_append] using steps

/-- An object. -/
lemma Members.skipped {members : List (Unit × List Char)}
    (lists : Members (fun name _ => Escaped name) true members text)
    (skipped : ∀ member ∈ members, Skipped member.2) :
    Skipped ('\x7b' :: (text ++ ['\x7d'])) where
  begins := ⟨'\x7b', _, rfl, by decide, by decide, by decide⟩
  leads gap stack rest blank _ := by
    rw [List.cons_append, List.append_assoc, List.singleton_append]
    cases lists with
    | done blank' => exact leads_emptyObject blank blank'
    | next lead escaped blank₂ blank₃ more =>
      cases lead with
      | first blank₁ =>
        obtain ⟨here, later⟩ := List.forall_mem_cons.mp skipped
        have value := here.leads _ (.record :: stack) _ blank₃ (more.apart rest)
        have steps := (leads_object blank blank₁ escaped blank₂).trans
          (value.trans (more.leads_rest later stack rest))
        simpa only [List.append_assoc, List.cons_append] using steps

lemma Skipped.of_scalar {c : Char} {cs : List Char} (solid : isBlank c = false)
    (inner : c ∉ ['[', ']', '\x7b', '\x7d'])
    (skips : ∀ rest, Apart rest → skipScalar c (cs ++ rest) = .ok rest) : Skipped (c :: cs) where
  begins := by
    simp only [List.mem_cons, List.not_mem_nil, or_false, not_or] at inner
    exact ⟨c, cs, rfl, solid, inner.2.1, inner.2.2.2⟩
  leads gap stack rest blank apart := by
    simp only [List.mem_cons, List.not_mem_nil, or_false, not_or] at inner
    apply leads_scalar blank solid inner.1 inner.2.2.1 (skips rest apart)
    rw [List.length_append]
    omega

lemma Escaped.skipped (escaped : Escaped text) : Skipped ('"' :: (text ++ ['"'])) := by
  apply Skipped.of_scalar (by decide) (by decide)
  intro rest _
  rw [List.append_assoc, List.singleton_append]
  exact skipText_escaped escaped rest

lemma IsNumber.skipped (number : IsNumber text) : Skipped text := by
  obtain @⟨sign, whole, places, exponent, signed, row, leading, behind, tail⟩ := number
  have skips : ∀ rest, Apart rest →
      skipNumber (whole ++ (places ++ exponent) ++ rest) = .ok rest := by
    intro rest apart
    rw [List.append_assoc, List.append_assoc]
    exact skipNumber_number row leading behind tail apart
  simp only [List.mem_cons, List.not_mem_nil, or_false] at signed
  rcases signed with rfl | rfl
  · obtain ⟨d, ds, rfl, digit, -⟩ := row.exists_cons
    have other : ∀ c : Char, c.isDigit = false → d ≠ c := fun _ => ne_of_isDigit digit
    simp only [List.nil_append, List.cons_append] at skips ⊢
    apply Skipped.of_scalar (isBlank_of_isDigit digit)
    · simp only [List.mem_cons, List.not_mem_nil, or_false, not_or]
      exact ⟨other _ (by decide), other _ (by decide), other _ (by decide), other _ (by decide)⟩
    · intro rest apart
      rw [skipScalar, if_neg (other _ (by decide)), if_neg (other _ (by decide)),
        if_neg (other _ (by decide)), if_neg (other _ (by decide)), if_neg (other _ (by decide)),
        if_pos digit]
      exact skips rest apart
  · exact Skipped.of_scalar (by decide) (by decide) skips

/-- Every well-formed value is passed over. -/
lemma WellFormed.skipped (wellFormed : WellFormed text) : Skipped text := by
  induction wellFormed with
  | word known =>
    simp only [List.mem_cons, List.not_mem_nil, or_false] at known
    rcases known with rfl | rfl | rfl
    all_goals exact Skipped.of_scalar (by decide) (by decide) fun rest _ => rfl
  | number number => exact number.skipped
  | string escaped => exact escaped.skipped
  | array items _ ih => exact items.skipped ih
  | object members _ ih => exact members.skipped ih

lemma skipValue_wellFormed (wellFormed : WellFormed text) (blank : Blank gap) {rest : List Char}
    (apart : Apart rest) : skipValue (gap ++ (text ++ rest)) = .ok rest := by
  obtain ⟨fuel', -, eq⟩ :=
    wellFormed.skipped.leads gap [] rest blank apart (gap ++ (text ++ rest)) (Nat.le_refl _)
  rw [skipValue, eq]
  cases fuel' <;> rfl

end Values

end LogFanout.Json
