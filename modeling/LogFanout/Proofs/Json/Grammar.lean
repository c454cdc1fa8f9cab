import LogFanout.Proofs.Json.Spelling

/-!
# The grammar of JSON

The texts between the brackets of an array (`Items`) and between the braces of an object (`Members`)
are taken apart into those of their values; blanks may stand anywhere between them. A text is a
well-formed value if all its parts are (`WellFormed`), whatever it means.
-/

namespace LogFanout.Json

/-- A text of blanks only. -/
def Blank (gap : List Char) : Prop :=
  ∀ c ∈ gap, isBlank c = true

/-- A text that does not continue a number that stands in front of it. -/
def Apart (rest : List Char) : Prop :=
  ∀ c ∈ rest.head?, c.isDigit = false ∧ c ≠ '.' ∧ c ≠ 'e' ∧ c ≠ 'E'

/-- What stands in front of a member or an item: blanks, with a comma among them unless it is the
first one. -/
inductive Lead : (first : Bool) → List Char → Prop where
  | first {gap} :
    Blank gap →
    Lead true gap
  | next {gap gap'} :
    Blank gap →
    Blank gap' →
    Lead false (gap ++ ',' :: gap')

/-- The texts of the items of an array, and the text of the array behind its opening bracket or
behind an item. -/
inductive Items : (first : Bool) → List (List Char) → List Char → Prop where
  | done {first gap} :
    Blank gap →
    Items first [] gap
  | next {first lead item items text} :
    Lead first lead →
    Items false items text →
    Items first (item :: items) (lead ++ item ++ text)

/-- The members of an object, each with the text of its value, and the text of the object behind its
opening brace or behind a member. What stands between the quotes of a name goes with it by `names`.
-/
inductive Members {κ : Type} (names : List Char → κ → Prop) :
    (first : Bool) → List (κ × List Char) → List Char → Prop where
  | done {first gap} :
    Blank gap →
    Members names first [] gap
  | next {first lead name key gap gap' value members text} :
    Lead first lead →
    names name key →
    Blank gap →
    Blank gap' →
    Members names false members text →
    Members names first ((key, value) :: members)
      (lead ++ '"' :: (name ++ '"' :: (gap ++ ':' :: (gap' ++ value))) ++ text)

/-- What may stand between quotes. -/
inductive Escaped : List Char → Prop where
  | nil :
    Escaped []
  | plain {c text} :
    c ≠ '"' →
    c ≠ '\\' →
    ¬c.toNat < 0x20 →
    Escaped text →
    Escaped (c :: text)
  | letter {d c text} :
    (d, c) ∈ letters →
    Escaped text →
    Escaped ('\\' :: d :: text)
  | code {digits n text} :
    Hex digits n →
    Escaped text →
    Escaped ('\\' :: 'u' :: (digits ++ text))

/-- A row of digits. -/
structure Digits (digits : List Char) : Prop where
  some : digits ≠ []
  all : ∀ c ∈ digits, c.isDigit = true

/-- The exponent of a number, if it has one. -/
inductive Exponent : List Char → Prop where
  | none :
    Exponent []
  | digits {e sign digits} :
    e ∈ ['e', 'E'] →
    sign ∈ [[], ['+'], ['-']] →
    Digits digits →
    Exponent (e :: (sign ++ digits))

/-- The places behind the point of a number, if it has one. -/
inductive Places : List Char → Prop where
  | none :
    Places []
  | digits {digits} :
    Digits digits →
    Places ('.' :: digits)

/-- A number: no zero stands in front of other digits. -/
inductive IsNumber : List Char → Prop where
  | mk {sign whole places exponent} :
    sign ∈ [[], ['-']] →
    Digits whole →
    (∀ more, whole = '0' :: more → more = []) →
    Places places →
    Exponent exponent →
    IsNumber (sign ++ (whole ++ (places ++ exponent)))

/-- A well-formed value. -/
inductive WellFormed : List Char → Prop where
  | word {text} :
    text ∈ [['n', 'u', 'l', 'l'], ['t', 'r', 'u', 'e'], ['f', 'a', 'l', 's', 'e']] →
    WellFormed text
  | number {text} :
    IsNumber text →
    WellFormed text
  | string {text} :
    Escaped text →
    WellFormed ('"' :: (text ++ ['"']))
  | array {items text} :
    Items true items text →
    (∀ item ∈ items, WellFormed item) →
    WellFormed ('[' :: (text ++ [']']))
  | object {members : List (Unit × List Char)} {text} :
    Members (fun name _ => Escaped name) true members text →
    (∀ member ∈ members, WellFormed member.2) →
    WellFormed ('\x7b' :: (text ++ ['\x7d']))

lemma blank_nil : Blank [] := by
  intro c mem
  cases mem

lemma apart_nil : Apart [] := by
  intro c mem
  cases mem

lemma dropBlank_append {gap : List Char} (blank : Blank gap) {c : Char} (solid : isBlank c = false)
    (cs : List Char) : dropBlank (gap ++ c :: cs) = c :: cs := by
  rw [dropBlank, List.dropWhile_append_of_pos blank, List.dropWhile_cons, solid]
  rfl

lemma readColon_append {gap : List Char} (blank : Blank gap) (rest : List Char) :
    readColon (gap ++ ':' :: rest) = .ok rest := by
  rw [readColon, dropBlank_append blank (by decide)]
  rfl

lemma isBlank_of_isDigit {c : Char} (digit : c.isDigit = true) : isBlank c = false := by
  by_contra blank
  simp only [isBlank, Bool.not_eq_false, Bool.or_eq_true, decide_eq_true_eq] at blank
  rcases blank with ((rfl | rfl) | rfl) | rfl
  all_goals cases digit

lemma apart_append {gap : List Char} (blank : Blank gap) {rest : List Char} (apart : Apart rest) :
    Apart (gap ++ rest) := by
  cases gap with
  | nil => exact apart
  | cons c gap =>
    intro d mem
    obtain rfl : c = d := Option.some.inj mem
    have here : isBlank c = true := blank c List.mem_cons_self
    simp only [isBlank, Bool.or_eq_true, decide_eq_true_eq] at here
    rcases here with ((rfl | rfl) | rfl) | rfl
    all_goals decide

lemma apart_cons {c : Char} (mark : c ∈ [',', ']', '\x7d']) (cs : List Char) : Apart (c :: cs) := by
  intro d mem
  obtain rfl : c = d := Option.some.inj mem
  simp only [List.mem_cons, List.not_mem_nil, or_false] at mark
  rcases mark with rfl | rfl | rfl
  all_goals decide

lemma Items.apart {items : List (List Char)} {text : List Char} (lists : Items false items text)
    (rest : List Char) : Apart (text ++ ']' :: rest) := by
  cases lists with
  | done blank => exact apart_append blank (apart_cons (by decide) _)
  | next lead =>
    cases lead with
    | next blank =>
      simp only [List.append_assoc, List.cons_append]
      exact apart_append blank (apart_cons (by decide) _)

lemma Members.apart {κ : Type} {names : List Char → κ → Prop} {members : List (κ × List Char)}
    {text : List Char} (lists : Members names false members text) (rest : List Char) :
    Apart (text ++ '\x7d' :: rest) := by
  cases lists with
  | done blank => exact apart_append blank (apart_cons (by decide) _)
  | next lead =>
    cases lead with
    | next blank =>
      simp only [List.append_assoc, List.cons_append]
      exact apart_append blank (apart_cons (by decide) _)

end LogFanout.Json
