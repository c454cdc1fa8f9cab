import LogFanout.Blueprint.Toml
import LogFanout.Proofs.Toml.Document
import LogFanout.Proofs.Toml.Scalar
import LogFanout.Proofs.Toml.Text

/-!
# Reading lines back

A line with a key and a value gives an entry of a table (`Lines`), and a line with a name between
brackets begins another section (`Parts`). A document of such lines is read as the sections that it
consists of.
-/

namespace LogFanout.Toml

/-- A key that is written without quotes. -/
structure Bare (key : String) : Prop where
  nonempty : key.toList ≠ []
  all : ∀ c ∈ key.toList, isBare c = true

-- One test of booleans: a bound on characters would be decided by going through all of them.
instance (key : String) : Decidable (Bare key) :=
  decidable_of_iff ((!key.toList.isEmpty && key.toList.all isBare) = true) <| by
    rw [Bool.and_eq_true, List.all_eq_true, Bool.not_eq_true', List.isEmpty_eq_false_iff]
    exact ⟨fun both => ⟨both.1, both.2⟩, fun bare => ⟨bare.nonempty, bare.all⟩⟩

/-- A text is read as a value with some content up to the end of its line. -/
def Reads (text : List Char) (content : Content) : Prop :=
  ∀ rest, dropBlank (text ++ '\n' :: rest) = text ++ '\n' :: rest ∧
    ∃ node value, readValue maxDepth (text ++ '\n' :: rest) = .ok (node, '\n' :: rest) ∧
      node.toValue = .ok value ∧ value.content = content

section Keys

lemma solid_of_isBare {c : Char} (bare : isBare c = true) : Solid c :=
  solid_of_marks rfl bare

lemma begins_bare {key : String} (bare : Bare key) :
    ∃ c cs, key.toList = c :: cs ∧ isBare c = true := by
  obtain ⟨c, cs, eq⟩ := List.exists_cons_of_ne_nil bare.nonempty
  exact ⟨c, cs, eq, bare.all c (eq ▸ List.mem_cons_self)⟩

/-- A key without quotes is read up to a blank or a bracket. -/
lemma readRoute_bare {key : String} (bare : Bare key) {d : Char} {rest : List Char}
    (ends : (isBreak d || isBlank d) = true) (alone : (dropBlank (d :: rest)).head? ≠ some '.') :
    ∃ span, readRoute (key.toList ++ d :: rest) = (⟨[], .ok ⟨key, span⟩⟩, d :: rest) := by
  have all : ∀ c ∈ key.toList, (!isBreak c && !isBlank c && decide (c ≠ '.')) = true := by
    intro c mem
    have solid := solid_of_isBare (bare.all c mem)
    simp [solid.inner, solid.solid, solid.point]
  have stops : ∀ c ∈ (d :: rest).head?, (!isBreak c && !isBlank c && decide (c ≠ '.')) = false := by
    intro c mem
    obtain rfl : d = c := Option.some.inj mem
    rcases Bool.or_eq_true_iff.mp ends with inner | blank
    · simp [inner]
    · simp [blank]
  have name := (Text.span_append all stops).1
  have part : readKeyPart (key.toList ++ d :: rest) =
      (.ok ⟨key, key.toList ++ d :: rest, d :: rest⟩, d :: rest) := by
    obtain ⟨c, cs, eq, first⟩ := begins_bare bare
    have solid := solid_of_isBare first
    have front : dropBlank (key.toList ++ d :: rest) = c :: (cs ++ d :: rest) := by
      rw [eq, List.cons_append, dropBlank, List.dropWhile_cons, solid.solid]
      rfl
    have whole : c :: (cs ++ d :: rest) = key.toList ++ d :: rest := by
      rw [eq, List.cons_append]
    rw [readKeyPart, front]
    simp only [solid.inner, Bool.false_eq_true, solid.point, or_self, if_false, solid.bare, whole,
      readBareKey, name, Text.dropWhile_run bare.all, List.drop_left, String.ofList_toList]
  have parts : readKeyParts (d :: rest) (d :: rest) = ([], d :: rest) := by
    rw [readKeyParts]
    split
    · rename_i eq
      rw [eq] at alone
      exact absurd rfl alone
    · rfl
  refine ⟨⟨key.toList ++ d :: rest, d :: rest⟩, ?_⟩
  simp only [readRoute, part, parts]
  rfl

end Keys

section Values

/-- What begins neither an array nor a table is read as a scalar. -/
lemma reads_scalar {text : List Char} {value : Scalar}
    (reads : ∀ rest, ∃ c cs, text ++ '\n' :: rest = c :: cs ∧ isBreak c = false ∧
      isBlank c = false ∧ readScalar c cs = (.ok value, '\n' :: rest)) :
    Reads text (.scalar value) := by
  intro rest
  obtain ⟨c, cs, eq, inner, solid, read⟩ := reads rest
  have list : c ≠ '[' := ne_of_isBreak inner rfl
  have table : c ≠ '\x7b' := ne_of_isBreak inner rfl
  have leaf : noValue? c = none := by
    rw [noValue?, if_neg (ne_of_isBreak inner rfl), if_neg (ne_of_isBreak inner rfl),
      if_neg (ne_of_isBreak inner rfl)]
  rw [eq]
  refine ⟨?_, .scalar ⟨c :: cs, '\n' :: rest⟩ (.ok value), .scalar _ value, ?_, rfl, rfl⟩
  · rw [dropBlank, List.dropWhile_cons, solid]
    rfl
  · simp only [maxDepth, readValue, list, table, if_false, readValue.readLeaf, leaf, read]

lemma reads_text (s : String) : Reads (writeText s) (.scalar (.text s)) := by
  apply reads_scalar
  intro rest
  have ends : ∀ c ∈ ('\n' :: rest).head?, isQuote c = false := by
    intro c mem
    obtain rfl : '\n' = c := Option.some.inj mem
    rfl
  obtain ⟨c, cs, eq, quote, read⟩ := readScalar_writeText s ends
  refine ⟨c, cs, eq, ?_, ?_, read⟩
  all_goals
    simp only [isQuote, Bool.or_eq_true, decide_eq_true_eq] at quote
    rcases quote with rfl | rfl <;> rfl

/-- A text without quotes is read as a value. -/
lemma reads_bare {text : List Char} {value : Scalar} (nonempty : text ≠ [])
    (all : ∀ c ∈ text, Solid c) (reads : readBare text = .ok value) :
    Reads text (.scalar value) := by
  apply reads_scalar
  intro rest
  obtain ⟨c, cs, rfl⟩ := List.exists_cons_of_ne_nil nonempty
  have here := all c List.mem_cons_self
  exact ⟨c, cs ++ '\n' :: rest, rfl, here.inner, here.solid, readScalar_bare all reads rest⟩

lemma reads_integer (n : Int) :
    Reads (Text.decimalInt n).toList (.scalar (.integer (some n))) :=
  reads_bare (decimalInt_ne_nil n) (solid_decimalInt n) (readBare_decimalInt n)

lemma reads_boolean (b : Bool) : Reads (writeBoolean b) (.scalar (.boolean b)) := by
  have bare : (writeBoolean b).all isBare = true := by
    cases b <;> rfl
  have read : readBare (writeBoolean b) = .ok (.boolean b) := by
    cases b <;> rfl
  have nonempty : writeBoolean b ≠ [] := by
    cases b <;> exact List.cons_ne_nil _ _
  exact reads_bare nonempty (fun c mem => solid_of_isBare (List.all_eq_true.mp bare c mem)) read

lemma reads_empty : Reads ['[', ']'] (.list []) := by
  intro rest
  refine ⟨rfl, .list _ [], .list _ [], rfl, rfl, rfl⟩

end Values

/-- A line with a key and a value gives an entry. -/
lemma readItem_entryLine {key : String} {text : List Char} {content : Content} (bare : Bare key)
    (reads : Reads text content) (rest : List Char) :
    ∃ item, readItem (entryLine key text ++ rest) = .ok (item, rest) ∧
      Gives item (key, content) := by
  obtain ⟨front, node, value, read, toValue, same⟩ := reads rest
  have line : entryLine key text ++ rest =
      key.toList ++ ' ' :: '=' :: ' ' :: (text ++ '\n' :: rest) := by
    simp [entryLine]
  have equals : dropBlank (' ' :: '=' :: ' ' :: (text ++ '\n' :: rest)) =
      '=' :: ' ' :: (text ++ '\n' :: rest) := rfl
  have blank : dropBlank (' ' :: (text ++ '\n' :: rest)) = text ++ '\n' :: rest := front
  have alone : (dropBlank (' ' :: '=' :: ' ' :: (text ++ '\n' :: rest))).head? ≠ some '.' := by
    rw [equals]
    simp
  obtain ⟨span, route⟩ := readRoute_bare bare rfl alone
  have ended : endLine ('\n' :: rest) = .ok rest := rfl
  refine ⟨(⟨[], .ok ⟨key, span⟩⟩, node), ?_, span, value, rfl, toValue, same⟩
  rw [line]
  simp only [readItem, route, equals, blank, read, ended, bind, Except.bind]

/-- A line with a header, after an empty line. -/
def headerLine (repeated : Bool) (name : String) : List Char :=
  '\n' :: '[' :: ((if repeated then ['['] else []) ++ name.toList ++ ']' ::
    ((if repeated then [']'] else []) ++ ['\n']))

/-- A name between brackets gives a header. -/
lemma readHeader_append {name : String} (bare : Bare name) (repeated : Bool)
    (start rest : List Char) :
    ∃ header span, readHeader repeated start
        (name.toList ++ ']' :: ((if repeated then [']'] else []) ++ '\n' :: rest)) =
        .ok (header, rest) ∧
      header.repeated = repeated ∧ header.route.read = .ok ([], ⟨name, span⟩) := by
  have alone : (dropBlank (']' :: ((if repeated then [']'] else []) ++ '\n' :: rest))).head? ≠
      some '.' := by
    simp [dropBlank, isBlank]
  obtain ⟨span, route⟩ := readRoute_bare bare rfl alone
  refine ⟨⟨repeated, ⟨[], .ok ⟨name, span⟩⟩, start, '\n' :: rest⟩, span, ?_, rfl, rfl⟩
  simp only [readHeader, route]
  cases repeated with
  | false => rfl
  | true => rfl

/-- Lines with the entries of a table. -/
inductive Lines : List Char → List (String × Content) → Prop where
  | nil :
    Lines [] []
  | cons {key text content lines data} :
    Bare key →
    Reads text content →
    Lines lines data →
    Lines (entryLine key text ++ lines) ((key, content) :: data)

/-- Blocks of lines, each with its header. -/
inductive Blocks : List Char → List Block → Prop where
  | nil :
    Blocks [] []
  | cons {repeated name lines data text blocks} :
    Bare name →
    Lines lines data →
    (data.map Prod.fst).Nodup →
    Blocks text blocks →
    Blocks (headerLine repeated name ++ (lines ++ text)) (⟨repeated, name, data⟩ :: blocks)

lemma Lines.append {lines lines' : List Char} {data data' : List (String × Content)}
    (first : Lines lines data) (second : Lines lines' data') :
    Lines (lines ++ lines') (data ++ data') := by
  induction first with
  | nil => exact second
  | cons bare reads _ ih =>
    rw [List.append_assoc]
    exact .cons bare reads ih

lemma Lines.one {key : String} {text : List Char} {content : Content} (bare : Bare key)
    (reads : Reads text content) : Lines (entryLine key text) [(key, content)] := by
  rw [← List.append_nil (entryLine key text)]
  exact .cons bare reads .nil

lemma dropGap_solid {c : Char} (solid : Solid c) (cs : List Char) :
    dropGap (c :: cs) = .ok (c :: cs) := by
  have newline : c ≠ '\n' := ne_of_isBreak solid.inner rfl
  have carriage : c ≠ '\r' := ne_of_isBreak solid.inner rfl
  have comment : c ≠ '#' := ne_of_isBreak solid.inner rfl
  rw [dropGap, dropGapFrom]
  · simp [solid.solid, comment]
  · exact newline
  · exact fun _ eq => absurd eq carriage
  · exact carriage

/-- Lines add their entries to the section that they stand in. -/
lemma Lines.readSections {lines : List Char} {data : List (String × Content)}
    (gives : Lines lines data) (done : List Section) (current : Section) (rest : List Char)
    {fuel : List Char} (enough : (lines ++ rest).length ≤ fuel.length) :
    ∃ items fuel', List.Forall₂ Gives items data ∧ rest.length ≤ fuel'.length ∧
      readSections fuel done current (lines ++ rest) =
        readSections fuel' done { current with items := items.reverse ++ current.items } rest := by
  induction gives generalizing current fuel with
  | nil => exact ⟨[], fuel, .nil, enough, rfl⟩
  | @cons key text content lines data bare reads _ ih =>
    obtain ⟨item, read, given⟩ := readItem_entryLine bare reads (lines ++ rest)
    obtain ⟨c, cs, eq, plain⟩ := begins_bare bare
    have solid := solid_of_isBare plain
    have opening : c ≠ '[' := ne_of_isBreak solid.inner rfl
    have closing : c ≠ ']' := ne_of_isBreak solid.inner rfl
    have begins : beginsEntry c = true := by
      simp [beginsEntry, solid.inner]
    -- A line costs one character of fuel, and has more.
    have line : ∃ tail, entryLine key text ++ (lines ++ rest) = c :: tail ∧
        (lines ++ rest).length ≤ tail.length := by
      refine ⟨cs ++ ' ' :: '=' :: ' ' :: (text ++ '\n' :: (lines ++ rest)), ?_, ?_⟩
      · simp [entryLine, eq]
      · simp
        omega
    obtain ⟨tail, line, shorter⟩ := line
    rw [line] at read
    rw [List.append_assoc, line] at enough ⊢
    cases fuel with
    | nil => cases enough
    | cons d fuel =>
      have enough' : (lines ++ rest).length ≤ fuel.length := by
        simp only [List.length_cons] at enough
        omega
      obtain ⟨items, fuel', given', left, sections⟩ :=
        ih { current with items := item :: current.items } enough'
      refine ⟨item :: items, fuel', .cons given given', left, ?_⟩
      rw [Toml.readSections]
      simp only [dropGap_solid solid, bind, Except.bind, opening, closing, begins, read, if_false,
        if_true, sections, List.reverse_cons, List.append_assoc, List.singleton_append]

/-- A header begins a section. -/
lemma readSections_headerLine {name : String} (bare : Bare name) (repeated : Bool) (d : Char)
    (fuel : List Char) (done : List Section) (current : Section) (rest : List Char) :
    ∃ header span, header.repeated = repeated ∧ header.route.read = .ok ([], ⟨name, span⟩) ∧
      readSections (d :: fuel) done current (headerLine repeated name ++ rest) =
        readSections fuel (current.finish :: done) ⟨some header, []⟩ rest := by
  cases repeated with
  | true =>
    have line : headerLine true name ++ rest =
        '\n' :: '[' :: '[' :: (name.toList ++ ']' :: ([']'] ++ '\n' :: rest)) := by
      simp [headerLine]
    obtain ⟨header, span, read, tells⟩ := readHeader_append bare true
      ('[' :: '[' :: (name.toList ++ ']' :: ([']'] ++ '\n' :: rest))) rest
    have gap : ∀ cs, dropGap ('\n' :: '[' :: cs) = .ok ('[' :: cs) := fun _ => rfl
    refine ⟨header, span, tells.1, tells.2, ?_⟩
    simp only [if_true] at read
    rw [Toml.readSections, line]
    simp only [gap, bind, Except.bind, if_true, read]
  | false =>
    obtain ⟨c, cs, eq, plain⟩ := begins_bare bare
    have line : headerLine false name ++ rest =
        '\n' :: '[' :: (name.toList ++ ']' :: '\n' :: rest) := by
      simp [headerLine]
    obtain ⟨header, span, read, tells⟩ := readHeader_append bare false
      ('[' :: (name.toList ++ ']' :: '\n' :: rest)) rest
    have gap : ∀ cs, dropGap ('\n' :: '[' :: cs) = .ok ('[' :: cs) := fun _ => rfl
    -- A name does not begin with a bracket, so this is no double one.
    have single : ∀ inner, name.toList ++ ']' :: '\n' :: rest ≠ '[' :: inner := by
      intro inner same
      rw [eq] at same
      cases same
      cases plain
    refine ⟨header, span, tells.1, tells.2, ?_⟩
    simp only [Bool.false_eq_true, if_false, List.nil_append] at read
    rw [Toml.readSections, line]
    simp only [gap, bind, Except.bind, if_true, read]

/-- Blocks are read as sections that follow the one before them. -/
lemma Blocks.readSections {text : List Char} {blocks : List Block} (parts : Blocks text blocks)
    (done : List Section) (current : Section) {fuel : List Char}
    (enough : text.length ≤ fuel.length) :
    ∃ sections, List.Forall₂ Section.Fills sections blocks ∧
      readSections fuel done current text = .ok (done.reverse ++ current.finish :: sections) := by
  induction parts generalizing done current fuel with
  | nil =>
    refine ⟨[], .nil, ?_⟩
    have gap : dropGap [] = .ok [] := rfl
    cases fuel with
    | nil => simp [Toml.readSections, gap, bind, Except.bind]
    | cons d fuel => simp [Toml.readSections, gap, bind, Except.bind]
  | @cons repeated name lines data text blocks bare gives distinct _ ih =>
    cases fuel with
    | nil => cases enough
    | cons d fuel =>
      have enough' : (lines ++ text).length ≤ fuel.length := by
        simp only [headerLine, List.cons_append, List.length_cons, List.length_append] at enough ⊢
        omega
      obtain ⟨header, span, same, read, begins⟩ :=
        readSections_headerLine bare repeated d fuel done current (lines ++ text)
      obtain ⟨items, fuel', given, left, adds⟩ :=
        gives.readSections (current.finish :: done) ⟨some header, []⟩ text enough'
      obtain ⟨sections, fills, eq⟩ := ih (current.finish :: done) ⟨some header, items.reverse⟩ left
      rw [begins, adds, List.append_nil, eq]
      refine ⟨⟨some header, items⟩ :: sections, .cons ⟨⟨header, span, rfl, same, read⟩, given,
        distinct⟩ fills, ?_⟩
      simp [Section.finish]

/-- Lines, a table and an array of tables make a document with all of them as its entries. -/
lemma parse_blocks {lines text : List Char} {first data : List (String × Content)}
    {name name' : String} {rows : List (List (String × Content))}
    (unmarked : dropByteOrderMark (lines ++ text) = lines ++ text) (gives : Lines lines first)
    (blocks : Blocks text (⟨false, name, data⟩ :: rows.map (⟨true, name', ·⟩)))
    (distinct : ((first ++ (name, .table data) :: tablesEntry name' rows).map Prod.fst).Nodup) :
    ∃ value, parse (lines ++ text) = .ok value ∧
      value.content = .table (first ++ (name, .table data) :: tablesEntry name' rows) := by
  obtain ⟨items, fuel, given, left, adds⟩ :=
    gives.readSections [] ⟨none, []⟩ text (Nat.le_refl (lines ++ text).length)
  obtain ⟨sections, fills, read⟩ := blocks.readSections [] ⟨none, items.reverse⟩ left
  have outline : readSections (lines ++ text) [] ⟨none, []⟩ (lines ++ text) =
      .ok (⟨none, items⟩ :: sections) := by
    rw [adds, List.append_nil, read]
    simp [Section.finish]
  have distinct_first : (first.map Prod.fst).Nodup := by
    rw [List.map_append] at distinct
    exact (List.nodup_append.mp distinct).1
  obtain ⟨root, eq, rfl⟩ := addSection_first given distinct_first
  obtain _ | ⟨table, fills⟩ := fills
  obtain ⟨root', eq', contents'⟩ := addSection_table table (Entries.find?_eq_none distinct)
  rw [List.append_cons, ← contents'] at distinct
  obtain ⟨root'', eq'', contents''⟩ := foldlM_addSection fills distinct
  refine ⟨.table ⟨lines ++ text, []⟩ (entriesToValues root''), ?_, ?_⟩
  · simp only [parse, unmarked, outline, List.foldlM_cons, eq, eq', eq'', bind, Except.bind]
  · rw [List.append_cons, ← contents', ← contents'']
    rfl

end LogFanout.Toml
