import LogFanout.Proofs.Line.Render
import LogFanout.Proofs.Text.Cut

/-!
# Taking a line apart

The tag of a line ends at the first slash, unless it has one itself, and the time that follows it
ends at the first closing bracket. What comes behind is the message, whatever it looks like. So a
line that is not cut tells all that it was made of but for the newlines at the end of its message
(`render_tells`), and these never matter.
-/

namespace LogFanout

namespace Text

/-- No character but the newline itself ends in the byte of a newline. -/
lemma utf8EncodeChar_concat {c : Char} (ne : c ≠ '\n') :
    ∃ front last, String.utf8EncodeChar c = front ++ [last] ∧ last ≠ LineBuffer.newline := by
  have code : c.val.toNat ≠ 10 := fun eq => ne (Char.ext (UInt32.toNat_inj.mp eq))
  have differs : ∀ {n : Nat}, n < 256 → n ≠ 10 → UInt8.ofNat n ≠ LineBuffer.newline := by
    intro n lt ne eq
    have value := congrArg UInt8.toNat eq
    rw [UInt8.toNat_ofNat_of_lt' lt] at value
    exact ne value
  rw [String.utf8EncodeChar]
  split_ifs
  · exact ⟨[], _, rfl, differs (by omega) code⟩
  · exact ⟨[_], _, rfl, differs (by omega) (by omega)⟩
  · exact ⟨[_, _], _, rfl, differs (by omega) (by omega)⟩
  · exact ⟨[_, _, _], _, rfl, differs (by omega) (by omega)⟩

/-- A text without the newlines at its end. -/
def trimmed (text : String) : String :=
  String.ofList (text.toList.rdropWhile (· == '\n'))

lemma utf8_trimmed (text : String) :
    utf8 (trimmed text) = (text.toList.rdropWhile (· == '\n')).flatMap String.utf8EncodeChar := by
  rw [utf8, trimmed, String.toList_ofList]

/-- The newlines at the end of a text are those at the end of its bytes. -/
lemma dropNewlines_utf8 (text : String) :
    LineBuffer.dropNewlines (utf8 text) = utf8 (trimmed text) := by
  rw [utf8_trimmed, utf8]
  induction text.toList using List.reverseRecOn with
  | nil => rfl
  | append_singleton cs c ih =>
    rw [List.flatMap_append, List.flatMap_singleton]
    by_cases line : c = '\n'
    · rw [List.rdropWhile_concat_pos (· == '\n') _ _ (beq_iff_eq.mpr line), ← ih, line]
      exact LineBuffer.dropNewlines_concat _ _
    · obtain ⟨front, last, bytes, ne⟩ := utf8EncodeChar_concat line
      rw [List.rdropWhile_concat_neg (· == '\n') _ _ (mt beq_iff_eq.mp line), List.flatMap_append,
        List.flatMap_singleton, bytes, ← List.append_assoc, LineBuffer.dropNewlines_concat,
        if_neg (mt beq_iff_eq.mp ne)]

/-- The newlines at the end of a text do not matter either if the text is cut, wherever that is. -/
lemma dropNewlines_take (front : Bytes) (text : String) (size : Nat) :
    LineBuffer.dropNewlines ((front ++ utf8 text).take size) =
      LineBuffer.dropNewlines ((front ++ utf8 (trimmed text)).take size) := by
  rw [utf8_trimmed, utf8]
  induction text.toList using List.reverseRecOn with
  | nil => rfl
  | append_singleton cs c ih =>
    by_cases line : c = '\n'
    · rw [List.rdropWhile_concat_pos (· == '\n') _ _ (beq_iff_eq.mpr line), ← ih, line,
        List.flatMap_append, ← List.append_assoc, List.take_append]
      -- The last newline was cut off, or it is dropped.
      cases size - (front ++ cs.flatMap String.utf8EncodeChar).length with
      | zero => rw [List.take_zero, List.append_nil]
      | succ more =>
        have newline : (['\n'].flatMap String.utf8EncodeChar).take (more + 1) =
            [LineBuffer.newline] := List.take_of_length_le (Nat.le_add_left 1 more)
        rw [newline]
        exact (LineBuffer.dropNewlines_concat _ _).trans (if_pos rfl)
    · rw [List.rdropWhile_concat_neg (· == '\n') _ _ (mt beq_iff_eq.mp line)]

end Text

/-- No bracket stands in the time that a line shows. -/
lemma Instant.bracket_not_mem_shown (offset : Int) (instant : Instant) :
    ']' ∉ (instant.shown offset).toList := by
  intro mem
  rw [shown, String.toList_append, String.toList_append, List.append_assoc] at mem
  rcases List.mem_append.mp mem with stamp | mem
  · exact absurd (instant.marked_stamp offset ']' stamp) (by decide)
  rcases List.mem_append.mp mem with dot | micros
  · exact absurd dot (by decide)
  · exact absurd (Text.isDigit_toDigits ']' (Text.toList_decimal _ ▸ micros)) (by decide)

namespace Message

/-- A line that is not cut is a text: the message stands behind the time, and a newline behind it. -/
lemma render_eq_utf8 {message : Message} {capacity : Nat} {offset : Int} {now : Instant}
    (whole : message.isCut capacity offset now = false) :
    message.render capacity offset now =
      Text.utf8 (message.front ++ now.shown offset ++ "]  " ++ Text.trimmed message.text
        ++ "\n") := by
  have bracket : Text.utf8 "]  " = [93, 32, 32] := by decide
  have ending : Text.utf8 "\n" = [LineBuffer.newline] := by decide
  simp only [render_of_whole whole, Text.utf8_append, Text.dropNewlines_utf8, bracket, ending,
    List.append_assoc, List.cons_append, List.nil_append]

/-- A line, cut or not, is that of the message without the newlines at its end. -/
lemma render_eq_dropNewlines (message : Message) (capacity : Nat) (offset : Int) (now : Instant) :
    message.render capacity offset now =
      LineBuffer.dropNewlines ((Text.utf8 (message.front ++ now.shown offset ++ "]  ") ++
        Text.utf8 (Text.trimmed message.text)).take (max capacity 2 - 1)) ++
          [LineBuffer.newline] := by
  have holds := message.holds_layout capacity offset now
  rw [← Text.dropNewlines_take, ← Text.utf8_append, ← layout_eq, render, LineBuffer.finish,
    holds.content, LineBuffer.limit, holds.capacity]
  rfl

/-- The text of a line that is not cut tells its parts. -/
lemma parts_of_text {tagA tagB shownA shownB textA textB : String} {letterA letterB : Char}
    (slashA : '/' ∉ tagA.toList) (slashB : '/' ∉ tagB.toList)
    (bracketA : ']' ∉ shownA.toList) (bracketB : ']' ∉ shownB.toList)
    (eq : tagA ++ "/" ++ String.singleton letterA ++ "  [" ++ shownA ++ "]  " ++ textA ++ "\n" =
      tagB ++ "/" ++ String.singleton letterB ++ "  [" ++ shownB ++ "]  " ++ textB ++ "\n") :
    tagA = tagB ∧ letterA = letterB ∧ shownA = shownB ∧ textA = textB := by
  have lists := congrArg String.toList ((String.append_left_inj _).mp eq)
  have slash : "/".toList = ['/'] := by decide
  have opening : "  [".toList = [' ', ' ', '['] := by decide
  have closing : "]  ".toList = [']', ' ', ' '] := by decide
  simp only [String.toList_append, String.toList_singleton, slash, opening, closing,
    List.append_assoc, List.cons_append, List.nil_append] at lists
  obtain ⟨tags, lists⟩ := Text.append_cons_inj slashA slashB lists
  simp only [List.cons.injEq, true_and] at lists
  obtain ⟨letters, lists⟩ := lists
  obtain ⟨times, lists⟩ := Text.append_cons_inj bracketA bracketB lists
  simp only [List.cons.injEq, true_and] at lists
  exact ⟨String.toList_inj.mp tags, letters, String.toList_inj.mp times,
    String.toList_inj.mp lists⟩

/-- Lines whose tags have no slash and that are not cut are equal exactly if they have the same tag,
the same letter, the same time and, but for newlines at the end, the same message. Then they would
be equal, too, if they were cut, whatever the tags are. -/
theorem render_tells (a b : Message) (offsetA offsetB : Int) (nowA nowB : Instant) :
    let same := a.tag = b.tag ∧ Level.letterOfRank a.rank = Level.letterOfRank b.rank ∧
      nowA.shown offsetA = nowB.shown offsetB ∧ Text.trimmed a.text = Text.trimmed b.text
    (∀ capacityA capacityB, '/' ∉ a.tag.toList → '/' ∉ b.tag.toList →
      a.isCut capacityA offsetA nowA = false → b.isCut capacityB offsetB nowB = false →
      (a.render capacityA offsetA nowA = b.render capacityB offsetB nowB ↔ same)) ∧
    (same → ∀ capacity, a.render capacity offsetA nowA = b.render capacity offsetB nowB) := by
  intro same
  refine ⟨fun capacityA capacityB slashA slashB wholeA wholeB => ?_, ?_⟩
  · rw [render_eq_utf8 wholeA, render_eq_utf8 wholeB, Text.utf8_inj, front, front,
      ← Level.letterOfRank_eq, ← Level.letterOfRank_eq]
    constructor
    · intro eq
      exact parts_of_text slashA slashB (nowA.bracket_not_mem_shown _)
        (nowB.bracket_not_mem_shown _) eq
    · rintro ⟨tag, letter, time, text⟩
      rw [tag, letter, time, text]
  · rintro ⟨tag, letter, time, text⟩ capacity
    rw [render_eq_dropNewlines, render_eq_dropNewlines, front, front, ← Level.letterOfRank_eq,
      ← Level.letterOfRank_eq, tag, letter, time, text]

theorem render_tells_nested :
    let inner : Message := ⟨2, "T", "T/I  [1970-01-01 00:00:00.0]  a/b]  [\n\n"⟩
    let outer : Message := ⟨2, "T", "T/I  [1970-01-01 00:00:00.0]  a/b]  [\n"⟩
    '/' ∉ inner.tag.toList ∧
    inner.isCut 96 3600 .epoch = false ∧ outer.isCut 128 3600 .epoch = false ∧
    inner.render 96 3600 .epoch = outer.render 128 3600 .epoch ∧
    inner.render 40 3600 .epoch = outer.render 40 3600 .epoch := by
  intro inner outer
  have slash : '/' ∉ inner.tag.toList := by decide
  have wholeA : inner.isCut 96 3600 .epoch = false := by decide
  have wholeB : outer.isCut 128 3600 .epoch = false := by decide
  have tells := render_tells inner outer 3600 3600 .epoch .epoch
  have same : inner.tag = outer.tag ∧
      Level.letterOfRank inner.rank = Level.letterOfRank outer.rank ∧
      Instant.epoch.shown 3600 = Instant.epoch.shown 3600 ∧
      Text.trimmed inner.text = Text.trimmed outer.text := ⟨rfl, rfl, rfl, by decide⟩
  exact ⟨slash, wholeA, wholeB, (tells.1 96 128 slash slash wholeA wholeB).mpr same,
    tells.2 same 40⟩

end Message

end LogFanout
