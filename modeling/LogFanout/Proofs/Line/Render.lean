import LogFanout.Line.Render
import LogFanout.Proofs.Calendar.Instant
import LogFanout.Proofs.Line.Buffer
import LogFanout.Proofs.Text.ByteOrder

/-!
# What a line shows

A line is told by the text of its message, laid out with the tag, the letter of the level and the
time: the first bytes of that text, without the newlines at their end, and one newline
(`render_shows`). Newlines are dropped behind the time only, so that two lines of one message that
are not cut differ if the times that they show do (`render_eq_iff`).
-/

namespace LogFanout

/-- The letters of the levels in the order of their numbers; other numbers have a `U`. -/
lemma Level.letterOfRank_eq (rank : UInt8) :
    letterOfRank rank = ['V', 'D', 'I', 'W', 'E'].getD rank.toNat 'U' := by
  rw [letterOfRank, ofRank?]
  split_ifs with verbose debug info warning error
  · rw [verbose]
    rfl
  · rw [debug]
    rfl
  · rw [info]
    rfl
  · rw [warning]
    rfl
  · rw [error]
    rfl
  · simp only [← UInt8.toNat_inj] at verbose debug info warning error
    have beyond : 5 ≤ rank.toNat := by
      simp only [UInt8.reduceToNat] at *
      omega
    rw [List.getD_eq_getElem?_getD, List.getElem?_eq_none beyond]
    rfl

namespace Message

/-- The text of a line before it is cut: the tag, the letter of the level, the time up to the
microsecond and the message. -/
def layout (message : Message) (offset : Int) (now : Instant) : String :=
  message.tag ++ "/" ++ String.singleton (['V', 'D', 'I', 'W', 'E'].getD message.rank.toNat 'U')
    ++ "  [" ++ now.stamp offset ++ "." ++ Text.decimal (min (now.nanos / 1000) 999999) ++ "]  "
    ++ message.text

lemma join_pieces (message : Message) (offset : Int) (now : Instant) :
    String.join (message.header offset now ++ [message.text]) = message.layout offset now := by
  simp only [header, layout, Level.letterOfRank_eq, List.cons_append, List.nil_append,
    String.join_cons, String.join_nil, String.append_empty, String.append_assoc]
  rfl

/-- The state of the buffer when the text of a line was written to it. -/
lemma holds_layout (message : Message) (capacity : Nat) (offset : Int) (now : Instant) :
    LineBuffer.Holds capacity (Text.utf8 (message.layout offset now))
      ((LineBuffer.ofCapacity capacity).writeAll
        (message.header offset now ++ [message.text])) := by
  rw [← join_pieces]
  exact LineBuffer.writeAll_holds capacity _

/-- Whether the text of a line is too long for it. -/
def isCut (message : Message) (capacity : Nat) (offset : Int) (now : Instant) : Bool :=
  ((LineBuffer.ofCapacity capacity).writeAll
    (message.header offset now ++ [message.text])).truncated

/-- The text of a line before the time. -/
def front (message : Message) : String :=
  message.tag ++ "/" ++ String.singleton (['V', 'D', 'I', 'W', 'E'].getD message.rank.toNat 'U')
    ++ "  ["

lemma layout_eq (message : Message) (offset : Int) (now : Instant) :
    message.layout offset now = message.front ++ now.shown offset ++ "]  " ++ message.text := by
  simp only [layout, front, Instant.shown, Instant.micros, Instant.maxMicros, String.append_assoc]

/-- A line that is not cut shows all of its text, but for newlines at the end. -/
lemma render_of_whole {message : Message} {capacity : Nat} {offset : Int} {now : Instant}
    (whole : message.isCut capacity offset now = false) :
    message.render capacity offset now =
      Text.utf8 message.front ++ (Text.utf8 (now.shown offset) ++
        93 :: 32 :: 32 :: (LineBuffer.dropNewlines (Text.utf8 message.text) ++
          [LineBuffer.newline])) := by
  have holds := message.holds_layout capacity offset now
  have short := of_decide_eq_false (holds.truncated.symm.trans whole)
  have bracket : Text.utf8 "]  " = [93, 32, 32] := by decide
  -- The blank in front of the message is the last byte that no newline is dropped before.
  have blank : (32 : UInt8) ≠ LineBuffer.newline := by decide
  have kept := LineBuffer.dropNewlines_append
    (Text.utf8 message.front ++ Text.utf8 (now.shown offset) ++ [93, 32]) blank
    (Text.utf8 message.text)
  rw [render, LineBuffer.finish, holds.content, List.take_of_length_le (Nat.not_lt.mp short),
    layout_eq]
  simp only [Text.utf8_append, bracket]
  simp only [List.append_assoc, List.cons_append, List.nil_append] at kept ⊢
  rw [kept]
  simp only [List.append_assoc, List.cons_append]

/-- Lines of one message that are not cut are equal if their instants fall in the same microsecond,
and only then; the dates that they show are those of the calendar. -/
theorem render_eq_iff {message : Message} {capacity : Nat} {offset : Int} {a b : Instant}
    (regularA : a.nanos < 1000000000) (regularB : b.nanos < 1000000000)
    (wholeA : message.isCut capacity offset a = false)
    (wholeB : message.isCut capacity offset b = false) :
    Date.Gregorian Date.ofDayNumber ∧
    (message.render capacity offset a = message.render capacity offset b ↔
      a.microsecond = b.microsecond) := by
  refine ⟨Date.gregorian_ofDayNumber, ?_⟩
  rw [← Instant.shown_eq_iff regularA regularB, render_of_whole wholeA, render_of_whole wholeB,
    List.append_right_inj, List.append_left_inj, Text.utf8_inj]

theorem render_eq_iff_midnight :
    let message : Message := ⟨2, "T", "new\nyear\n"⟩
    message.isCut 64 3600 ⟨253402297199, 999999999⟩ = false ∧
    message.isCut 64 3600 ⟨253402297200, 0⟩ = false ∧
    message.render 64 3600 ⟨253402297199, 999999999⟩ ≠
      message.render 64 3600 ⟨253402297200, 0⟩ := by
  intro message
  have a : message.isCut 64 3600 ⟨253402297199, 999999999⟩ = false := by decide
  have b : message.isCut 64 3600 ⟨253402297200, 0⟩ = false := by decide
  refine ⟨a, b, fun same => ?_⟩
  have together := (render_eq_iff (by decide) (by decide) a b).2.mp same
  exact absurd together (by decide)

end Message

end LogFanout
