import LogFanout.Line.Buffer
import Mathlib.Data.List.DropRight
import Mathlib.Tactic.Lemma

/-!
# What a line buffer holds

The state of a buffer is told by the bytes that were written to it, in whatever pieces
(`LineBuffer.Holds`): it keeps as many of the first ones as fit. A write takes a buffer that holds
some bytes to one that holds those of the piece, too (`Holds.write`). What is finished is a line
(`Holds.isLine_finish`).
-/

namespace LogFanout

namespace Text

lemma utf8_append (s t : String) : utf8 (s ++ t) = utf8 s ++ utf8 t := by
  rw [utf8, String.toList_append, List.flatMap_append]
  rfl

lemma utf8_join (pieces : List String) : utf8 (String.join pieces) = pieces.flatMap utf8 := by
  induction pieces with
  | nil => rfl
  | cons piece pieces ih => rw [String.join_cons, utf8_append, ih, List.flatMap_cons]

end Text

/-- A line of at most `size` bytes, ended by one newline. -/
structure IsLine (size : Nat) (line : Bytes) : Prop where
  positive : 1 ≤ line.length
  bounded : line.length ≤ size
  ended : line.getLast? = some LineBuffer.newline
  once : line.dropLast.getLast? ≠ some LineBuffer.newline

namespace LineBuffer

/-- The state of a buffer for lines of `capacity` bytes after `bytes` were written to it. -/
structure Holds (capacity : Nat) (bytes : Bytes) (buffer : LineBuffer) : Prop where
  capacity : buffer.capacity = max capacity minCapacity
  content : buffer.content = bytes.take buffer.limit
  truncated : buffer.truncated = decide (buffer.limit < bytes.length)

variable {capacity : Nat} {bytes : Bytes} {buffer : LineBuffer}

lemma holds_ofCapacity (capacity : Nat) : Holds capacity [] (ofCapacity capacity) where
  capacity := rfl
  content := List.take_nil.symm
  truncated := (decide_eq_false (Nat.not_lt_zero _)).symm

/-- A buffer remembers that it has cut a piece. -/
lemma truncated_write {piece : String} (cut : (buffer.write piece).1 = false) :
    (buffer.write piece).2.truncated = true := by
  rw [write] at cut ⊢
  split at cut
  · cases cut
  · rename_i beyond
    rw [if_neg beyond]

namespace Holds

/-- A buffer that has cut a piece is full, and does not notice what comes after it. -/
lemma full (holds : Holds capacity bytes buffer) (beyond : buffer.limit < bytes.length)
    (more : Bytes) : Holds capacity (bytes ++ more) buffer where
  capacity := holds.capacity
  content := by
    rw [holds.content, List.take_append_of_le_length (Nat.le_of_lt beyond)]
  truncated := by
    have beyond' : buffer.limit < (bytes ++ more).length := by
      rw [List.length_append]
      exact Nat.lt_add_right _ beyond
    rw [holds.truncated, decide_eq_true beyond, decide_eq_true beyond']

/-- There is always a byte to keep back for the newline. -/
lemma capacity_pos (holds : Holds capacity bytes buffer) : 1 ≤ buffer.capacity := by
  have least : minCapacity ≤ buffer.capacity := by
    rw [holds.capacity]
    exact Nat.le_max_right _ _
  exact Nat.le_trans (by decide) least

lemma length_le (holds : Holds capacity bytes buffer) : buffer.content.length ≤ buffer.limit := by
  rw [holds.content]
  exact List.length_take_le _ _

lemma room (holds : Holds capacity bytes buffer) : buffer.room = buffer.limit - bytes.length := by
  rw [LineBuffer.room, holds.content, List.length_take]
  omega

lemma write (holds : Holds capacity bytes buffer) (piece : String) :
    Holds capacity (bytes ++ Text.utf8 piece) (buffer.write piece).2 := by
  rw [LineBuffer.write]
  split
  · rename_i fits
    rw [holds.room] at fits
    -- Either all has been kept so far, or the piece is empty.
    by_cases beyond : buffer.limit < bytes.length
    · have empty : Text.utf8 piece = [] := List.eq_nil_of_length_eq_zero (by omega)
      rw [empty, List.append_nil]
      simp only [List.append_nil]
      exact holds
    · have kept : bytes.length ≤ buffer.limit := Nat.not_lt.mp beyond
      have length : (bytes ++ Text.utf8 piece).length ≤ buffer.limit := by
        rw [List.length_append]
        omega
      refine ⟨holds.capacity, ?_, ?_⟩
      · show buffer.content ++ Text.utf8 piece = (bytes ++ Text.utf8 piece).take buffer.limit
        rw [holds.content, List.take_of_length_le kept, List.take_of_length_le length]
      · show buffer.truncated = decide (buffer.limit < (bytes ++ Text.utf8 piece).length)
        rw [holds.truncated, decide_eq_false beyond, decide_eq_false (Nat.not_lt.mpr length)]
  · rename_i beyond
    rw [holds.room] at beyond
    refine ⟨holds.capacity, ?_, ?_⟩
    · show buffer.content ++ (Text.utf8 piece).take buffer.room =
        (bytes ++ Text.utf8 piece).take buffer.limit
      rw [holds.content, holds.room, List.take_append]
    · show true = decide (buffer.limit < (bytes ++ Text.utf8 piece).length)
      refine (decide_eq_true ?_).symm
      rw [List.length_append]
      omega

/-- Pieces that are written one after the other, up to one that does not fit, are held as one text
would be. -/
lemma writeAll (holds : Holds capacity bytes buffer) (pieces : List String) :
    Holds capacity (bytes ++ Text.utf8 (String.join pieces)) (buffer.writeAll pieces) := by
  induction pieces generalizing bytes buffer with
  | nil =>
    rw [Text.utf8_join, List.flatMap_nil, List.append_nil]
    exact holds
  | cons piece pieces ih =>
    have next := holds.write piece
    rw [String.join_cons, Text.utf8_append, ← List.append_assoc, LineBuffer.writeAll]
    rcases eq : buffer.write piece with ⟨fits, buffer'⟩
    rw [eq] at next
    cases fits with
    | true => exact ih next
    | false =>
      have cut := truncated_write (congrArg Prod.fst eq)
      rw [eq] at cut
      exact next.full (of_decide_eq_true (next.truncated.symm.trans cut)) _

end Holds

/-- What is held in the end does not depend on how the text was cut into pieces. -/
lemma writeAll_holds (capacity : Nat) (pieces : List String) :
    Holds capacity (Text.utf8 (String.join pieces)) ((ofCapacity capacity).writeAll pieces) :=
  (holds_ofCapacity capacity).writeAll pieces

lemma dropNewlines_concat (bytes : Bytes) (last : UInt8) :
    dropNewlines (bytes ++ [last]) =
      if last == newline then dropNewlines bytes else bytes ++ [last] :=
  List.rdropWhile_concat (fun byte => byte == newline) bytes last

/-- Newlines are dropped as far as the last byte that is none. -/
lemma dropNewlines_append (bytes : Bytes) {byte : UInt8} (ne : byte ≠ newline) (more : Bytes) :
    dropNewlines (bytes ++ byte :: more) = bytes ++ byte :: dropNewlines more := by
  induction more using List.reverseRecOn with
  | nil =>
    rw [dropNewlines_concat, if_neg (mt beq_iff_eq.mp ne)]
    rfl
  | append_singleton more last ih =>
    rw [← List.cons_append, ← List.append_assoc, dropNewlines_concat, ih, dropNewlines_concat]
    split
    · rfl
    · rw [List.append_assoc]
      rfl

lemma getLast?_dropNewlines (bytes : Bytes) : (dropNewlines bytes).getLast? ≠ some newline := by
  rw [dropNewlines, List.getLast?_reverse]
  intro first
  have kept := List.head?_dropWhile_not (fun byte => byte == newline) bytes.reverse
  rw [first] at kept
  simp at kept

lemma length_dropNewlines_le (bytes : Bytes) : (dropNewlines bytes).length ≤ bytes.length :=
  (List.rdropWhile_prefix (fun byte => byte == newline) bytes).length_le

lemma Holds.isLine_finish (holds : Holds capacity bytes buffer) :
    IsLine (max capacity minCapacity) buffer.finish where
  positive := by simp [finish]
  bounded := by
    have kept : (dropNewlines buffer.content).length ≤ buffer.limit :=
      Nat.le_trans (length_dropNewlines_le _) holds.length_le
    have least : 1 ≤ buffer.capacity := holds.capacity_pos
    rw [finish, List.length_append, List.length_singleton, ← holds.capacity]
    rw [limit] at kept
    omega
  ended := by simp [finish]
  once := by
    rw [finish, List.dropLast_concat]
    exact getLast?_dropNewlines _

end LineBuffer

end LogFanout
