import LogFanout.Proofs.Line.Buffer

/-!
# Texts in pieces

A buffer takes a text piece by piece, and it takes further pieces behind one that did not fit
(`LineBuffer.writeEach`). Every piece is answered by the room that is left, which is what the pieces
before it have left of the limit (`writeEach_answers`, `Holds.room`). In the end the buffer is the
one that took the whole text at once (`writeEach_pieces`), since there is only one buffer that holds
a text (`Holds.unique`).
-/

namespace LogFanout

namespace LineBuffer

/-- Writes all pieces, also those behind one that does not fit, and says of each of them whether it
was written whole. -/
def writeEach (buffer : LineBuffer) : List String → List Bool × LineBuffer
  | [] => ([], buffer)
  | piece :: pieces =>
    let (whole, buffer) := buffer.write piece
    let (wholes, buffer) := buffer.writeEach pieces
    (whole :: wholes, buffer)

variable {capacity : Nat} {bytes : Bytes} {buffer : LineBuffer}

/-- A piece is written whole if there is room for it, and only then. -/
lemma write_fst (buffer : LineBuffer) (piece : String) :
    (buffer.write piece).1 = decide ((Text.utf8 piece).length ≤ buffer.room) := by
  rw [write]
  split
  · rename_i fits
    exact (decide_eq_true fits).symm
  · rename_i beyond
    exact (decide_eq_false beyond).symm

/-- A piece is answered as if the pieces before it were all there are. -/
lemma writeEach_answers (buffer : LineBuffer) (pieces : List String) (i : Nat) :
    (buffer.writeEach pieces).1[i]? =
      pieces[i]?.map fun piece => ((buffer.writeEach (pieces.take i)).2.write piece).1 := by
  induction pieces generalizing buffer i with
  | nil => rfl
  | cons piece pieces ih =>
    cases i with
    | zero => rfl
    | succ i => exact ih (buffer.write piece).2 i

namespace Holds

/-- Only one buffer holds a text. -/
lemma unique {other : LineBuffer} (holds : Holds capacity bytes buffer)
    (holds' : Holds capacity bytes other) : buffer = other := by
  have same : buffer.limit = other.limit := by
    rw [limit, limit, holds.capacity, holds'.capacity]
  cases buffer
  cases other
  rw [LineBuffer.mk.injEq]
  refine ⟨holds.capacity.trans holds'.capacity.symm, ?_, ?_⟩
  · exact holds.content.trans ((congrArg bytes.take same).trans holds'.content.symm)
  · refine holds.truncated.trans (Eq.trans ?_ holds'.truncated.symm)
    rw [same]

lemma limit_eq (holds : Holds capacity bytes buffer) :
    buffer.limit = max capacity minCapacity - 1 := by
  rw [limit, holds.capacity]

lemma writeEach (holds : Holds capacity bytes buffer) (pieces : List String) :
    Holds capacity (bytes ++ Text.utf8 (String.join pieces)) (buffer.writeEach pieces).2 := by
  induction pieces generalizing bytes buffer with
  | nil =>
    rw [Text.utf8_join, List.flatMap_nil, List.append_nil]
    exact holds
  | cons piece pieces ih =>
    rw [String.join_cons, Text.utf8_append, ← List.append_assoc]
    exact ih (holds.write piece)

end Holds

lemma writeEach_holds (capacity : Nat) (pieces : List String) :
    Holds capacity (Text.utf8 (String.join pieces)) ((ofCapacity capacity).writeEach pieces).2 :=
  (holds_ofCapacity capacity).writeEach pieces

/-- A new buffer to which pieces are written, whatever is answered, comes to hold the first bytes of
the text that they are pieces of, and tells whether there were more; a line of it is no longer than
it should be. The buffer is the same if the text is written at once, or only up to the first piece
that does not fit. Whichever piece comes next, the bytes held are no more than the limit, the room is
what the text so far has left of it, and the piece is refused if it is longer than the room, and only
then. -/
theorem writeEach_pieces (capacity : Nat) (pieces : List String) :
    let limit := max capacity 2 - 1
    let text := Text.utf8 (String.join pieces)
    let new := ofCapacity capacity
    let wholes := (new.writeEach pieces).1
    let buffer := (new.writeEach pieces).2
    (buffer.content = text.take limit ∧ (buffer.truncated = true ↔ limit < text.length) ∧
      buffer.finish.length ≤ max capacity 2) ∧
    (buffer = (new.write (String.join pieces)).2 ∧ buffer = new.writeAll pieces) ∧
    ∀ i,
      let found := (new.writeEach (pieces.take i)).2
      (1 ≤ found.capacity ∧ found.content.length ≤ found.limit ∧
        found.room = limit - (Text.utf8 (String.join (pieces.take i))).length) ∧
      wholes[i]? = pieces[i]?.map fun piece =>
        decide ((Text.utf8 piece).length ≤ found.room) := by
  intro limit text new wholes buffer
  have holds : Holds capacity text buffer := writeEach_holds capacity pieces
  refine ⟨⟨?_, ?_, holds.isLine_finish.bounded⟩, ⟨?_, ?_⟩, fun i => ?_⟩
  · rw [holds.content, holds.limit_eq]
    rfl
  · rw [holds.truncated, holds.limit_eq, decide_eq_true_iff]
    exact Iff.rfl
  · exact holds.unique ((holds_ofCapacity capacity).write (String.join pieces))
  · exact holds.unique (writeAll_holds capacity pieces)
  · intro found
    have before := writeEach_holds capacity (pieces.take i)
    refine ⟨⟨before.capacity_pos, before.length_le, ?_⟩, ?_⟩
    · rw [before.room, before.limit_eq]
      rfl
    · refine (writeEach_answers new pieces i).trans ?_
      exact congrArg (Option.map · pieces[i]?) (funext (write_fst found))

-- A piece may fit exactly, an empty one always fits, and what follows a cut is refused but for that.
example :
    (ofCapacity 5).writeEach ["ab", "", "cd", "", "ef", "", "g"] =
      ([true, true, true, true, false, true, false], ⟨5, [97, 98, 99, 100], true⟩) := by
  decide

end LineBuffer

end LogFanout
