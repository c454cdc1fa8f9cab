/-!
# Cutting a text in two

A text is cut at the first occurrence of a mark, or at the last occurrence of a character. The mark
itself belongs to neither part.
-/

namespace LogFanout.Text

/-- The parts before and after the first occurrence of `mark`. -/
def cutFirst (mark : List Char) : List Char → Option (List Char × List Char)
  | [] => if mark = [] then some ([], []) else none
  | c :: cs =>
    if mark.isPrefixOf (c :: cs) then
      some ([], (c :: cs).drop mark.length)
    else
      (cutFirst mark cs).map fun (before, after) => (c :: before, after)

/-- The parts before and after the last occurrence of `mark`. -/
def cutLast (mark : Char) : List Char → Option (List Char × List Char)
  | [] => none
  | c :: cs =>
    match cutLast mark cs with
    | some (before, after) => some (c :: before, after)
    | none => if c = mark then some ([], cs) else none

end LogFanout.Text
