import LogFanout.Text.Cut

/-!
# Paths

A path is a row of names with slashes between them. Empty names and single dots stand for the place
reached so far, so one path can be spelled in many ways.
-/

namespace LogFanout.Path

/-- The parts of a text between slashes. -/
def splitSlash : List Char → List (List Char)
  | [] => [[]]
  | c :: cs =>
    if c = '/' then [] :: splitSlash cs
    else
      match splitSlash cs with
      | part :: parts => (c :: part) :: parts
      | [] => [[c]]

/-- The names of a path, two dots included. -/
def names (path : String) : List String :=
  ((splitSlash path.toList).filter fun part => part ≠ [] ∧ part ≠ ['.']).map String.ofList

/-- What all spellings of a path have in common. -/
structure Components where
  /-- Whether the path begins at the root. -/
  rooted : Bool
  /-- Whether the path begins with a single dot. -/
  dotted : Bool
  names : List String
  deriving DecidableEq, Repr

/-- The components of a path. A dot is kept only at the beginning, and slashes are not counted. -/
def components (path : String) : Components where
  rooted := path.toList.head? = some '/'
  dotted := (splitSlash path.toList).head? = some ['.']
  names := names path

/-- The part of the last name behind its last dot; a name that only begins with a dot has none. -/
def extension? (path : String) : Option String :=
  match (names path).getLast? with
  | none => none
  | some name =>
    if name = ".." then none
    else
      match Text.cutLast '.' name.toList with
      | none => none
      | some ([], _) => none
      | some (_, extension) => some (String.ofList extension)

end LogFanout.Path
