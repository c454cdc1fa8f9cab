import LogFanout.Host.Basic
import LogFanout.Host.Path

/-!
# Files

A tree of files and folders, and the folder in which a program works. A path is followed name by
name, from that folder or, if it begins with a slash, from the root; every part but the last one has
to be a folder.
-/

namespace LogFanout

/-- Files and folders by the names on the way from the root to them. A folder is also there if
something is in it. -/
structure Files where
  /-- The names on the way from the root to the folder in which a program works. -/
  here : List String
  entries : List (List String × FileNode)
  deriving DecidableEq, Repr

namespace Files

/-- The longest name of a file in bytes. -/
def maxName : Nat :=
  255

/-- The longest path in bytes. -/
def maxPath : Nat :=
  4095

/-- What stands at the end of a row of names. -/
def at? (files : Files) (names : List String) : Option FileNode :=
  match files.entries.lookup names with
  | some node => some node
  | none =>
    if names.isPrefixOf files.here ∨ files.entries.any (fun entry => names.isPrefixOf entry.1) then
      some .folder
    else none

/-- Follows one part of a path from a place, given by the names on the way to it in reverse. -/
def step (files : Files) (place : List String) (part : List Char) :
    Except SystemFault (List String) :=
  match files.at? place.reverse with
  | none => .error .notFound
  | some (.file _) => .error .notDirectory
  | some .folder =>
    if part = [] ∨ part = ['.'] then .ok place
    else if part = ['.', '.'] then .ok place.tail
    else if maxName < (Text.utf8 (String.ofList part)).length then .error .nameTooLong
    else if (files.at? (String.ofList part :: place).reverse).isSome then
      .ok (String.ofList part :: place)
    else .error .notFound

/-- What stands at a path. -/
def find (files : Files) (path : String) : Except SystemFault FileNode := do
  let chars := path.toList
  if chars.contains (Char.ofNat 0) then .error .fileNul
  else if chars = [] then .error .notFound
  else if maxPath < (Text.utf8 path).length then .error .nameTooLong
  else
    let start := if chars.head? = some '/' then [] else files.here.reverse
    let place ← (Path.splitSlash chars).foldlM files.step start
    match files.at? place.reverse with
    | some node => .ok node
    | none => .error .notFound

end Files

end LogFanout
