import LogFanout.Host.SystemFault
import LogFanout.Target
import LogFanout.Text.Utf8

/-!
# Hosts

What the operating system decides: which descriptors can be duplicated, which targets can be
connected to, which descriptors take bytes, and what stands at a path.
-/

namespace LogFanout

/-- What stands at a path. -/
inductive FileNode where
  | file (content : Bytes)
  | folder
  deriving DecidableEq, Repr

/-- The decisions of the operating system. Attempts are numbered, so that the answer to one need not
be the answer to the next. -/
structure Host where
  /-- Whether a descriptor that is not negative can be duplicated. -/
  duplicate : (attempt : Nat) → Int32 → Except SystemFault Unit
  /-- Whether a target can be connected to. -/
  connect : (attempt : Nat) → Target → Except SystemFault Unit
  /-- Whether a descriptor takes bytes. -/
  append : Int32 → Except SystemFault Unit
  /-- What stands at a path. -/
  find : String → Except SystemFault FileNode

namespace Host

/-- Whether something stands at a path. -/
def contains (host : Host) (path : String) : Bool :=
  (host.find path).isOk

/-- Reads a file as a text. -/
def readText (host : Host) (path : String) : Except SystemFault String := do
  match ← host.find path with
  | .folder => .error .isDirectory
  | .file content =>
    match Text.ofUtf8? content with
    | some text => .ok text
    | none => .error .invalidText

end Host

end LogFanout
