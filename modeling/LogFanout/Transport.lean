import LogFanout.Text.Ascii

/-!
# Built-in transports

The kinds of writer that a logger can make by itself.
-/

namespace LogFanout

/-- A built-in kind of writer: a duplicated descriptor, or a connection to a log service. -/
inductive Transport where
  | descriptor
  | socket
  deriving DecidableEq, Repr

namespace Transport

/-- The name of a transport in documents and messages. -/
def name : Transport → String
  | .descriptor => "fd"
  | .socket => "socket"

/-- Reads a transport from its name, in any ASCII case. -/
def ofName? (text : String) : Option Transport :=
  match Text.asciiLower text with
  | "fd" => some .descriptor
  | "socket" => some .socket
  | _ => none

/-- What is said of a text that names no transport. -/
def unknownMessage (text : String) : String :=
  "unknown writer type '" ++ Text.asciiLower text ++ "'"

end Transport

end LogFanout
