import LogFanout.Text.Ascii

/-!
# Levels

The severity of a message, least severe first. A line carries the level as a number, so that numbers
without a level can be printed too; they have a letter of their own.
-/

namespace LogFanout

/-- Message severity. -/
inductive Level where
  | verbose
  | debug
  | info
  | warning
  | error
  deriving DecidableEq, Repr

namespace Level

/-- The number of a level; a more severe level has a larger one. -/
def rank : Level → UInt8
  | .verbose => 0
  | .debug => 1
  | .info => 2
  | .warning => 3
  | .error => 4

/-- The level with a number. -/
def ofRank? (rank : UInt8) : Option Level :=
  if rank = 0 then some .verbose
  else if rank = 1 then some .debug
  else if rank = 2 then some .info
  else if rank = 3 then some .warning
  else if rank = 4 then some .error
  else none

/-- The full name of a level. -/
def name : Level → String
  | .verbose => "verbose"
  | .debug => "debug"
  | .info => "info"
  | .warning => "warning"
  | .error => "error"

/-- The letter that stands for a level in a line. -/
def letter : Level → Char
  | .verbose => 'V'
  | .debug => 'D'
  | .info => 'I'
  | .warning => 'W'
  | .error => 'E'

/-- The letter for a number, `U` where the number has no level. -/
def letterOfRank (rank : UInt8) : Char :=
  match ofRank? rank with
  | some level => level.letter
  | none => 'U'

/-- Reads a level from its name, its letter or its number, in any ASCII case. -/
def ofName? (text : String) : Option Level :=
  match Text.asciiLower text with
  | "verbose" | "v" | "0" => some .verbose
  | "debug" | "d" | "1" => some .debug
  | "info" | "i" | "2" => some .info
  | "warning" | "warn" | "w" | "3" => some .warning
  | "error" | "e" | "4" => some .error
  | _ => none

/-- What is said of a text that names no level. -/
def unknownMessage (text : String) : String :=
  "unknown log level '" ++ Text.asciiLower text ++ "'"

/-- The least level that gated statements let through. -/
def threshold : Level :=
  .info

/-- Whether a gated statement of this level is carried out. -/
def isOpen (level : Level) : Bool :=
  threshold.rank ≤ level.rank

end Level

end LogFanout
