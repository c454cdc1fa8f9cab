import LogFanout.Text.Ascii

/-!
# Document formats

A configuration is a TOML or a JSON document; the extension of a file tells which.
-/

namespace LogFanout

/-- The format of a configuration document. -/
inductive Format where
  | toml
  | json
  deriving DecidableEq, Repr

/-- The format of a file extension, in any case. -/
def Format.ofExtension? (extension : String) : Option Format :=
  match Text.asciiLower extension with
  | "toml" => some .toml
  | "json" => some .json
  | _ => none

end LogFanout
