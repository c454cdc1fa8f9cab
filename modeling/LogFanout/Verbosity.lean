/-!
# Verbosity

How much a command says about its own work, from the quiet flag and the number of verbose flags.
-/

namespace LogFanout

/-- How much a command says about its own work. -/
inductive Verbosity where
  | quiet
  | normal
  | verbose (steps : UInt8)
  deriving DecidableEq, Repr

namespace Verbosity

/-- The verbosity that flags ask for; the quiet flag wins. -/
def ofFlags (quiet : Bool) (steps : UInt8) : Verbosity :=
  if quiet then .quiet
  else if steps = 0 then .normal
  else .verbose steps

/-- The least severity of what is said. -/
def directive : Verbosity → String
  | .quiet => "error"
  | .normal => "warn"
  | .verbose steps => if steps = 1 then "debug" else "trace"

end Verbosity

end LogFanout
