import LogFanout.Target

/-!
# Enable arguments

What an endpoint is enabled with. A descriptor writer wants a descriptor, a socket writer a target;
writers of other kinds take what they understand.
-/

namespace LogFanout

/-- A value that only the writer it is meant for understands. -/
inductive CustomValue where
  | text (value : String)
  | number (value : Int)
  deriving DecidableEq, Repr

/-- The argument of an enable. -/
inductive Argument where
  | nothing
  | descriptor (number : Int32)
  | socket (target : Target)
  | custom (value : CustomValue)
  deriving DecidableEq, Repr

/-- An argument as messages show it. -/
def Argument.shown : Argument → String
  | .nothing => "None"
  | .descriptor number => "Fd(" ++ Text.decimalInt number.toInt ++ ")"
  | .socket target => "Socket(" ++ target.shown ++ ")"
  | .custom _ => "Custom(Any \x7b .. \x7d)"

end LogFanout
