import LogFanout.Argument
import LogFanout.Transport

/-!
# Blueprints

The description of a whole logger: the size of its lines, whether it starts with an endpoint on
standard output, and the endpoints to register.
-/

namespace LogFanout

/-- The version of a blueprint. -/
inductive Version where
  | v1
  deriving DecidableEq, Repr

/-- The name of a version. -/
def Version.name : Version → String
  | .v1 => "V1"

/-- The settings of the logger as a whole. -/
structure Settings where
  /-- The largest number of bytes of a line, newline included. -/
  capacity : UInt64
  /-- Whether the logger starts with an endpoint on standard output. -/
  seeded : Bool
  deriving DecidableEq, Repr

/-- Lines of 4096 bytes and an endpoint on standard output. -/
def Settings.standard : Settings :=
  ⟨4096, true⟩

/-- An endpoint to register. -/
structure Plan where
  name : String
  transport : Transport
  /-- Whether the endpoint is enabled at once. -/
  enabled : Bool
  /-- The descriptor, for a descriptor endpoint. -/
  descriptor : Option Int32
  /-- The target, for a socket endpoint. -/
  target : Option Target
  deriving DecidableEq, Repr

/-- The argument that fits the transport; nothing if the plan has none. -/
def Plan.argument (plan : Plan) : Argument :=
  match plan.transport with
  | .descriptor => (plan.descriptor.map Argument.descriptor).getD .nothing
  | .socket => (plan.target.map Argument.socket).getD .nothing

/-- The description of a logger. -/
structure Blueprint where
  version : Version
  settings : Settings
  plans : List Plan
  deriving DecidableEq, Repr

namespace Blueprint

/-- The blueprint of an empty document. -/
def standard : Blueprint :=
  ⟨.v1, .standard, []⟩

/-- The name of the endpoint on standard output. -/
def seedName : String :=
  "std"

end Blueprint

end LogFanout
