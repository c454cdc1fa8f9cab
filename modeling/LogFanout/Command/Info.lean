import LogFanout.Command.Validate

/-!
# Describing a configuration

The settings of a configuration and its endpoints, each with the place it would be opened on.
-/

namespace LogFanout

namespace Command

/-- The place that an endpoint would be opened on; nothing if its plan has none. -/
def destination (plan : Plan) : String :=
  match plan.argument with
  | .descriptor number => "fd " ++ Text.decimalInt number.toInt
  | .socket target => target.text
  | .nothing | .custom _ => ""

/-- The line of an endpoint. -/
def planText (last : Bool) (plan : Plan) : String :=
  "   " ++ (if last then "└─" else "├─") ++ " " ++ plan.name ++ " [" ++ plan.transport.name ++ "] "
    ++ destination plan ++ " (" ++ (if plan.enabled then "enabled" else "disabled") ++ ")\n"

/-- The lines of the endpoints; the last one closes the list. -/
def planTexts : List Plan → List String
  | [] => []
  | [plan] => [planText true plan]
  | plan :: plans => planText false plan :: planTexts plans

/-- The description of a blueprint. -/
def infoText (blueprint : Blueprint) : String :=
  "Logger\n"
    ++ "   ├─ Version: " ++ blueprint.version.name ++ "\n"
    ++ "   ├─ Buffer capacity: " ++ Text.decimal blueprint.settings.capacity.toNat ++ " bytes\n"
    ++ "   └─ std endpoint: "
    ++ (if blueprint.settings.seeded then "fd 1" else "not seeded") ++ "\n"
    ++ "\nEndpoints (" ++ Text.decimal blueprint.plans.length ++ ")\n"
    ++ String.join (planTexts blueprint.plans)

/-- The description of a blueprint as JSON. -/
def infoJson (blueprint : Blueprint) : Json.Value :=
  .record [
    ("version", .text blueprint.version.name),
    ("buffer_capacity", .integer blueprint.settings.capacity.toNat),
    ("seed_std", .boolean blueprint.settings.seeded),
    ("endpoints", .list (blueprint.plans.map fun plan => .record [
      ("name", .text plan.name),
      ("writer", .text plan.transport.name),
      ("enabled", .boolean plan.enabled),
      ("destination", .text (destination plan))]))]

/-- Why a configuration cannot be described, outermost reason first. -/
def infoChain (path : String) : ConfigError → List String
  | .notFound path => ["Configuration file not found: " ++ path]
  | .load why => ("Failed to load config from " ++ path) :: why.chain

end Command

/-- Describes a configuration: what is printed, and whether there is one. -/
def ConfigArguments.describe (arguments : ConfigArguments) (host : Host) :
    String × Except (List String) Unit :=
  match Command.findBlueprint host arguments.config with
  | .error why => ("", .error (Command.infoChain arguments.config why))
  | .ok blueprint =>
    (if arguments.json then (Command.infoJson blueprint).pretty ++ "\n"
      else Command.infoText blueprint, .ok ())

end LogFanout
