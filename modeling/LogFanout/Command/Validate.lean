import LogFanout.Blueprint.Load
import LogFanout.Command.Invocation
import LogFanout.Json.Value

/-!
# Validating a configuration

The answer says whether a configuration can be loaded. If it can, it sums the configuration up and
warns of endpoints that start disabled, and of a logger without any that starts enabled.
-/

namespace LogFanout

namespace Command

/-- Something to be aware of in a configuration that is valid. -/
inductive Warning where
  | nothingEnabled
  | startsDisabled (name : String)
  deriving DecidableEq, Repr

/-- The wording of a warning. -/
def Warning.message : Warning → String
  | .nothingEnabled => "No endpoint starts enabled - messages will be dropped"
  | .startsDisabled name => "Endpoint '" ++ name ++ "' is registered but starts disabled"

/-- The plans that start enabled. -/
def enabledPlans (blueprint : Blueprint) : List Plan :=
  blueprint.plans.filter Plan.enabled

/-- The warnings about a blueprint, in the order of its endpoints. -/
def warnings (blueprint : Blueprint) : List Warning :=
  (if (enabledPlans blueprint).isEmpty ∧ !blueprint.settings.seeded then [.nothingEnabled] else [])
    ++ (blueprint.plans.filter fun plan => !plan.enabled).map fun plan => .startsDisabled plan.name

/-- Why a configuration is not valid. -/
inductive ConfigError where
  | notFound (path : String)
  | load (error : LoadError)
  deriving DecidableEq, Repr

/-- The wording of an error. -/
def ConfigError.message : ConfigError → String
  | .notFound path => "File not found: " ++ path
  | .load error => error.message

/-- The blueprint of a configuration, if there is a valid one. -/
def findBlueprint (host : Host) (path : String) : Except ConfigError Blueprint :=
  if host.contains path then (Blueprint.load host path).mapError .load
  else .error (.notFound path)

/-- The word for a boolean. -/
def word (b : Bool) : String :=
  if b then "true" else "false"

/-- The answer about a valid configuration. -/
def validText (path : String) (blueprint : Blueprint) : String :=
  "✓ Configuration is valid: " ++ path ++ "\n"
    ++ "\n  Version: " ++ blueprint.version.name ++ "\n"
    ++ "  Buffer capacity: " ++ Text.decimal blueprint.settings.capacity.toNat ++ " bytes\n"
    ++ "  Seed std: " ++ word blueprint.settings.seeded ++ "\n"
    ++ "  Endpoints: " ++ Text.decimal blueprint.plans.length
    ++ " (" ++ Text.decimal (enabledPlans blueprint).length ++ " enabled)\n"
    ++ (if (warnings blueprint).isEmpty then "" else "\n⚠ Warnings:\n")
    ++ String.join ((warnings blueprint).map fun warning => "  - " ++ warning.message ++ "\n")

/-- The answer about a configuration that is not valid. -/
def invalidText (path : String) (error : ConfigError) : String :=
  "✗ Configuration is invalid: " ++ path ++ "\n\n  Error: " ++ error.message ++ "\n"

/-- The answer about a valid configuration as JSON. -/
def validJson (path : String) (blueprint : Blueprint) : Json.Value :=
  .record <|
    [("valid", .boolean true), ("config_path", .text path)]
      ++ (if (warnings blueprint).isEmpty then []
        else [("warnings", .list ((warnings blueprint).map fun warning => .text warning.message))])
      ++ [("summary", .record [
        ("version", .text blueprint.version.name),
        ("buffer_capacity", .integer blueprint.settings.capacity.toNat),
        ("seed_std", .boolean blueprint.settings.seeded),
        ("endpoint_count", .integer blueprint.plans.length),
        ("enabled_count", .integer (enabledPlans blueprint).length)])]

/-- The answer about a configuration that is not valid as JSON. -/
def invalidJson (path : String) (error : ConfigError) : Json.Value :=
  .record [("valid", .boolean false), ("config_path", .text path), ("error", .text error.message)]

end Command

/-- Validates a configuration: what is printed, and whether it is valid. -/
def ConfigArguments.validate (arguments : ConfigArguments) (host : Host) :
    String × Except (List String) Unit :=
  let path := arguments.config
  match Command.findBlueprint host path with
  | .ok blueprint =>
    (if arguments.json then (Command.validJson path blueprint).pretty ++ "\n"
      else Command.validText path blueprint, .ok ())
  | .error why =>
    (if arguments.json then (Command.invalidJson path why).pretty ++ "\n"
      else Command.invalidText path why,
      .error ["Configuration validation failed"])

end LogFanout
