import LogFanout.Blueprint.Layout
import LogFanout.Json.Record
import LogFanout.Json.Value

/-!
# Blueprints as JSON

A blueprint is an object with the members `version`, `logger` and `endpoints`. Optional members of
an endpoint are left out when there is nothing to say.
-/

namespace LogFanout

/-- An endpoint as JSON. -/
def Plan.toJson (plan : Plan) : Json.Value :=
  .record <|
    [("name", .text plan.name), ("writer", .text plan.transport.name),
        ("enabled", .boolean plan.enabled)]
      ++ (match plan.descriptor with
        | some number => [("fd", .integer number.toInt)]
        | none => [])
      ++ (match plan.target with
        | some target => [("target", .text target.text)]
        | none => [])

namespace Blueprint

/-- A blueprint as JSON. -/
def toJson (blueprint : Blueprint) : Json.Value :=
  .record [
    ("version", .text blueprint.version.name),
    ("logger", .record [
      ("buffer_capacity", .integer blueprint.settings.capacity.toNat),
      ("seed_std", .boolean blueprint.settings.seeded)]),
    ("endpoints", .list (blueprint.plans.map Plan.toJson))]

/-- The JSON document of a blueprint. -/
def jsonText (blueprint : Blueprint) : String :=
  blueprint.toJson.pretty

/-- Reads the characters of a JSON document; nothing but blanks may follow the value. -/
def readJson (cs : List Char) : Except Json.Fault Blueprint := do
  let (blueprint, rest) ← Json.readRecord (record Json.source) cs
  match Json.dropBlank rest with
  | [] => .ok blueprint
  | rest => .error (.within .trailingText rest)

/-- Reads a JSON document. -/
def ofJson (content : String) : Except Json.Report Blueprint :=
  (readJson content.toList).mapError (Json.Fault.report content.toList)

end Blueprint

end LogFanout
