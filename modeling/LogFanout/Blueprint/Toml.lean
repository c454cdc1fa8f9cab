import LogFanout.Blueprint.Layout
import LogFanout.Toml.Decode
import LogFanout.Toml.Document
import LogFanout.Toml.Quote

/-!
# Blueprints as TOML

The version comes first, then the settings as a table and each endpoint as a table of an array.
Without endpoints the array is written as an empty one, next to the version.
-/

namespace LogFanout

namespace Toml

/-- A line with a key and a value. -/
def entryLine (key : String) (value : List Char) : List Char :=
  key.toList ++ [' ', '=', ' '] ++ value ++ ['\n']

/-- The word for a boolean. -/
def writeBoolean (value : Bool) : List Char :=
  if value then ['t', 'r', 'u', 'e'] else ['f', 'a', 'l', 's', 'e']

end Toml

open Toml (entryLine writeBoolean writeText)

/-- The table of settings. -/
def Settings.tomlLines (settings : Settings) : List Char :=
  "\n[logger]\n".toList
    ++ entryLine "buffer_capacity" (Text.decimal settings.capacity.toNat).toList
    ++ entryLine "seed_std" (writeBoolean settings.seeded)

/-- The table of an endpoint; optional members are left out when there is nothing to say. -/
def Plan.tomlLines (plan : Plan) : List Char :=
  "\n[[endpoints]]\n".toList
    ++ entryLine "name" (writeText plan.name)
    ++ entryLine "writer" (writeText plan.transport.name)
    ++ entryLine "enabled" (writeBoolean plan.enabled)
    ++ (match plan.descriptor with
      | some number => entryLine "fd" (Text.decimalInt number.toInt).toList
      | none => [])
    ++ (match plan.target with
      | some target => entryLine "target" (writeText target.text)
      | none => [])

namespace Blueprint

/-- The TOML document of a blueprint. -/
def tomlText (blueprint : Blueprint) : String :=
  String.ofList <|
    entryLine "version" (writeText blueprint.version.name)
      ++ (if blueprint.plans.isEmpty then entryLine "endpoints" ['[', ']'] else [])
      ++ blueprint.settings.tomlLines
      ++ blueprint.plans.flatMap Plan.tomlLines

/-- Reads the characters of a TOML document. -/
def readToml (cs : List Char) : Except Toml.Fault Blueprint := do
  Toml.decodeRecord (record Toml.source) (← Toml.parse cs)

/-- Reads a TOML document. -/
def ofToml (content : String) : Except Toml.Report Blueprint :=
  (readToml content.toList).mapError (Toml.Fault.report content.toList)

end Blueprint

end LogFanout
