import LogFanout.Blueprint.Check
import LogFanout.Blueprint.Json
import LogFanout.Blueprint.Toml
import LogFanout.Document.Format
import LogFanout.Host.Basic
import LogFanout.Host.Path

/-!
# Loading a blueprint

A blueprint is loaded from a file in four steps: the extension tells the format, the file is read,
the document is read, the blueprint is checked. The first step that fails decides the error.
-/

namespace LogFanout

/-- Why a blueprint was not loaded. -/
inductive LoadError where
  | noExtension
  | unknownExtension (extension : String)
  | system (fault : SystemFault)
  | json (report : Json.Report)
  | toml (report : Toml.Report)
  | check (error : CheckError)
  deriving DecidableEq, Repr

/-- What is said of a document that is not well formed, or has a value that is not the one wanted.
-/
def LoadError.document (format reason : String) : String :=
  "config parse error: " ++ format ++ " parse error: " ++ reason

/-- The wording of an error. -/
def LoadError.message : LoadError → String
  | .noExtension => "config parse error: cannot determine file format from extension"
  | .unknownExtension extension => "config parse error: unsupported config format: ." ++ extension
  | .system fault => "io error: " ++ fault.message
  | .json report => document "JSON" report.message
  | .toml report => document "TOML" report.message
  | .check error => error.message

/-- The error and what lies behind it, outermost first. -/
def LoadError.chain (error : LoadError) : List String :=
  match error with
  | .system fault => [error.message, fault.message]
  | .json report => [error.message, report.message]
  | .toml report => [error.message, report.message]
  | _ => [error.message]

namespace Blueprint

/-- Reads a document without checking the blueprint. -/
def read (format : Format) (content : String) : Except LoadError Blueprint :=
  match format with
  | .json => (ofJson content).mapError .json
  | .toml => (ofToml content).mapError .toml

/-- Reads a document and checks the blueprint. -/
def parse (format : Format) (content : String) : Except LoadError Blueprint := do
  let blueprint ← read format content
  match blueprint.check with
  | .ok () => .ok blueprint
  | .error why => .error (.check why)

/-- The format that the extension of a path tells. -/
def formatOf (path : String) : Except LoadError Format :=
  match Path.extension? path with
  | none => .error .noExtension
  | some extension =>
    match Format.ofExtension? extension with
    | none => .error (.unknownExtension extension)
    | some format => .ok format

/-- Loads a blueprint from a file. -/
def load (host : Host) (path : String) : Except LoadError Blueprint := do
  let format ← formatOf path
  match host.readText path with
  | .ok content => parse format content
  | .error fault => .error (.system fault)

end Blueprint

end LogFanout
