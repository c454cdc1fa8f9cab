import LogFanout.Verbosity
import LogFanout.Level
import LogFanout.Text.Numeral

/-!
# Invocations

What the words of a command line ask for: settings that hold for every command, and one of three
commands. A line that asks for help, or that cannot be understood, is no invocation. Some options
that are not given are taken from variables of the environment.
-/

namespace LogFanout

/-- How diagnostics are written. -/
inductive LogFormat where
  | json
  | pretty
  | compact
  deriving DecidableEq, Repr

/-- The format of a name; case matters. -/
def LogFormat.ofName? : String → Option LogFormat
  | "json" => some .json
  | "pretty" => some .pretty
  | "compact" => some .compact
  | _ => none

/-- The settings that hold for every command. -/
structure Globals where
  /-- The number of verbose flags. -/
  verbose : UInt8
  quiet : Bool
  logFormat : LogFormat
  metricsPort : Option UInt16
  deriving DecidableEq, Repr

/-- How much a command says about its own work. -/
def Globals.verbosity (globals : Globals) : Verbosity :=
  .ofFlags globals.quiet globals.verbose

/-- Sends one message through a logger. -/
structure EmitArguments where
  config : Option String
  tag : String
  rank : UInt8
  /-- Whether the counters are printed afterwards. -/
  stats : Bool
  /-- The words of the message. -/
  words : List String
  deriving DecidableEq, Repr

/-- Looks at a configuration. -/
structure ConfigArguments where
  config : String
  /-- Whether the answer is given as JSON. -/
  json : Bool
  deriving DecidableEq, Repr

/-- A command with its arguments. -/
inductive Command where
  | emit (arguments : EmitArguments)
  | validate (arguments : ConfigArguments)
  | info (arguments : ConfigArguments)
  deriving DecidableEq, Repr

/-- The path of the configuration that a command reads, if it reads one. -/
def Command.configPath? : Command → Option String
  | .emit arguments => arguments.config
  | .validate arguments | .info arguments => some arguments.config

/-- What a command line asks for. -/
structure Invocation where
  globals : Globals
  command : Command
  deriving DecidableEq, Repr

/-- The variables that stand in for options, those that are set. -/
structure Environment where
  verbose : Option String
  logFormat : Option String
  metricsPort : Option String
  /-- Stands in for the configuration of a message; the other commands do not look at it. -/
  config : Option String
  deriving DecidableEq, Repr

/-- None of the variables is set. -/
def Environment.unset : Environment :=
  ⟨none, none, none, none⟩

/-- Why a command line is no invocation. -/
inductive UsageError where
  | displayHelp
  | displayVersion
  /-- There are neither options nor a command. -/
  | nothingGiven
  | missingSubcommand
  | invalidSubcommand
  | unknownArgument
  | argumentConflict
  | missingMessage
  /-- A value is missing, empty, or none of those known. -/
  | invalidValue
  /-- A value is not of the form wanted. -/
  | valueValidation
  /-- A value is given to a flag. -/
  | tooManyValues
  deriving DecidableEq, Repr

/-- The configuration that a command looks at if none is named. -/
def defaultConfig : String :=
  "rlog.toml"

/-- The tag of a message if none is given. -/
def defaultTag : String :=
  "RLOG"

/-- The level of a message if none is given. -/
def defaultLevel : Level :=
  .info

end LogFanout
