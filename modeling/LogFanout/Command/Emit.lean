import LogFanout.Blueprint.Build
import LogFanout.Blueprint.Load
import LogFanout.Command.Invocation
import LogFanout.Writer.Builtin

/-!
# Sending one message

The logger of a configuration, or a standard one, is built; the message goes out once; the counters
are published and, if asked for, printed; the logger is shut down. Standard error may refuse the
counters; then the command fails, but not before the logger is shut down.
-/

namespace LogFanout

namespace Command

/-- What came of a command: why it failed, outermost reason first, and the measurements it
published. -/
structure Outcome where
  result : Except (List String) Unit
  published : List Measurement

/-- The descriptor of the printed counters. -/
def standardError : Int32 :=
  2

/-- What is said of a standard stream that refused a text. -/
def unprinted (stream : String) (why : SystemFault) : List String :=
  ["failed printing to " ++ stream ++ ": " ++ why.message]

/-- The message of words. -/
def messageText (words : List String) : String :=
  String.intercalate " " words

/-- Builds the logger that a message goes through. -/
def emitLogger (host : Host) (config : Option String) (world : World) :
    Except (List String) (Logger Nat) × World :=
  let writers := World.builtins host
  match config with
  | none =>
    let (logger, world) := Logger.standard writers world
    (.ok logger, world)
  | some path =>
    match Blueprint.load host path with
    | .error why => (.error (("Failed to load config from " ++ path) :: why.chain), world)
    | .ok blueprint =>
      match blueprint.build writers world with
      | (.error why, world) => (.error ("Failed to set up endpoints" :: why.chain), world)
      | (.ok logger, world) => (.ok logger, world)

end Command

/-- Prints the counters if they are asked for; `say` prints a text on standard error. -/
def EmitArguments.report {σ : Type} (arguments : EmitArguments)
    (say : String → σ → Except SystemFault Unit × σ) (snapshot : Snapshot) (s : σ) :
    Except (List String) Unit × σ :=
  if arguments.stats then
    let (said, s) := say snapshot.text s
    (said.mapError (Command.unprinted "stderr"), s)
  else (.ok (), s)

/-- Sends one message. -/
def EmitArguments.run (arguments : EmitArguments) (host : Host) (now : Instant) (world : World) :
    Command.Outcome × World :=
  let writers := World.builtins host
  match Command.emitLogger host arguments.config world with
  | (.error why, world) => (⟨.error why, []⟩, world)
  | (.ok logger, world) =>
    let message : Message := ⟨arguments.rank, arguments.tag, Command.messageText arguments.words⟩
    let (logger, world) := logger.print writers now message world
    let snapshot := logger.snapshot
    let (reported, world) :=
      arguments.report (World.print host Command.standardError) snapshot world
    (⟨reported, snapshot.published⟩, logger.shutdown writers world)

end LogFanout
