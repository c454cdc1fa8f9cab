import LogFanout.Command.Run
import Std.Time.DateTime.Timestamp

/-!
# The program

What a command may need to know of the operating system is found out first; the command runs on
that, and what it has written goes out afterwards. There is no network: no target can be connected
to.
-/

namespace LogFanout.Program

/-- What stands at a path of the file system. -/
def lookAt (path : String) : IO (Except SystemFault FileNode) := do
  try
    return .ok (.file (← IO.FS.readBinFile path).toList)
  catch error =>
    match error with
    | .noFileOrDirectory .. => return .error .notFound
    | .inappropriateType _ number _ =>
      return if number = 21 then .ok .folder else .error .notDirectory
    | .permissionDenied .. => return .error .permissionDenied
    | _ => return .error .inputOutput

/-- The path by which a descriptor is opened again. -/
def descriptorPath (number : Int32) : String :=
  "/dev/fd/" ++ Text.decimalInt number.toInt

/-- The descriptors that are open. -/
def openDescriptors : IO (List Int32) := do
  let entries ← ((← IO.currentDir).join "/dev/fd").readDir
  return entries.toList.filterMap fun entry => entry.fileName.toNat?.map Int32.ofNat

/-- Whether a descriptor takes bytes. -/
def takesBytes (number : Int32) : IO Bool := do
  try
    discard (IO.FS.Handle.mk (descriptorPath number) .append)
    return true
  catch _ =>
    return false

/-- Sends bytes to a descriptor. -/
def send (number : Int32) (bytes : Bytes) : IO Unit := do
  let content : ByteArray := ⟨bytes.toArray⟩
  if number = Logger.standardOutput then (← IO.getStdout).write content
  else if number = Command.standardError then (← IO.getStderr).write content
  else (← IO.FS.Handle.mk (descriptorPath number) .append).write content

/-- The variables of the environment that stand in for options. -/
def environment : IO Environment := do
  return {
    verbose := ← IO.getEnv "RLOG_VERBOSE"
    logFormat := ← IO.getEnv "RLOG_LOG_FORMAT"
    metricsPort := ← IO.getEnv "RLOG_METRICS_PORT"
    config := ← IO.getEnv "RLOG_CONFIG" }

/-- What a command may need to know of the operating system. -/
def observe (command : Command) : IO Host := do
  let path := command.configPath?
  let found ← lookAt (path.getD "")
  let descriptors ← openDescriptors
  -- Whether a standard stream takes bytes is not known before it is given some.
  let writable ← descriptors.filterM fun number => do
    return number ∈ [Logger.standardOutput, Command.standardError] || (← takesBytes number)
  return {
    duplicate := fun _ number => if number ∈ descriptors then .ok () else .error .badDescriptor
    connect := fun _ _ => .error .networkUnreachable
    append := fun number => if number ∈ writable then .ok () else .error .badDescriptor
    find := fun wanted => if some wanted = path then found else .error .notFound }

/-- The present time. -/
def presentTime : IO Instant := do
  let now ← Std.Time.Timestamp.now
  return ⟨now.val.second.val, now.val.nano.val.toNat⟩

/-- The text that goes with an unusable command line. -/
def usage : String :=
  "Usage: rlog [-v | -q] [--log-format FORMAT] [--metrics-port PORT] COMMAND\n"
    ++ "  emit [-c FILE] [-t TAG] [-l LEVEL] [--stats] MESSAGE\n"
    ++ "  validate [-c FILE] [--json]\n"
    ++ "  info [-c FILE] [--json]\n"

/-- The text of a failure: the outermost reason, and what lies behind it. -/
def failureText : List String → String
  | [] => ""
  | [reason] => "Error: " ++ reason ++ "\n"
  | reason :: causes =>
    "Error: " ++ reason ++ "\n\nCaused by:\n"
      ++ String.join (causes.map fun cause => "    " ++ cause ++ "\n")

end LogFanout.Program

open LogFanout LogFanout.Program in
/-- Runs the command of a command line; gives the exit code. -/
def main (words : List String) : IO UInt32 := do
  match Command.parseIn (← environment) words with
  | .error .displayHelp | .error .displayVersion =>
    IO.print usage
    return 0
  | .error _ =>
    IO.eprint usage
    return 2
  | .ok invocation =>
    let host ← observe invocation.command
    let (outcome, world) := Command.run host (← presentTime) invocation.command .start
    for (number, bytes) in world.surroundings.written do
      send number bytes
    match outcome.result with
    | .ok () => return 0
    | .error chain =>
      IO.eprint (failureText chain)
      return 1
