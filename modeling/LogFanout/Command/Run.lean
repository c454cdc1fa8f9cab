import LogFanout.Command.Arguments
import LogFanout.Command.Emit
import LogFanout.Command.Info

/-!
# Running a command

Answers about a configuration are printed on standard output. A command whose answer is refused
there fails.
-/

namespace LogFanout.Command

/-- Prints an answer; an empty one is not printed. -/
def printed (host : Host) (answer : String × Except (List String) Unit) (world : World) :
    Outcome × World :=
  if answer.1 = "" then (⟨answer.2, []⟩, world)
  else
    match World.print host Logger.standardOutput answer.1 world with
    | (.ok (), world) => (⟨answer.2, []⟩, world)
    | (.error why, world) => (⟨.error (unprinted "stdout" why), []⟩, world)

/-- Runs a command. -/
def run (host : Host) (now : Instant) (command : Command) (world : World) : Outcome × World :=
  match command with
  | .emit arguments => arguments.run host now world
  | .validate arguments => printed host (arguments.validate host) world
  | .info arguments => printed host (arguments.describe host) world

end LogFanout.Command
