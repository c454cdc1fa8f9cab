import LogFanout.Writer.Builtin

/-!
# Histories of built-in writers

Built-in writers can be used without a registry, several of them side by side: each of them is
opened, written to and closed at will, and meanwhile the other side of a connection may close it.
-/

namespace LogFanout

namespace Builtin

/-- A call on a writer. -/
inductive Use where
  | init (argument : Argument)
  | write (line : Bytes)
  | destroy
  deriving DecidableEq, Repr

/-- The answer to a call. -/
inductive Answer where
  | opened (outcome : Except InitFault Unit)
  | wrote (outcome : Except WriteFault Unit)
  | destroyed

/-- Makes a call. -/
def use (host : Host) (use : Use) (writer : Builtin) (s : Surroundings) :
    Answer × Builtin × Surroundings :=
  match use with
  | .init argument =>
    let (outcome, writer, s) := writer.init host argument s
    (.opened outcome, writer, s)
  | .write line =>
    let (outcome, s) := writer.write host line s
    (.wrote outcome, writer, s)
  | .destroy => (.destroyed, writer.destroy, s)

end Builtin

namespace World

/-- Something that happens in a world. -/
inductive Event where
  | make (transport : Transport)
  /-- A call on the writer with a number. -/
  | use (number : Nat) (use : Builtin.Use)
  /-- The other side closes the connections of a target. -/
  | hangUp (target : Target)
  deriving DecidableEq, Repr

/-- Makes a call on the writer with a number, if there is one. -/
def use (host : Host) (number : Nat) (use : Builtin.Use) (world : World) :
    Option Builtin.Answer × World :=
  match world.writers[number]? with
  | none => (none, world)
  | some writer =>
    let (answer, writer, surroundings) := writer.use host use world.surroundings
    (some answer, { world with surroundings }.setWriter number writer)

/-- The world after an event. -/
def after (host : Host) (world : World) : Event → World
  | .make transport => { world with writers := world.writers ++ [Builtin.ofTransport transport] }
  | .use number use => (world.use host number use).2
  | .hangUp target => { world with surroundings := world.surroundings.hangUp target }

/-- The world after a history. -/
def run (host : Host) (history : List Event) (world : World) : World :=
  history.foldl (after host) world

end World

end LogFanout
