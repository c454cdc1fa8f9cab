import LogFanout.Host.Basic
import LogFanout.Host.Surroundings
import LogFanout.Writer.Basic

/-!
# Built-in writers

A descriptor writer duplicates the descriptor it is opened on and writes to the duplicate, so the
caller's own descriptor is never closed. A socket writer connects to a target; streams carry the
bytes of all lines, and each datagram one whole line. Opening again switches over; an open that
fails changes nothing.
-/

namespace LogFanout

/-- What a socket writer is connected to. -/
inductive Link where
  /-- A connection by its number. -/
  | stream (target : Target) (connection : Nat)
  | datagram (target : Target)
  deriving DecidableEq, Repr

/-- The target of a link. -/
def Link.target : Link → Target
  | .stream target _ => target
  | .datagram target => target

/-- A writer of a built-in kind and what it holds open. -/
inductive Builtin where
  | descriptor (opened : Option Int32)
  | socket (opened : Option Link)
  deriving DecidableEq, Repr

namespace Builtin

/-- A closed writer of a kind. -/
def ofTransport : Transport → Builtin
  | .descriptor => .descriptor none
  | .socket => .socket none

/-- The kind of a writer. -/
def transport : Builtin → Transport
  | .descriptor _ => .descriptor
  | .socket _ => .socket

/-- Whether a writer holds something open. -/
def isOpen : Builtin → Bool
  | .descriptor opened => opened.isSome
  | .socket opened => opened.isSome

/-- The longest path of a socket in bytes. -/
def maxSocketPath : Nat :=
  107

/-- Duplicates a descriptor. -/
def duplicate (host : Host) (number : Int32) (s : Surroundings) :
    Except SystemFault Unit × Surroundings :=
  if number.toInt < 0 then (.error .badDescriptor, s)
  else (host.duplicate s.attempts number, { s with attempts := s.attempts + 1 })

/-- Connects to a target. -/
def connect (host : Host) (target : Target) (s : Surroundings) :
    Except SystemFault Link × Surroundings :=
  if target.scheme = .unix ∧ target.address.toList.contains (Char.ofNat 0) then
    (.error .socketNul, s)
  else if target.scheme = .unix ∧ maxSocketPath < (Text.utf8 target.address).length then
    (.error .socketPathTooLong, s)
  else
    let tried := { s with attempts := s.attempts + 1 }
    match host.connect s.attempts target with
    | .error why => (.error why, tried)
    | .ok () =>
      if target.scheme = .udp then (.ok (.datagram target), tried)
      else
        (.ok (.stream target s.connections.length),
          { tried with connections := tried.connections ++ [⟨target, false⟩] })

/-- Opens a writer. -/
def init (host : Host) (argument : Argument) (writer : Builtin) (s : Surroundings) :
    Except InitFault Unit × Builtin × Surroundings :=
  match writer, argument with
  | .descriptor _, .descriptor number =>
    match duplicate host number s with
    | (.ok (), s) => (.ok (), .descriptor (some number), s)
    | (.error why, s) => (.error (.notDuplicated number why), writer, s)
  | .socket _, .socket target =>
    match connect host target s with
    | (.ok link, s) => (.ok (), .socket (some link), s)
    | (.error why, s) => (.error (.notConnected target why), writer, s)
  | _, _ => (.error (.wrongArgument writer.transport argument), writer, s)

/-- Writes a line. Writing nothing to a descriptor or a stream always succeeds. -/
def write (host : Host) (line : Bytes) (writer : Builtin) (s : Surroundings) :
    Except WriteFault Unit × Surroundings :=
  match writer with
  | .descriptor none => (.error (.notOpen .descriptor), s)
  | .descriptor (some number) =>
    if line = [] then (.ok (), s)
    else
      match host.append number with
      | .ok () => (.ok (), s.write number line)
      | .error why => (.error (.system .descriptor why), s)
  | .socket none => (.error (.notOpen .socket), s)
  | .socket (some (.stream _ connection)) =>
    if line = [] then (.ok (), s)
    else if (s.connections[connection]?).any Connection.hungUp then
      (.error (.system .socket .brokenPipe), s)
    else (.ok (), s.stream connection line)
  | .socket (some (.datagram target)) =>
    if maxDatagram < line.length then (.error (.datagramTooLong line.length), s)
    else (.ok (), s.send target line)

/-- Closes a writer. -/
def destroy : Builtin → Builtin
  | .descriptor _ => .descriptor none
  | .socket _ => .socket none

end Builtin

/-- Surroundings and the writers of built-in kinds made in them, by their number. -/
structure World where
  surroundings : Surroundings
  writers : List Builtin
  deriving DecidableEq, Repr

namespace World

/-- A world in which nothing has been done. -/
def start : World :=
  ⟨.start, []⟩

/-- The writer with a number. -/
def writer (world : World) (number : Nat) : Builtin :=
  world.writers.getD number (.descriptor none)

/-- Puts a writer in the place of the one with a number. -/
def setWriter (world : World) (number : Nat) (writer : Builtin) : World :=
  { world with writers := world.writers.set number writer }

/-- Prints a text on a standard stream. If the stream is closed, the text is lost without notice. -/
def print (host : Host) (descriptor : Int32) (text : String) (world : World) :
    Except SystemFault Unit × World :=
  match host.append descriptor with
  | .ok () =>
    (.ok (), { world with surroundings := world.surroundings.write descriptor (Text.utf8 text) })
  | .error .badDescriptor => (.ok (), world)
  | .error why => (.error why, world)

/-- The writers of built-in kinds, by their number. -/
def builtins (host : Host) : Writers Nat World where
  create transport world :=
    (world.writers.length,
      { world with writers := world.writers ++ [Builtin.ofTransport transport] })
  init _ number argument world :=
    let (outcome, writer, surroundings) :=
      (world.writer number).init host argument world.surroundings
    (outcome, { world with surroundings }.setWriter number writer)
  write _ number line world :=
    let (outcome, surroundings) := (world.writer number).write host line world.surroundings
    (⟨outcome, none⟩, { world with surroundings })
  destroy _ number world := world.setWriter number (world.writer number).destroy
  release number world := world.setWriter number (world.writer number).destroy

end World

end LogFanout
