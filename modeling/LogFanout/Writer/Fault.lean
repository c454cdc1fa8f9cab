import LogFanout.Argument
import LogFanout.Host.SystemFault
import LogFanout.Transport

/-!
# Faults of writers

Why a writer could not be opened, and why it did not deliver a line.
-/

namespace LogFanout

/-- The largest datagram in bytes. -/
def maxDatagram : Nat :=
  65507

/-- Why a writer could not be opened. -/
inductive InitFault where
  /-- The argument is not of the kind that a transport wants. -/
  | wrongArgument (transport : Transport) (found : Argument)
  | notDuplicated (descriptor : Int32) (why : SystemFault)
  | notConnected (target : Target) (why : SystemFault)
  /-- A writer of another kind refused. -/
  | refused (writer reason : String)
  deriving DecidableEq, Repr

/-- Why a line was not delivered. -/
inductive WriteFault where
  | notOpen (transport : Transport)
  | system (transport : Transport) (why : SystemFault)
  | datagramTooLong (length : Nat)
  /-- A writer of another kind refused. -/
  | refused (writer reason : String)
  deriving DecidableEq, Repr

namespace InitFault

/-- The writer that a fault comes from. -/
def writer : InitFault → String
  | .wrongArgument transport _ => transport.name
  | .notDuplicated .. => Transport.descriptor.name
  | .notConnected .. => Transport.socket.name
  | .refused writer _ => writer

/-- What went wrong. -/
def reason : InitFault → String
  | .wrongArgument .descriptor found => "expected a file descriptor argument, got " ++ found.shown
  | .wrongArgument .socket found => "expected a socket target argument, got " ++ found.shown
  | .notDuplicated descriptor why =>
    "dup(" ++ Text.decimalInt descriptor.toInt ++ ") failed: " ++ why.message
  | .notConnected target why => "connect to " ++ target.text ++ " failed: " ++ why.message
  | .refused _ reason => reason

/-- The wording of a fault. -/
def message (fault : InitFault) : String :=
  "writer '" ++ fault.writer ++ "' init error: " ++ fault.reason

end InitFault

namespace WriteFault

/-- The writer that a fault comes from. -/
def writer : WriteFault → String
  | .notOpen transport => transport.name
  | .system transport _ => transport.name
  | .datagramTooLong _ => Transport.socket.name
  | .refused writer _ => writer

/-- What went wrong. -/
def reason : WriteFault → String
  | .notOpen .descriptor => "descriptor not open"
  | .notOpen .socket => "socket not connected"
  | .system _ why => why.message
  | .datagramTooLong length =>
    Text.decimal length ++ " byte line exceeds the " ++ Text.decimal maxDatagram
      ++ " byte datagram limit"
  | .refused _ reason => reason

/-- The wording of a fault. -/
def message (fault : WriteFault) : String :=
  "writer '" ++ fault.writer ++ "' write error: " ++ fault.reason

end WriteFault

end LogFanout
