import LogFanout.Target
import LogFanout.Text.Utf8

/-!
# Surroundings

What has been sent so far: bytes to descriptors, bytes over connections, and datagrams, each in the
order of sending.
-/

namespace LogFanout

/-- A connection that was accepted. -/
structure Connection where
  target : Target
  /-- Whether the other side has closed it. -/
  hungUp : Bool
  deriving DecidableEq, Repr

/-- What has been asked of the operating system and sent through it. -/
structure Surroundings where
  /-- The number of attempts to duplicate or to connect. -/
  attempts : Nat
  /-- The bytes written to descriptors. -/
  written : List (Int32 × Bytes)
  /-- The connections in the order of connecting. -/
  connections : List Connection
  /-- The bytes sent over connections, by their number. -/
  streamed : List (Nat × Bytes)
  /-- The datagrams sent to targets. -/
  datagrams : List (Target × Bytes)
  deriving DecidableEq, Repr

namespace Surroundings

/-- Surroundings in which nothing has been done. -/
def start : Surroundings :=
  ⟨0, [], [], [], []⟩

/-- Writes bytes to a descriptor. -/
def write (s : Surroundings) (descriptor : Int32) (bytes : Bytes) : Surroundings :=
  { s with written := s.written ++ [(descriptor, bytes)] }

/-- Sends bytes over a connection. -/
def stream (s : Surroundings) (connection : Nat) (bytes : Bytes) : Surroundings :=
  { s with streamed := s.streamed ++ [(connection, bytes)] }

/-- Sends a datagram. -/
def send (s : Surroundings) (target : Target) (bytes : Bytes) : Surroundings :=
  { s with datagrams := s.datagrams ++ [(target, bytes)] }

/-- The other side closes the connections of a target. -/
def hangUp (s : Surroundings) (target : Target) : Surroundings :=
  { s with
    connections := s.connections.map fun c =>
      if c.target = target then { c with hungUp := true } else c }

/-- All bytes written to a descriptor. -/
def content (s : Surroundings) (descriptor : Int32) : Bytes :=
  (s.written.filter (·.1 = descriptor)).flatMap (·.2)

/-- All bytes sent over a connection. -/
def received (s : Surroundings) (connection : Nat) : Bytes :=
  (s.streamed.filter (·.1 = connection)).flatMap (·.2)

/-- The descriptors written to, each once, in the order of the first write. -/
def descriptors (s : Surroundings) : List Int32 :=
  (s.written.map (·.1)).eraseDups

/-- What each connection of a scheme received that the other side did not close. -/
def streams (s : Surroundings) (scheme : Scheme) : List Bytes :=
  s.connections.zipIdx.filterMap fun (connection, number) =>
    if connection.target.scheme = scheme ∧ !connection.hungUp then some (s.received number)
    else none

end Surroundings

end LogFanout
