/-!
# Delivery counters

What became of the writes of one endpoint. The counters are 64-bit words and start again at zero
when they run over.
-/

namespace LogFanout

/-- Delivery counters of one endpoint. -/
structure Counters where
  /-- Writes that succeeded. -/
  writes : UInt64
  /-- Writes that failed. -/
  failures : UInt64
  /-- Bytes of the writes that succeeded. -/
  bytes : UInt64
  deriving DecidableEq, Repr

namespace Counters

/-- The counters of a new endpoint. -/
def zero : Counters :=
  ⟨0, 0, 0⟩

/-- Counts a write of `length` bytes that succeeded. -/
def delivered (counters : Counters) (length : Nat) : Counters :=
  { counters with writes := counters.writes + 1, bytes := counters.bytes + UInt64.ofNat length }

/-- Counts a write that failed. -/
def refused (counters : Counters) : Counters :=
  { counters with failures := counters.failures + 1 }

/-- Counters added up field by field. -/
def add (a b : Counters) : Counters :=
  ⟨a.writes + b.writes, a.failures + b.failures, a.bytes + b.bytes⟩

end Counters

end LogFanout
