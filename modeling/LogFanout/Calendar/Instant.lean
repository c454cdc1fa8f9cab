import LogFanout.Calendar.Date
import LogFanout.Text.Numeral

/-!
# Instants and their stamps

An instant is a second counted from the start of 1970 in universal time and the nanoseconds gone
since that second began. A leap second is the second before it with more than 10^9 nanoseconds. A
stamp shows an instant in a zone with a fixed offset.
-/

namespace LogFanout

/-- A point in time. -/
structure Instant where
  /-- Seconds since 1970-01-01 00:00:00 in universal time. -/
  seconds : Int
  /-- Nanoseconds since that second, 10^9 or more in a leap second. -/
  nanos : Nat
  deriving DecidableEq, Repr

namespace Instant

/-- The instant from which instants are counted. -/
def epoch : Instant :=
  ⟨0, 0⟩

/-- A number padded with zeros to `width` digits. -/
def padded (width n : Nat) : String :=
  let digits := Nat.toDigits 10 n
  String.ofList (List.replicate (width - digits.length) '0' ++ digits)

/-- A year: four digits, with a sign in front outside 0 to 9999. -/
def yearText (year : Int) : String :=
  if year < 0 then "-" ++ padded 4 year.natAbs
  else if year ≤ 9999 then padded 4 year.natAbs
  else "+" ++ padded 4 year.natAbs

/-- The date and the time of day, `offset` seconds ahead of universal time. -/
def stamp (offset : Int) (instant : Instant) : String :=
  let here := instant.seconds + offset
  let date := Date.ofDayNumber (here / 86400)
  let time := (here % 86400).toNat
  yearText date.year ++ "-" ++ padded 2 date.month ++ "-" ++ padded 2 date.day ++ " "
    ++ padded 2 (time / 3600) ++ ":" ++ padded 2 (time / 60 % 60) ++ ":"
    ++ padded 2 (time % 60 + instant.nanos / 1000000000)

/-- The microseconds of a second that a stamp shows at most. -/
def maxMicros : Nat :=
  999999

/-- The microseconds since the second began; those of a leap second stop at the largest number. -/
def micros (instant : Instant) : Nat :=
  min (instant.nanos / 1000) maxMicros

end Instant

end LogFanout
