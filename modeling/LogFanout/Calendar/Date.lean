/-!
# Dates

Days are counted from 1970-01-01, forwards and backwards, in the proleptic Gregorian calendar. Years
are counted from March, so that the day a leap year adds is the last day of its year: a span of 400
years has 146097 days, a century 36524, four years 1461 and a year 365.
-/

namespace LogFanout

/-- A day of the proleptic Gregorian calendar. -/
structure Date where
  year : Int
  month : Nat
  day : Nat
  deriving DecidableEq, Repr

namespace Date

/-- The days from 0000-03-01 to 1970-01-01. -/
def epochShift : Int :=
  719468

/-- The days in 400 years. -/
def spanDays : Int :=
  146097

/-- The year of its span in which a day of the span lies, both counted from 0. -/
def yearOfSpan (day : Nat) : Nat :=
  (day - day / 1460 + day / 36524 - day / 146096) / 365

/-- The days of a span before one of its years. -/
def daysBeforeYear (year : Nat) : Nat :=
  365 * year + year / 4 - year / 100

/-- The month in which a day of the year lies, both counted from 0, March first. -/
def monthOfYear (day : Nat) : Nat :=
  (5 * day + 2) / 153

/-- The days of a year before one of its months. -/
def daysBeforeMonth (month : Nat) : Nat :=
  (153 * month + 2) / 5

/-- The date of a day counted from 1970-01-01. -/
def ofDayNumber (n : Int) : Date :=
  let span := (n + epochShift) / spanDays
  let dayOfSpan := ((n + epochShift) % spanDays).toNat
  let year := yearOfSpan dayOfSpan
  let dayOfYear := dayOfSpan - daysBeforeYear year
  let month := monthOfYear dayOfYear
  { year := 400 * span + year + (if month < 10 then 0 else 1)
    month := if month < 10 then month + 3 else month - 9
    day := dayOfYear - daysBeforeMonth month + 1 }

end Date

end LogFanout
