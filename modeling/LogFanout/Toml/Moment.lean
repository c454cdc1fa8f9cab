import LogFanout.Text.Digits
import LogFanout.Toml.Cause

/-!
# TOML dates and times

A date, a time of day, or both with an optional offset. The seconds may be left out. Only the form
and the ranges of the parts matter: no member of a blueprint is a date.
-/

namespace LogFanout.Toml

/-- Fails because something else is expected in a part of a date and time. -/
def expecting {α : Type} (part : MomentPart) (expected : String) : Except Cause α :=
  .error (.badMoment part (some expected))

/-- Reads the digits in front of a text, of which there is at least one. -/
def readFigures (part : MomentPart) (expected : String) (cs : List Char) :
    Except Cause (List Char × List Char) :=
  match cs.takeWhile Char.isDigit with
  | [] => expecting part expected
  | digits => .ok (digits, cs.dropWhile Char.isDigit)

/-- The text after one particular character. -/
def dropChar (c : Char) (part : MomentPart) (expected : String) :
    List Char → Except Cause (List Char)
  | d :: cs => if d = c then .ok cs else expecting part expected
  | [] => expecting part expected

/-- The value of digits, of which there have to be `count`. -/
def figure (count : Nat) (part : MomentPart) (expected : String) (digits : List Char) :
    Except Cause Nat :=
  if digits.length = count then .ok (Text.digitsValue 10 digits) else expecting part expected

/-- Checks a number that has to lie between two bounds. -/
def checkRange (least most n : Nat) (part : MomentPart) (expected : String) :
    Except Cause Unit :=
  if least ≤ n ∧ n ≤ most then .ok () else expecting part expected

/-- The number of days of a month. -/
def daysOfMonth (year month : Nat) : Nat :=
  if month = 2 then
    if (year % 4 = 0 ∧ year % 100 ≠ 0) ∨ year % 400 = 0 then 29 else 28
  else if month = 4 ∨ month = 6 ∨ month = 9 ∨ month = 11 then 30
  else 31

/-- The text after a date. -/
def dropDate (cs : List Char) : Except Cause (List Char) := do
  let (years, cs) ← readFigures .whole "year or hour" cs
  let cs ← dropChar '-' .whole "\x60-\x60 (YYYY-MM) or \x60:\x60 (HH:MM)" cs
  let (months, cs) ← readFigures .date "month" cs
  let cs ← dropChar '-' .date "\x60-\x60 (MM-DD)" cs
  let (days, cs) ← readFigures .date "day" cs
  let year ← figure 4 .date "a four-digit year (YYYY)" years
  let month ← figure 2 .date "a two-digit month (MM)" months
  let day ← figure 2 .date "a two-digit day (DD)" days
  checkRange 1 12 month .date "month between 01 and 12"
  let most := daysOfMonth year month
  checkRange 1 most day .date ("day between 01 and " ++ Text.decimal most)
  .ok cs

/-- Reads the seconds and their decimal places, if there are any. -/
def readSeconds : List Char → Except Cause (Option (List Char) × List Char)
  | ':' :: cs => do
    let (seconds, cs) ← readFigures .time "second" cs
    match cs with
    | '.' :: cs => do
      let (_, cs) ← readFigures .time "nanosecond" cs
      .ok (some seconds, cs)
    | cs => .ok (some seconds, cs)
  | cs => .ok (none, cs)

/-- The text after a time of day. -/
def dropTime (cs : List Char) : Except Cause (List Char) := do
  let (hours, cs) ← readFigures .time "hour" cs
  let cs ← dropChar ':' .time "\x60:\x60 (HH:MM)" cs
  let (minutes, cs) ← readFigures .time "minute" cs
  let (seconds, cs) ← readSeconds cs
  let hour ← figure 2 .time "a two-digit hour (HH)" hours
  let minute ← figure 2 .time "a two-digit minute (MM)" minutes
  let second ← figure 2 .time "a two-digit second (SS)" (seconds.getD ['0', '0'])
  checkRange 0 23 hour .time "hour between 00 and 23"
  checkRange 0 59 minute .time "minute between 00 and 59"
  checkRange 0 60 second .time "second between 00 and 60"
  .ok cs

/-- The text after an offset, of less than a day. -/
def dropOffset : List Char → Except Cause (List Char)
  | [] => .ok []
  | c :: cs =>
    if c = 'Z' ∨ c = 'z' then .ok cs
    else if c = '+' ∨ c = '-' then do
      let (hours, cs) ← readFigures .offset "hour" cs
      let cs ← dropChar ':' .offset "\x60:\x60 (HH:MM)" cs
      let (minutes, cs) ← readFigures .offset "minute" cs
      let hour ← figure 2 .offset "a two-digit hour (HH)" hours
      let minute ← figure 2 .offset "a two-digit minute (MM)" minutes
      checkRange 0 23 hour .offset "hours between 00 and 23"
      checkRange 0 59 minute .offset "minutes between 00 and 59"
      .ok cs
    else expecting .offset "\x60Z\x60, +OFFSET, -OFFSET"

/-- Checks that nothing is left. -/
def checkEnd (cs : List Char) : Except Cause Unit :=
  if cs = [] then .ok () else .error (.badMoment .whole none)

/-- Checks a date, a time of day, or both. -/
def checkMoment (cs : List Char) : Except Cause Unit := do
  match cs.dropWhile Char.isDigit with
  | ':' :: _ => checkEnd (← dropTime cs)
  | _ =>
    match ← dropDate cs with
    | [] => .ok ()
    | c :: rest =>
      if c = 'T' ∨ c = 't' ∨ c = ' ' then checkEnd (← dropOffset (← dropTime rest))
      else expecting .both "\x60T\x60 between date and time"

end LogFanout.Toml
