import LogFanout.Json.Number
import LogFanout.Json.Text

/-!
# Passing over values

The value of an unknown member only has to be well formed. What stands open around the place being
read is kept in a list, so values may be nested to any depth.
-/

namespace LogFanout.Json

/-- Something that stands open. -/
inductive Frame where
  | list
  | record
  deriving DecidableEq, Repr

/-- The character that closes it. -/
def Frame.closer : Frame → Char
  | .list => ']'
  | .record => '\x7d'

/-- The text ends while it stands open. -/
def Frame.unclosed : Frame → Cause
  | .list => .endInList
  | .record => .endInRecord

/-- Neither a comma nor its end comes next. -/
def Frame.noEnd : Frame → Cause
  | .list => .noListEnd
  | .record => .noRecordEnd

/-- What comes next. -/
inductive Next where
  /-- A value. -/
  | value
  /-- A comma or the end of what stands open. -/
  | more
  deriving DecidableEq, Repr

/-- Passes over a word, a string or a number. -/
def skipScalar (c : Char) (cs : List Char) : Except Fault (List Char) :=
  if c = 'n' then readWord ['u', 'l', 'l'] cs
  else if c = 't' then readWord ['r', 'u', 'e'] cs
  else if c = 'f' then readWord ['a', 'l', 's', 'e'] cs
  else if c = '"' then skipText cs
  else if c = '-' then skipNumber cs
  else if c.isDigit then skipNumber (c :: cs)
  else .error (.within .noValue (c :: cs))

/-- Passes over a key and its colon. -/
def skipKey (cs : List Char) : Except Fault (List Char) :=
  match dropBlank cs with
  | [] => .error (.before .endInRecord [])
  | '"' :: cs => do
    let cs ← skipText cs
    readColon cs
  | cs => .error (.within .keyNotText cs)

/-- Passes over what is left of the values that stand open. -/
def skipFrom : (fuel : List Char) → List Frame → Next → List Char → Except Fault (List Char)
  | _, [], .more, cs => .ok cs
  | [], _, .value, cs => .error (.before .endInValue cs)
  | [], frame :: _, .more, cs => .error (.before frame.unclosed cs)
  | _ :: fuel, stack, .value, cs =>
    match dropBlank cs with
    | [] => .error (.before .endInValue [])
    | c :: cs =>
      if c = '[' then
        match dropBlank cs with
        | [] => .error (.before .endInList [])
        | ']' :: cs => skipFrom fuel stack .more cs
        | cs => skipFrom fuel (.list :: stack) .value cs
      else if c = '\x7b' then
        match dropBlank cs with
        | [] => .error (.before .endInRecord [])
        | '\x7d' :: cs => skipFrom fuel stack .more cs
        | cs => do
          let cs ← skipKey cs
          skipFrom fuel (.record :: stack) .value cs
      else do
        let cs ← skipScalar c cs
        skipFrom fuel stack .more cs
  | _ :: fuel, frame :: stack, .more, cs =>
    match dropBlank cs with
    | [] => .error (.before frame.unclosed [])
    | c :: cs =>
      if c = ',' then
        match frame with
        | .list => skipFrom fuel (frame :: stack) .value cs
        | .record => do
          let cs ← skipKey cs
          skipFrom fuel (frame :: stack) .value cs
      else if c = frame.closer then skipFrom fuel stack .more cs
      else .error (.within frame.noEnd (c :: cs))

/-- Passes over a value. -/
def skipValue (cs : List Char) : Except Fault (List Char) :=
  skipFrom cs [] .value cs

end LogFanout.Json
