import LogFanout.Decimal.Shortest
import LogFanout.Json.Fault
import LogFanout.Text.Digits

/-!
# JSON numbers

An integer that fits a 64-bit word, signed or not, is kept exactly. Any other number is taken to the
binary format: the leading digits that fit a word, times or divided by a power of ten, each step
rounded.
-/

namespace LogFanout.Json

open Decimal (Binary64)

/-- A number that was read. -/
inductive Number where
  | integer (value : Int)
  | fraction (negative : Bool) (value : Binary64)
  deriving DecidableEq, Repr

/-- The largest power of ten in the range of the binary format. -/
def maxPower : Nat :=
  308

/-- The largest exponent that is told from larger ones. -/
def maxExponent : Nat :=
  2147483647

/-- A digit is missing in front of a text. -/
def Fault.noDigit (rest : List Char) : Fault :=
  if rest = [] then .before .endInValue [] else .within .badNumber rest

/-- Takes digits into a word as long as it does not run over; gives the word and the digits left. -/
def gather : Nat → List Char → Nat × List Char
  | word, [] => (word, [])
  | word, c :: cs =>
    let next := 10 * word + Text.digitValue c
    if next < UInt64.size then gather next cs else (word, c :: cs)

/-- A number times a power of ten, `none` beyond the range. -/
def scale : (fuel : Nat) → Binary64 → Int → Option Binary64
  | 0, _, _ => some .zero
  | fuel + 1, value, exponent =>
    if exponent.natAbs ≤ maxPower then do
      let power ← Binary64.ofNat (Nat.pow 10 exponent.natAbs)
      if 0 ≤ exponent then value.mul power else value.div power
    else if value = .zero then some .zero
    else if 0 ≤ exponent then none
    else do
      let power ← Binary64.ofNat (Nat.pow 10 maxPower)
      scale fuel (← value.div power) (exponent + maxPower)

/-- The number of a word and a power of ten, with the text after it. -/
def fraction (negative : Bool) (word : Nat) (exponent : Int) : Reader Number := fun cs =>
  match (Binary64.ofNat word).bind fun value => scale 4 value exponent with
  | some value => .ok (.fraction negative value, cs)
  | none => .error (.before .hugeNumber cs)

/-- The text after the digits that take an exponent beyond the largest one, counted from digits
worth `value`. -/
def dropExponent : (value : Nat) → List Char → List Char
  | _, [] => []
  | value, c :: cs =>
    let next := 10 * value + Text.digitValue c
    if maxExponent < next then cs else dropExponent next cs

/-- Reads the exponent after its letter, for the number `word * 10 ^ exponent` so far. -/
def readExponent (negative : Bool) (word : Nat) (exponent : Int) : Reader Number := fun cs =>
  let (down, cs) := match cs with
    | '+' :: cs => (false, cs)
    | '-' :: cs => (true, cs)
    | cs => (false, cs)
  let digits := cs.takeWhile Char.isDigit
  let rest := cs.dropWhile Char.isDigit
  if digits = [] then .error (.noDigit rest)
  else if maxExponent < Text.digitsValue 10 digits then
    if word ≠ 0 ∧ !down then .error (.before .hugeNumber (dropExponent 0 cs))
    else .ok (.fraction negative .zero, rest)
  else
    let shift : Int := Text.digitsValue 10 digits
    fraction negative word (if down then exponent - shift else exponent + shift) rest

/-- Reads an exponent if there is one. -/
def readTail (negative : Bool) (word : Nat) (exponent : Int) : Reader Number
  | 'e' :: cs | 'E' :: cs => readExponent negative word exponent cs
  | cs => fraction negative word exponent cs

/-- Reads the digits after the point. -/
def readPlaces (negative : Bool) (word : Nat) (exponent : Int) : Reader Number := fun cs =>
  let places := cs.takeWhile Char.isDigit
  let rest := cs.dropWhile Char.isDigit
  if places = [] then .error (.noDigit rest)
  else
    let (word, left) := gather word places
    readTail negative word (exponent - (places.length - left.length : Nat)) rest

/-- Reads a number from behind its sign. -/
def readNumber (negative : Bool) : Reader Number := fun cs =>
  let digits := cs.takeWhile Char.isDigit
  let rest := cs.dropWhile Char.isDigit
  match digits with
  | [] => .error (.noDigit rest)
  | '0' :: c :: more => .error (.within .badNumber (c :: more ++ rest))
  | digits =>
    let (word, left) := gather 0 digits
    match rest with
    | '.' :: rest => readPlaces negative word left.length rest
    | 'e' :: rest | 'E' :: rest => readExponent negative word left.length rest
    | rest =>
      if left ≠ [] then fraction negative word left.length rest
      else if !negative then .ok (.integer word, rest)
      else if word = 0 ∨ -(word : Int) < Int64.minValue.toInt then fraction true word 0 rest
      else .ok (.integer (-word), rest)

/-- Passes over the digits of an exponent after its letter, in a number whose value does not matter.
-/
def skipExponent (cs : List Char) : Except Fault (List Char) :=
  let cs := match cs with
    | '+' :: cs => cs
    | '-' :: cs => cs
    | cs => cs
  match cs with
  | c :: rest =>
    if c.isDigit then .ok (rest.dropWhile Char.isDigit) else .error (.within .badNumber cs)
  | [] => .error (.before .badNumber [])

/-- Passes over an exponent if there is one. -/
def skipTail : List Char → Except Fault (List Char)
  | 'e' :: cs | 'E' :: cs => skipExponent cs
  | cs => .ok cs

/-- Passes over a number from behind its sign. -/
def skipNumber (cs : List Char) : Except Fault (List Char) :=
  match cs.takeWhile Char.isDigit with
  | [] => .error (.within .badNumber cs)
  | '0' :: _ :: _ => .error (.within .badNumber (cs.drop 1))
  | _ =>
    match cs.dropWhile Char.isDigit with
    | '.' :: rest =>
      match rest.takeWhile Char.isDigit with
      | [] => .error (.within .badNumber rest)
      | _ => skipTail (rest.dropWhile Char.isDigit)
    | rest => skipTail rest

/-- A number as messages show it. -/
def Number.found : Number → Document.Found
  | .integer value => .integer value
  | .fraction negative value =>
    .fraction ((if negative then "-" else "") ++ (value.shortest .even).text)

end LogFanout.Json
