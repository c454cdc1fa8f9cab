import LogFanout.Decimal.Shortest
import LogFanout.Text.Digits
import LogFanout.Toml.Fault

/-!
# TOML numbers

Integers have any number of digits, in base ten with a sign or in base sixteen, eight or two
without. Decimal numbers have a point, an exponent or both. Single underscores may stand between
digits; a number in base ten begins with a zero only if that is its only digit before the point.

Whether a text has to be an integer is decided before its digits are looked at. Such a text may
still have no value: there may be no digit behind the letter of a base, or other characters behind
the digits around an underscore. It only fails once its value is asked for.
-/

namespace LogFanout.Toml

open Decimal (Binary64)

/-- A number with a fraction, as it is written. -/
inductive Fraction where
  | finite (negative : Bool) (digits : Nat) (exponent : Int)
  | infinite (negative : Bool)
  | notANumber
  deriving DecidableEq, Repr

/-- A number with a sign. -/
def signed (negative : Bool) (n : Nat) : Int :=
  if negative then -n else n

/-- A text without its underscores, which stand between two characters accepted by `isDigit`;
`after` says whether such a one came right before. -/
def dropUnderscores (isDigit : Char → Bool) :
    (after : Bool) → List Char → Except Flaw (List Char)
  | _, [] => .ok []
  | after, c :: cs =>
    if c = '_' then
      if after && cs.head?.any isDigit then dropUnderscores isDigit false cs
      else .error ⟨.underscore, c :: cs, 1⟩
    else do
      let cs ← dropUnderscores isDigit (isDigit c) cs
      .ok (c :: cs)

/-- A digit of any base. -/
def isAnyDigit (c : Char) : Bool :=
  (Text.hexValue? c).isSome

/-- The number of digits of a base. -/
def Base.size : Base → Nat
  | .hexadecimal => 16
  | .octal => 8
  | .binary => 2

/-- Whether a character is a digit of a base. -/
def Base.isDigit (base : Base) (c : Char) : Bool :=
  (Text.hexValue? c).any (· < base.size)

/-- The base that a letter tells, capital or small. -/
def Base.ofLetter? (c : Char) : Option Base :=
  [hexadecimal, octal, binary].find? fun base => base.letter = c.toLower

/-- Whether a letter tells a base; the one for base ten is never needed. -/
def isBaseLetter (c : Char) : Bool :=
  c.toLower = 'd' || (Base.ofLetter? c).isSome

/-- The value of the digits behind the letter of a base, if there are any. -/
def Base.readDigits (base : Base) (cs : List Char) : Except Flaw (Option Int) := do
  let wrong := cs.dropWhile fun c => base.isDigit c || c = '_'
  if cs.head? = some '+' ∨ cs.head? = some '-' then .error ⟨.innerSign, cs, 1⟩
  if wrong ≠ [] then .error (.before (.badDigits base) wrong)
  let digits ← dropUnderscores isAnyDigit false cs
  .ok (if digits = [] then none else some (Text.digitsValue base.size digits))

/-- The value of digits in base ten; a zero in front has to be the only one. -/
def readWhole (negative : Bool) (digits : List Char) : Except Flaw Int :=
  if digits.head? = some '0' ∧ 1 < digits.length then .error ⟨.leadingZero, digits, 1⟩
  else .ok (signed negative (Text.digitsValue 10 digits))

/-- The value of an integer in base ten with underscores. -/
def readSeparated (negative : Bool) (cs : List Char) : Except Flaw (Option Int) := do
  if cs.head? = some '0' then .error ⟨.leadingZero, cs, 1⟩
  let digits ← dropUnderscores isAnyDigit false cs
  .ok (if digits.all Char.isDigit then some (signed negative (Text.digitsValue 10 digits))
    else none)

/-- Reads the digits of a part of a number, without the underscores around them. -/
def takeDigits (part : NumberPart) (cs : List Char) : Except Flaw (List Char × List Char) :=
  let written := cs.takeWhile fun c => c.isDigit || c = '_'
  match written.filter Char.isDigit with
  | [] => .error (.before (.badNumber part) cs)
  | digits =>
    if part = .mantissa ∧ cs.head? = some '0' ∧ 1 < digits.length then
      .error ⟨.leadingZero, cs, 1⟩
    else .ok (digits, cs.drop written.length)

/-- Reads the digits behind a point, if there is one. -/
def readPlaces : List Char → Except Flaw (List Char × List Char)
  | '.' :: cs => takeDigits .places cs
  | cs => .ok ([], cs)

/-- Reads an exponent, if there is one. -/
def readPower : List Char → Except Flaw (Int × List Char)
  | [] => .ok (0, [])
  | c :: cs =>
    if c = 'e' ∨ c = 'E' then do
      let negative := cs.head? = some '-'
      let unsigned := if negative ∨ cs.head? = some '+' then cs.drop 1 else cs
      let (digits, rest) ← takeDigits .exponent unsigned
      .ok (signed negative (Text.digitsValue 10 digits), rest)
    else .ok (0, c :: cs)

/-- The value of a decimal number. -/
def readFraction (negative : Bool) (cs : List Char) : Except Flaw Fraction := do
  let (whole, rest) ← takeDigits .mantissa cs
  let (places, rest) ← readPlaces rest
  let (power, rest) ← readPower rest
  if rest ≠ [] then .error (.whole .badFloat rest)
  discard (dropUnderscores Char.isDigit false cs)
  .ok (.finite negative (Text.digitsValue 10 (whole ++ places)) (power - places.length))

namespace Fraction

/-- The value of a finite number in the binary format; `none` beyond its range. -/
def magnitude? (digits : Nat) (exponent : Int) : Option Binary64 :=
  let length : Int := (Nat.toDigits 10 digits).length
  if digits = 0 ∨ exponent + length < -400 then some .zero
  else if 400 < exponent + length then none
  else if 0 ≤ exponent then Binary64.ofRatio (digits * Nat.pow 10 exponent.toNat) 1
  else Binary64.ofRatio digits (Nat.pow 10 (-exponent).toNat)

/-- A number as messages show it; `none` beyond the range. -/
def shown? : Fraction → Option String
  | .finite negative digits exponent => do
    let value ← magnitude? digits exponent
    some ((if negative then "-" else "") ++ (value.shortest .up).positional)
  | .infinite negative => some (if negative then "-inf" else "inf")
  | .notANumber => some "NaN"

end Fraction

end LogFanout.Toml
