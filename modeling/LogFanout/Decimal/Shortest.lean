import LogFanout.Decimal.Binary64

/-!
# Shortest digits

A number of the 64-bit format is shown with the fewest decimal digits that are nearer to it than to
any other number of the format. Of the two neighbours on a decimal grid the nearer one is taken; if
both are as near, the caller says which.
-/

namespace LogFanout.Decimal

/-- The decimal number `digits * 10 ^ exponent`. -/
structure Scientific where
  digits : Nat
  exponent : Int
  deriving DecidableEq, Repr

namespace Binary64

/-- The numbers that read as `x`, from `low` to `high` in quarters of a unit; the ends count if the
mantissa is even. -/
def interval (x : Binary64) : Nat × Nat :=
  let below := if x.mantissa = mantissaBound / 2 ∧ 0 < x.scale then 1 else 2
  ((4 * x.mantissa - below) * Nat.pow 2 x.scale, (4 * x.mantissa + 2) * Nat.pow 2 x.scale)

/-- Whether `digits * 10 ^ exponent` reads as `x`. -/
def admits (x : Binary64) (digits : Nat) (exponent : Int) : Bool :=
  let (low, high) := x.interval
  let value := digits * (4 * one) * Nat.pow 10 exponent.toNat
  let unit := Nat.pow 10 (-exponent).toNat
  if x.mantissa % 2 = 0 then low * unit ≤ value && value ≤ high * unit
  else low * unit < value && value < high * unit

/-- The exponent of the leading decimal digit of a positive number, found by trying `fuel` exponents
from `exponent` downwards. -/
def leadingExponent (x : Binary64) : Nat → Int → Int
  | 0, exponent => exponent
  | fuel + 1, exponent =>
    if one * Nat.pow 10 exponent.toNat ≤ x.units * Nat.pow 10 (-exponent).toNat then exponent
    else x.leadingExponent fuel (exponent - 1)

/-- The neighbour of `x` on the grid of multiples of `10 ^ exponent` that reads as `x`, the nearer
one if both do. -/
def onGrid (tie : Tie) (x : Binary64) (exponent : Int) : Option Nat :=
  let num := x.units * Nat.pow 10 (-exponent).toNat
  let den := one * Nat.pow 10 exponent.toNat
  let nearest := roundDiv tie num den
  let other := if nearest * den ≤ num then nearest + 1 else nearest - 1
  if x.admits nearest exponent then some nearest
  else if x.admits other exponent then some other
  else none

/-- Tries grids from `exponent` downwards. -/
def shortestFrom (tie : Tie) (x : Binary64) : Nat → Int → Scientific
  | 0, exponent => ⟨(x.onGrid tie exponent).getD 0, exponent⟩
  | fuel + 1, exponent =>
    match x.onGrid tie exponent with
    | some digits => ⟨digits, exponent⟩
    | none => x.shortestFrom tie fuel (exponent - 1)

/-- A decimal number without the zeros at the end of its digits. -/
def dropZeros : Nat → Scientific → Scientific
  | 0, s => s
  | fuel + 1, s =>
    if s.digits ≠ 0 ∧ s.digits % 10 = 0 then dropZeros fuel ⟨s.digits / 10, s.exponent + 1⟩ else s

/-- The shortest decimal number that reads as `x`. -/
def shortest (tie : Tie) (x : Binary64) : Scientific :=
  if x.mantissa = 0 then ⟨0, 0⟩
  else dropZeros 20 (x.shortestFrom tie 17 (x.leadingExponent 640 309))

end Binary64

namespace Scientific

/-- The exponent of the leading digit. -/
def magnitude (s : Scientific) : Int :=
  s.exponent + (Nat.toDigits 10 s.digits).length - 1

/-- Digits and a point, with at least one digit on both sides of it. -/
def positional (s : Scientific) : String :=
  let digits := Nat.toDigits 10 s.digits
  if 0 ≤ s.exponent then
    String.ofList (digits ++ List.replicate s.exponent.toNat '0' ++ ['.', '0'])
  else
    let places := (-s.exponent).toNat
    let digits := List.replicate (places + 1 - digits.length) '0' ++ digits
    String.ofList
      (digits.take (digits.length - places) ++ '.' :: digits.drop (digits.length - places))

/-- One digit before the point and an exponent with a sign. -/
def exponential (s : Scientific) : String :=
  let digits := Nat.toDigits 10 s.digits
  let power := s.magnitude
  String.ofList <|
    digits.take 1 ++ (if digits.length = 1 then [] else '.' :: digits.drop 1)
      ++ ['e', if power < 0 then '-' else '+'] ++ Nat.toDigits 10 power.natAbs

/-- Positional from 10^-5 up to below 10^16, exponential elsewhere. -/
def text (s : Scientific) : String :=
  if s.digits = 0 ∨ (-5 ≤ s.magnitude ∧ s.magnitude ≤ 15) then s.positional else s.exponential

end Scientific

end LogFanout.Decimal
