import LogFanout.Decimal.Rounding

/-!
# The 64-bit binary format

Finite numbers of the format that are not negative. Each is a mantissa below 2^53 times a power of
two, counted in units of the least positive one, 2^-1074. Every operation gives the number nearest
to the exact result, the one with the even mantissa of two, and nothing where that is out of range.
-/

namespace LogFanout.Decimal

/-- The finite number `mantissa * 2 ^ scale * 2 ^ -1074`. -/
structure Binary64 where
  mantissa : Nat
  scale : Nat
  deriving DecidableEq, Repr

namespace Binary64

/-- Mantissas are smaller than this. -/
def mantissaBound : Nat :=
  Nat.pow 2 53

/-- The largest scale. -/
def maxScale : Nat :=
  2045

/-- The number of units in 1. -/
def one : Nat :=
  Nat.pow 2 1074

/-- The number 0. -/
def zero : Binary64 :=
  ⟨0, 0⟩

/-- The value in units of 2^-1074. -/
def units (x : Binary64) : Nat :=
  x.mantissa * Nat.pow 2 x.scale

/-- The number nearest to `num / den`. -/
def ofRatio (num den : Nat) : Option Binary64 :=
  let whole := num * one / den
  let scale := if whole < mantissaBound then 0 else Nat.log2 whole - 52
  let mantissa := roundDiv .even (num * one) (den * Nat.pow 2 scale)
  let rounded : Binary64 :=
    if mantissa < mantissaBound then ⟨mantissa, scale⟩ else ⟨mantissaBound / 2, scale + 1⟩
  if rounded.scale ≤ maxScale then some rounded else none

/-- The number nearest to a natural number. -/
def ofNat (n : Nat) : Option Binary64 :=
  ofRatio n 1

/-- The number nearest to a product. -/
def mul (x y : Binary64) : Option Binary64 :=
  ofRatio (x.units * y.units) (one * one)

/-- The number nearest to a quotient. -/
def div (x y : Binary64) : Option Binary64 :=
  ofRatio x.units y.units

/-- The 64 bits of a number. -/
def bits (x : Binary64) : UInt64 :=
  UInt64.ofNat (x.scale * (mantissaBound / 2) + x.mantissa)

/-- The value with `places` decimal places, a half going to the even digit. -/
def fixed (places : Nat) (x : Binary64) : String :=
  let digits := Nat.toDigits 10 (roundDiv .even (x.units * Nat.pow 10 places) one)
  let digits := List.replicate (places + 1 - digits.length) '0' ++ digits
  let whole := digits.length - places
  String.ofList (digits.take whole ++ '.' :: digits.drop whole)

end Binary64

end LogFanout.Decimal
