import LogFanout.Text.Digits

/-!
# Decimal numerals

Whole numbers are written in ASCII digits, with an optional plus sign in front. Digits are read from
the left: the first character that is no digit, or the first digit that takes the number over its
bound, decides what is wrong.
-/

namespace LogFanout.Text

/-- What is wrong with a numeral. -/
inductive NumeralFault where
  | empty
  | invalidDigit
  | tooLarge
  deriving DecidableEq, Repr

/-- The wording of a fault. -/
def NumeralFault.message : NumeralFault → String
  | .empty => "cannot parse integer from empty string"
  | .invalidDigit => "invalid digit found in string"
  | .tooLarge => "number too large to fit in target type"

/-- Reads the digits of a number of at most `bound`, after digits worth `value`. -/
def readDigits (bound : Nat) : Nat → List Char → Except NumeralFault Nat
  | value, [] => .ok value
  | value, c :: cs =>
    if !c.isDigit then .error .invalidDigit
    else if bound < 10 * value + digitValue c then .error .tooLarge
    else readDigits bound (10 * value + digitValue c) cs

/-- Reads a numeral of at most `bound`; a sign needs a digit after it. -/
def readNumeral (bound : Nat) : List Char → Except NumeralFault Nat
  | [] => .error .empty
  | [c] => readDigits bound 0 [c]
  | '+' :: cs => readDigits bound 0 cs
  | cs => readDigits bound 0 cs

/-- The decimal digits of a number. -/
def decimal (n : Nat) : String :=
  String.ofList (Nat.toDigits 10 n)

/-- An integer in decimal, with a minus sign in front if it is negative. -/
def decimalInt : Int → String
  | .ofNat n => decimal n
  | .negSucc n => "-" ++ decimal (n + 1)

end LogFanout.Text
