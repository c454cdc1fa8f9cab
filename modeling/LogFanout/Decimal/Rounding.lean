/-!
# Rounding a quotient

A quotient of natural numbers is rounded to the nearest natural number; where a half goes is chosen
by the caller.
-/

namespace LogFanout.Decimal

/-- Where a half goes. -/
inductive Tie where
  /-- To the even one of two neighbours. -/
  | even
  /-- To the larger one. -/
  | up
  deriving DecidableEq, Repr

/-- Whether a half goes to the number after `q`. -/
def Tie.takesNext (tie : Tie) (q : Nat) : Bool :=
  match tie with
  | .even => q % 2 = 1
  | .up => true

/-- The natural number nearest to `num / den`. -/
def roundDiv (tie : Tie) (num den : Nat) : Nat :=
  let q := num / den
  let twice := 2 * (num % den)
  if twice < den then q
  else if den < twice ∨ tie.takesNext q then q + 1
  else q

end LogFanout.Decimal
