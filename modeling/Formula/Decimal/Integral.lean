import Formula.Decimal.Arithmetic

/-!
Rounding to whole numbers. A number that shows no digits behind the point is left as it is written;
any other becomes a whole number of exponent zero, however many digits that takes.
-/

set_option autoImplicit false

namespace Formula.Decimal

def integralPayloadDigits : Nat := 28

def splitPoint (coefficient places : Nat) : Nat × Bool :=
  if digitCount coefficient < places then (0, coefficient ≠ 0)
  else (coefficient / tenPower places, coefficient % tenPower places ≠ 0)

/-- Rounds to a whole number; `away` says whether a number of the given sign moves
away from zero. -/
def toIntegral (away : Bool → Bool) : Decimal → Except Condition Decimal
  | .finite negative coefficient exponent =>
    if 0 ≤ exponent then .ok (.finite negative coefficient exponent)
    else
      let (whole, rest) := splitPoint coefficient (-exponent).toNat
      .ok (.finite negative (if rest && away negative then whole + 1 else whole) 0)
  | .infinity negative => .ok (.infinity negative)
  | .nan true _ _ => .error .invalidOperation
  | .nan false negative payload =>
    .ok (.nan false negative (keepPayload integralPayloadDigits payload))

def ceil : Decimal → Except Condition Decimal := toIntegral fun negative => !negative

def floor : Decimal → Except Condition Decimal := toIntegral fun negative => negative

/-- The whole number that remains when the digits behind the point are dropped from a positive
number, or the limit if that is less; zero for all other numbers. -/
def wholeUpTo (limit : Nat) : Decimal → Nat
  | .finite false coefficient exponent =>
    if coefficient = 0 then 0
    else if exponent < 0 then min limit (splitPoint coefficient (-exponent).toNat).1
    else if digitCount limit ≤ exponent then limit
    else min limit (coefficient * tenPower exponent.toNat)
  | _ => 0

end Formula.Decimal
