import Formula.Decimal.Basic

/-!
The arithmetic's rounding rule: results keep 34 digits, a half goes away from zero, exponents of
leading digits stay between -999999 and 999999, and results below that range lose digits gradually.
-/

set_option autoImplicit false

namespace Formula.Decimal

inductive Condition where
  | invalidOperation
  | divisionByZero
  | divisionUndefined
  | overflow
  deriving DecidableEq, Repr

def Condition.text : Condition → String
  | .invalidOperation => "[<class 'decimal.InvalidOperation'>]"
  | .divisionByZero => "[<class 'decimal.DivisionByZero'>]"
  | .divisionUndefined => "[<class 'decimal.DivisionUndefined'>]"
  | .overflow => "[<class 'decimal.Overflow'>]"

/-- The number of digits that a result keeps. -/
def precision : Nat := 34

def maxExponent : Int := 999999

/-- The smallest power of ten that a last digit of a result may stand for. -/
def tinyExponent : Int := -1000032

/-- Drops the last `places` digits of a number, a half going up. -/
def dropDigits (coefficient places : Nat) : Nat :=
  if digitCount coefficient < places then 0
  else (coefficient + tenPower places / 2) / tenPower places

/-- The result with its exponent, unless its leading digit is out of range. -/
def bounded (negative : Bool) (coefficient : Nat) (exponent : Int) : Except Condition Decimal :=
  if maxExponent < exponent + digitCount coefficient - 1 then .error .overflow
  else .ok (.finite negative coefficient exponent)

def leastExponent (coefficient : Nat) (exponent : Int) : Int :=
  max (exponent + digitCount coefficient - precision) tinyExponent

/-- Rounds an exact result once. A zero only moves its exponent into range. -/
def round (negative : Bool) (coefficient : Nat) (exponent : Int) : Except Condition Decimal :=
  if coefficient = 0 then
    .ok (.finite negative 0 (min (max exponent tinyExponent) maxExponent))
  else
    let least := leastExponent coefficient exponent
    if least ≤ exponent then bounded negative coefficient exponent
    else
      let kept := dropDigits coefficient (least - exponent).toNat
      if digitCount kept ≤ precision then bounded negative kept least
      else bounded negative (kept / 10) (least + 1)

end Formula.Decimal
