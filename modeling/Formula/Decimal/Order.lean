import Formula.Decimal.Rounding

/-!
The numerical order of decimal numbers, which does not see how many digits a number is written with.
-/

set_option autoImplicit false

namespace Formula.Decimal

/-- Compares two coefficients with their exponents. Numbers whose leading digits stand for different
powers of ten are told apart by these, so that only close exponents are brought together. -/
def compareMagnitude (c₁ : Nat) (e₁ : Int) (c₂ : Nat) (e₂ : Int) : Ordering :=
  if c₁ = 0 ∨ c₂ = 0 then compare c₁ c₂
  else
    let leading₁ := e₁ + digitCount c₁
    let leading₂ := e₂ + digitCount c₂
    if leading₁ = leading₂ then
      compare (c₁ * tenPower (e₁ - e₂).toNat) (c₂ * tenPower (e₂ - e₁).toNat)
    else compare leading₁ leading₂

def order? : Decimal → Decimal → Option Ordering
  | .finite n₁ c₁ e₁, .finite n₂ c₂ e₂ =>
    if c₁ = 0 ∧ c₂ = 0 then some .eq
    else if n₁ = n₂ then
      some (if n₁ then compareMagnitude c₂ e₂ c₁ e₁ else compareMagnitude c₁ e₁ c₂ e₂)
    else if c₁ = 0 then some (if n₂ then .gt else .lt)
    else if n₁ then some .lt else some .gt
  | .infinity n₁, .infinity n₂ => some (if n₁ = n₂ then .eq else if n₁ then .lt else .gt)
  | .infinity n₁, .finite .. => some (if n₁ then .lt else .gt)
  | .finite .., .infinity n₂ => some (if n₂ then .gt else .lt)
  | .nan .., _ => none
  | _, .nan .. => none

def order (left right : Decimal) : Except Condition Ordering :=
  match order? left right with
  | some result => .ok result
  | none => .error .invalidOperation

/-- Whether two numbers are equal; only a signaling operand is refused. -/
def equal (left right : Decimal) : Except Condition Bool :=
  if left.isSignaling || right.isSignaling then .error .invalidOperation
  else .ok (order? left right == some .eq)

def signum (x : Decimal) : Except Condition Decimal :=
  (order x (.ofNat 0)).map fun
    | .lt => .ofInt (-1)
    | .eq => .ofInt 0
    | .gt => .ofInt 1

end Formula.Decimal
