import Formula.Decimal.Rounding

/-!
Addition, subtraction, multiplication and division. Each operation finds an exact result, or one
that rounds as the exact result does, and rounds it once. A division by zero and an undefined result
are conditions, never values.
-/

set_option autoImplicit false

namespace Formula.Decimal

def keepPayload (digits payload : Nat) : Nat := payload % tenPower digits

/-- What an operation on the operands gives if one of them is no number: a signaling one is refused,
and otherwise the first such operand is the result. -/
def nanResult? (left right : Decimal) : Option (Except Condition Decimal) :=
  match left, right with
  | .nan true _ _, _ => some (.error .invalidOperation)
  | _, .nan true _ _ => some (.error .invalidOperation)
  | .nan false negative payload, _
  | _, .nan false negative payload =>
    some (.ok (.nan false negative (keepPayload precision payload)))
  | _, _ => none

def signed (negative : Bool) (coefficient : Nat) : Int :=
  if negative then -(coefficient : Int) else coefficient

/-- Rounds the sum of two signed coefficients of one exponent. A sum of zero is negative only if
both operands are. -/
def roundSum (left right exponent : Int) (bothNegative : Bool) : Except Condition Decimal :=
  let sum := left + right
  round (if sum = 0 then bothNegative else sum < 0) sum.natAbs exponent

/-- The exponent below which a summand beside a nonzero one of the given parts only breaks ties. -/
def guardExponent (coefficient : Nat) (exponent : Int) : Int :=
  exponent + min (-1) ((digitCount coefficient : Int) - precision - 2)

/-- Adds a coefficient of a higher exponent and one of a lower exponent. A lower summand that lies
wholly below the guard exponent counts as at most a single unit there, which rounds alike and keeps
the powers of ten small. -/
def addAligned (highNegative : Bool) (high : Nat) (highExponent : Int)
    (lowNegative : Bool) (low : Nat) (lowExponent : Int) : Except Condition Decimal :=
  let bothNegative := highNegative && lowNegative
  if high = 0 then roundSum 0 (signed lowNegative low) lowExponent bothNegative
  else
    let edge := guardExponent high highExponent
    let (low, lowExponent) :=
      if lowExponent + digitCount low - 1 < edge then (min low 1, edge) else (low, lowExponent)
    roundSum (signed highNegative (high * tenPower (highExponent - lowExponent).toNat))
      (signed lowNegative low) lowExponent bothNegative

def add (left right : Decimal) : Except Condition Decimal :=
  match nanResult? left right with
  | some result => result
  | none => match left, right with
    | .finite n₁ c₁ e₁, .finite n₂ c₂ e₂ =>
      if e₁ < e₂ then addAligned n₂ c₂ e₂ n₁ c₁ e₁ else addAligned n₁ c₁ e₁ n₂ c₂ e₂
    | .infinity n₁, .infinity n₂ =>
      if n₁ = n₂ then .ok (.infinity n₁) else .error .invalidOperation
    | .infinity n₁, _ => .ok (.infinity n₁)
    | _, right => .ok right

def subtract (left right : Decimal) : Except Condition Decimal :=
  match nanResult? left right with
  | some result => result
  | none => add left right.negate

def multiply (left right : Decimal) : Except Condition Decimal :=
  match nanResult? left right with
  | some result => result
  | none => match left, right with
    | .finite n₁ c₁ e₁, .finite n₂ c₂ e₂ => round (n₁ != n₂) (c₁ * c₂) (e₁ + e₂)
    | .infinity n₁, .finite n₂ c₂ _ =>
      if c₂ = 0 then .error .invalidOperation else .ok (.infinity (n₁ != n₂))
    | .finite n₁ c₁ _, .infinity n₂ =>
      if c₁ = 0 then .error .invalidOperation else .ok (.infinity (n₁ != n₂))
    | .infinity n₁, .infinity n₂ => .ok (.infinity (n₁ != n₂))
    | _, right => .ok right

def stripZeros (ideal : Int) (coefficient : Nat) (exponent : Int) : Nat × Int :=
  if 0 < coefficient ∧ coefficient % 10 = 0 ∧ exponent < ideal then
    stripZeros ideal (coefficient / 10) (exponent + 1)
  else (coefficient, exponent)
termination_by coefficient
decreasing_by omega

/-- The quotient of two nonzero coefficients, with a digit more than results keep. A remainder is
remembered by moving the last digit off zero and five, which rounds as the exact quotient does; an
exact quotient comes as close to the ideal exponent as its zeros allow. -/
def quotient (dividend divisor : Nat) (ideal : Int) : Nat × Int :=
  -- The dividend gets at least a digit more in front of the point than results keep.
  let shift : Int := (digitCount divisor : Int) - digitCount dividend + precision + 1
  let dividend' := dividend * tenPower shift.toNat
  let divisor' := divisor * tenPower (-shift).toNat
  let whole := dividend' / divisor'
  if dividend' % divisor' = 0 then stripZeros ideal whole (ideal - shift)
  else (if whole % 5 = 0 then whole + 1 else whole, ideal - shift)

def divide (left right : Decimal) : Except Condition Decimal :=
  match nanResult? left right with
  | some result => result
  | none => match left, right with
    | .finite n₁ c₁ e₁, .finite n₂ c₂ e₂ =>
      if c₂ = 0 then .error (if c₁ = 0 then .divisionUndefined else .divisionByZero)
      else if c₁ = 0 then round (n₁ != n₂) 0 (e₁ - e₂)
      else
        let (coefficient, exponent) := quotient c₁ c₂ (e₁ - e₂)
        round (n₁ != n₂) coefficient exponent
    | .infinity _, .infinity _ => .error .invalidOperation
    | .infinity n₁, .finite n₂ _ _ => .ok (.infinity (n₁ != n₂))
    | .finite n₁ _ _, .infinity n₂ => .ok (.finite (n₁ != n₂) 0 tinyExponent)
    | _, right => .ok right

end Formula.Decimal
