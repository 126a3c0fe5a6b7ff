import Formula.Symbol
import Formula.Decimal.Arithmetic
import Formula.Double.Function

/-!
The standard operators. Sums, products and quotients are decimal; powers and remainders go through
doubles.
-/

set_option autoImplicit false

namespace Formula

/-- A double result as the decimal number it is written as, if it is finite. -/
def ofDouble (what : String) (x : Float) : Except Fault Decimal :=
  match Double.toDecimal? x with
  | some value => .ok value
  | none => .error (.domain (.notFinite what (Double.toText x)))

def signalingText : String := "cannot convert signaling NaN to float"

def toDouble (x : Decimal) : Except String Float :=
  match Double.ofDecimal? x with
  | some value => .ok value
  | none => .error signalingText

namespace Operator

def quotient (left right : Decimal) : Except Fault Decimal :=
  if right.isZero then .error (.domain .divisionByZero) else Rule.lift (left.divide right)

def power (base exponent : Decimal) : Except Fault Decimal :=
  let result : Except String Float := do
    let x ← toDouble base
    let y ← toDouble exponent
    (Double.power x y).mapError Double.Failure.text
  match result with
  | .ok value => ofDouble "'^'" value
  | .error reason => .error (.domain (.powerFailed base exponent reason))

/-- The remainder has the sign of the dividend. -/
def modulo (left right : Decimal) : Except Fault Decimal :=
  if right.isZero then .error (.domain .divisionByZero)
  else do
    let x ← (toDouble left).mapError .value
    let y ← (toDouble right).mapError .value
    let rest ← (Double.remainder x y).mapError fun failure => .value failure.text
    ofDouble "'%'" rest

def addition : Operator where
  symbol := "+"
  arity := .binary
  leftAssociative := true
  precedence := 500
  apply := Rule.binary fun left right => Rule.lift (left.add right)

def subtraction : Operator where
  symbol := "-"
  arity := .binary
  leftAssociative := true
  precedence := 500
  apply := Rule.binary fun left right => Rule.lift (left.subtract right)

def multiplication : Operator where
  symbol := "*"
  arity := .binary
  leftAssociative := true
  precedence := 1000
  apply := Rule.binary fun left right => Rule.lift (left.multiply right)

def division : Operator where
  symbol := "/"
  arity := .binary
  leftAssociative := true
  precedence := 1000
  apply := Rule.binary quotient

def exponentiation : Operator where
  symbol := "^"
  arity := .binary
  leftAssociative := false
  precedence := 10000
  apply := Rule.binary power

def remainder : Operator where
  symbol := "%"
  arity := .binary
  leftAssociative := true
  precedence := 1000
  apply := Rule.binary modulo

def negation : Operator where
  symbol := "-"
  arity := .unary
  leftAssociative := false
  precedence := 5000
  apply := Rule.unary fun operand => .ok operand.negate

def identity : Operator where
  symbol := "+"
  arity := .unary
  leftAssociative := false
  precedence := 5000
  apply := Rule.unary fun operand => .ok operand

def standardSymbols : List String := ["%", "*", "+", "-", "/", "^", "÷"]

/-- The standard operator of a symbol. Only the signs exist for one and for two operands; the other
symbols have one operator whatever the wanted arity. -/
def standard? (arity : Arity) : String → Option Operator
  | "+" => some (if arity = .unary then identity else addition)
  | "-" => some (if arity = .unary then negation else subtraction)
  | "*" => some multiplication
  | "/" | "÷" => some division
  | "^" => some exponentiation
  | "%" => some remainder
  | _ => none

theorem mem_standardSymbols {symbol : String} (arity : Arity) :
    symbol ∈ standardSymbols ↔ (standard? arity symbol).isSome = true := by
  unfold standard?
  split <;> simp_all [standardSymbols]

end Operator

end Formula
