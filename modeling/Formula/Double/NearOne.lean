import Formula.Double.Rounding

/-!
The exponential less one, and the logarithm of a number more than one by a given amount, each
rounded once from a value of over two hundred bits. Near zero the quotient of result and argument is
summed, so that small results keep their precision.
-/

set_option autoImplicit false

namespace Formula.Double

def fixedBits : Nat := 256

def one : Int := twoPower fixedBits

def fixedMul (x y : Int) : Int := x * y / one

/-- The sum over `terms` terms of a series whose next term is given by the term and its index. -/
def sumSeries (next : Int → Nat → Int) : (terms index : Nat) → (term : Int) → Int
  | 0, _, _ => 0
  | terms + 1, index, term => term + sumSeries next terms (index + 1) (next term index)

/-- `(exp x - 1) / x` for `x` between minus one and one. -/
def expQuotient (x : Int) : Int :=
  sumSeries (fun term index => fixedMul term x / (index + 2)) 70 0 one

/-- `artanh x / x` for `x` between zero and a half, with the square of `x` given. -/
def artanhQuotient (square : Int) : Int :=
  (List.range 130).foldr
    (fun index rest => one / ((2 * index + 1 : Nat) : Int) + fixedMul rest square) 0

/-- `log ((1 + x) / (1 - x))` for a fraction `x` between minus a half and a half. -/
def logRatio (numerator denominator : Int) : Int :=
  let x := numerator * one / denominator
  2 * fixedMul x (artanhQuotient (fixedMul x x))

def logTwo : Int := logRatio 1 3

def ofFixed (x : Int) (factor : Nat) (power : Int) : Float :=
  ofScaled (x < 0) (x.natAbs * factor) (power - fixedBits)

def toFixed (negative : Bool) (mantissa : Nat) (power : Int) : Int :=
  let shift := power + fixedBits
  let magnitude : Int := mantissa * twoPower shift.toNat / twoPower (-shift).toNat
  if negative then -magnitude else magnitude

def expLessOneParts (negative : Bool) (mantissa : Nat) (power : Int) : Float :=
  let x := toFixed negative mantissa power
  if mantissa = 0 then ofScaled negative 0 0
  -- Beyond these bounds the exponential is no finite double, or vanishes beside one.
  else if one * 800 < x then ofMagnitudeBits false infinityBits
  else if x < -(one * 800) then ofScaled true 1 0
  else if x.natAbs ≤ one.natAbs then
    ofScaled negative (mantissa * (expQuotient x).natAbs) (power - fixedBits)
  else
    -- The argument less a multiple of the logarithm of two lies between zero and that logarithm.
    let halvings := x / logTwo
    let rest := x - halvings * logTwo
    let raised := one + fixedMul rest (expQuotient rest)
    let value := raised * twoPower halvings.toNat / twoPower (-halvings).toNat
    ofFixed (value - one) 1 0

def expLessOne (x : Float) : Float :=
  match parts? x with
  | some (negative, mantissa, power) => expLessOneParts negative mantissa power
  | none => if x < 0 then -1 else x

def logQuotient (numerator denominator : Nat) : Int :=
  -- With the doublings taken off, the numbers are less than a factor of two apart either way.
  let doublings : Int := (numerator.log2 : Int) - denominator.log2
  let n : Int := numerator * twoPower (-doublings).toNat
  let d : Int := denominator * twoPower doublings.toNat
  doublings * logTwo + logRatio (n - d) (n + d)

def logOnePlusParts (negative : Bool) (mantissa : Nat) (power : Int) : Float :=
  let whole := mantissa * twoPower power.toNat
  let unit := twoPower (-power).toNat
  if mantissa = 0 then ofScaled negative 0 0
  else if 2 * whole ≤ unit then
    let x := toFixed negative mantissa power
    -- The logarithm is twice the inverse hyperbolic tangent of x / (2 + x).
    let shifted := x * one / (2 * one + x)
    let quotient := 2 * one * artanhQuotient (fixedMul shifted shifted) / (2 * one + x)
    ofScaled negative (mantissa * quotient.natAbs) (power - fixedBits)
  else
    ofFixed (logQuotient (if negative then unit - whole else unit + whole) unit) 1 0

/-- `log (1 + x)`; it is minus infinity at minus one and undefined below. -/
def logOnePlus (x : Float) : Float :=
  match parts? x with
  | some (negative, mantissa, power) =>
    if x == -1 then ofMagnitudeBits true infinityBits
    else if x < -1 then Float.ofBits 0x7ff8000000000000
    else logOnePlusParts negative mantissa power
  | none => if x < 0 then Float.ofBits 0x7ff8000000000000 else x

end Formula.Double
