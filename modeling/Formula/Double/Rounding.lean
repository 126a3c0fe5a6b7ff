/-!
Exact rationals and double precision numbers. A double is taken apart into an integer and a power of
two, and a rational is rounded to the nearest double, ties going to the even one. The remainder of a
division that truncates its quotient is exact.
-/

set_option autoImplicit false

namespace Formula

def twoPower (n : Nat) : Nat := Nat.pow 2 n

end Formula

namespace Formula.Double

def leastPower : Int := -1074

/-- How many bits of a double belong to the fraction of its mantissa; one more bit is implied. -/
def fractionBits : Nat := 52

/-- The bits of positive infinity; every smaller number is the bits of a finite double. -/
def infinityBits : Nat := 0x7ff0000000000000

def signBit : Nat := 0x8000000000000000

/-- The double whose bits without the sign are the given number, capped at infinity. -/
def ofMagnitudeBits (negative : Bool) (bits : Nat) : Float :=
  Float.ofBits (UInt64.ofNat (min bits infinityBits + if negative then signBit else 0))

def divideToEven (dividend divisor : Nat) : Nat :=
  let whole := dividend / divisor
  let rest := dividend % divisor
  if 2 * rest < divisor then whole
  else if divisor < 2 * rest then whole + 1
  else whole + whole % 2

def scaleDown (dividend divisor : Nat) (power : Int) : Nat × Nat :=
  (dividend * twoPower (-power).toNat, divisor * twoPower power.toNat)

/-- The power of two that the last bit of a rounded quotient stands for: 53 bits are kept, as far as
the least power allows. -/
def lastBitPower (dividend divisor : Nat) : Int :=
  -- The logarithms leave the quotient undecided by one bit, which the division settles.
  let power := (dividend.log2 : Int) - divisor.log2 - (fractionBits + 1)
  let (dividend', divisor') := scaleDown dividend divisor power
  max (if dividend' / divisor' < twoPower (fractionBits + 1) then power else power + 1) leastPower

def ofRatio (negative : Bool) (dividend divisor : Nat) : Float :=
  if dividend = 0 then ofMagnitudeBits negative 0
  else
    let power := lastBitPower dividend divisor
    let (dividend', divisor') := scaleDown dividend divisor power
    -- A mantissa that is rounded up to a power of two carries into the exponent bits, as it should.
    ofMagnitudeBits negative
      ((power - leastPower).toNat * twoPower fractionBits + divideToEven dividend' divisor')

def ofScaled (negative : Bool) (mantissa : Nat) (power : Int) : Float :=
  let (dividend, divisor) := scaleDown mantissa 1 (-power)
  ofRatio negative dividend divisor

/-- A finite double as a sign, an integer and a power of two; nothing for infinities and NaN. -/
def parts? (x : Float) : Option (Bool × Nat × Int) :=
  let bits := x.toBits.toNat
  let magnitude := bits % signBit
  let raised := magnitude / twoPower fractionBits
  if infinityBits ≤ magnitude then none
  else some (signBit ≤ bits,
    -- The doubles below the least normal one lack the implied bit.
    if raised = 0 then magnitude else magnitude % twoPower fractionBits + twoPower fractionBits,
    leastPower + (raised - 1 : Nat))

def isFinite (x : Float) : Bool := (parts? x).isSome

/-- The remainder of two finite doubles has the sign of the dividend. It is undefined for a divisor
of zero. -/
def remainder? (dividend divisor : Float) : Option Float :=
  match parts? dividend, parts? divisor with
  | some (negative, m₁, p₁), some (_, m₂, p₂) =>
    if m₂ = 0 then none
    else
      let rest := (m₁ * twoPower (p₁ - p₂).toNat) % (m₂ * twoPower (p₂ - p₁).toNat)
      some (ofScaled negative rest (min p₁ p₂))
  | some _, none => some (if divisor.isNaN then divisor else dividend)
  | none, _ =>
    if dividend.isNaN then some dividend else if divisor.isNaN then some divisor else none

end Formula.Double
