import Formula.Double.Rounding
import Formula.Decimal.Basic

/-!
The shortest decimal number that reads back as a given double, and the nearest of those. Decimal
grids of one, two, up to seventeen digits are tried in turn; if any point of a grid reads back, one
of the two beside the double does.
-/

set_option autoImplicit false

namespace Formula.Double

/-- A double between the ends of the interval that rounds to it, all in units of one denominator. -/
structure Interval where
  low : Nat
  value : Nat
  high : Nat
  unit : Nat
  closed : Bool

/-- The interval of a positive double. Below a power of two the doubles lie twice as close. -/
def interval (mantissa : Nat) (power : Int) : Interval :=
  let below := if mantissa = twoPower fractionBits ∧ leastPower < power then 1 else 2
  let scale := twoPower (power - 2).toNat
  { low := (4 * mantissa - below) * scale
    value := 4 * mantissa * scale
    high := (4 * mantissa + 2) * scale
    unit := twoPower (2 - power).toNat
    closed := mantissa % 2 = 0 }

def Interval.onGrid (i : Interval) (exponent : Int) : Interval :=
  let up := tenPower (-exponent).toNat
  { low := i.low * up, value := i.value * up, high := i.high * up,
    unit := i.unit * tenPower exponent.toNat, closed := i.closed }

def Interval.holds (i : Interval) (n : Nat) : Bool :=
  if i.closed then i.low ≤ n * i.unit && n * i.unit ≤ i.high
  else i.low < n * i.unit && n * i.unit < i.high

def Interval.nearest (i : Interval) : Nat := divideToEven i.value i.unit

def Interval.hit? (i : Interval) : Option Nat :=
  let below := i.value / i.unit
  match i.holds below, i.holds (below + 1) with
  | true, true => some i.nearest
  | true, false => some below
  | false, true => some (below + 1)
  | false, false => none

def Interval.leading (i : Interval) : Int :=
  -- The numbers of digits leave the power undecided by one.
  let guess : Int := (digitCount i.value : Int) - digitCount i.unit
  if i.value * tenPower (-guess).toNat < i.unit * tenPower guess.toNat then guess else guess + 1

/-- Tries grids of more and more digits; the last of them gives its nearest point in any case. -/
def search (i : Interval) (leading : Int) (digits : Nat) : Nat → Nat × Int
  | 0 =>
    let exponent := leading - digits
    ((i.onGrid exponent).nearest, exponent)
  | more + 1 =>
    let exponent := leading - digits
    match (i.onGrid exponent).hit? with
    | some n => (n, exponent)
    | none => search i leading (digits + 1) more

def shortest (mantissa : Nat) (power : Int) : Nat × Int :=
  let i := interval mantissa power
  let (n, exponent) := search i i.leading 1 16
  -- The nearest point of the first grid may have a digit more.
  if n = 10 then (1, exponent + 1) else (n, exponent)

/-- The digits of a double in the written form that doubles have: without an exponent as long as the
first digit stands for a power of ten from -4 to 15, and then with at least one digit behind the
point. The flag is set for a form without an exponent. -/
def written (mantissa : Nat) (power : Int) : Nat × Int × Bool :=
  if mantissa = 0 then (0, -1, true)
  else
    let (coefficient, exponent) := shortest mantissa power
    let leading := exponent + digitCount coefficient - 1
    if leading < -4 ∨ 16 ≤ leading then (coefficient, exponent, false)
    else if exponent < 0 then (coefficient, exponent, true)
    else (coefficient * tenPower (exponent + 1).toNat, -1, true)

end Formula.Double
