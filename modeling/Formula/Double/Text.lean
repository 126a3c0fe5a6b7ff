import Formula.Double.Shortest
import Formula.Decimal.Text

/-!
Doubles and decimal numbers. A double becomes the decimal number of its shortest written form, and a
decimal number becomes the nearest double.
-/

set_option autoImplicit false

namespace Formula.Double

def toDecimal? (x : Float) : Option Decimal :=
  (parts? x).map fun (negative, mantissa, power) =>
    let (coefficient, exponent, _) := written mantissa power
    .finite negative coefficient exponent

def exponentText (exponent : Int) : String :=
  (if exponent < 0 then "-" else "+") ++ (if exponent.natAbs < 10 then "0" else "")
    ++ toString exponent.natAbs

def toText (x : Float) : String :=
  match parts? x with
  | none => if x.isNaN then "nan" else if x < 0 then "-inf" else "inf"
  | some (negative, mantissa, power) =>
    let (coefficient, exponent, positional) := written mantissa power
    let digits := (toString coefficient).toList
    let leading := exponent + digits.length - 1
    Decimal.signText negative ++
      if positional then Decimal.pointText digits (leading + 1)
      else Decimal.pointText digits 1 ++ "e" ++ exponentText leading

def infinity (negative : Bool) : Float := ofMagnitudeBits negative infinityBits

def nan : Float := Float.ofBits 0x7ff8000000000000

/-- The nearest double. Numbers far outside the range of doubles are told by their first digit. -/
def ofFinite (negative : Bool) (coefficient : Nat) (exponent : Int) : Float :=
  let leading := exponent + digitCount coefficient - 1
  if coefficient = 0 ∨ leading < -400 then ofMagnitudeBits negative 0
  else if 400 < leading then infinity negative
  else ofRatio negative (coefficient * tenPower exponent.toNat) (tenPower (-exponent).toNat)

def ofDecimal? : Decimal → Option Float
  | .finite negative coefficient exponent => some (ofFinite negative coefficient exponent)
  | .infinity negative => some (infinity negative)
  | .nan true _ _ => none
  | .nan false _ _ => some nan

def readWord? (negative : Bool) (text : List Char) : Option Float :=
  let word := String.ofList (text.map Char.toLower)
  if word = "inf" ∨ word = "infinity" then some (infinity negative)
  else if word = "nan" then some nan
  else none

def read? (text : List Char) : Option Float :=
  let (negative, body) := Decimal.splitSign text
  match Decimal.readParts? body with
  | some (coefficient, exponent) => some (ofFinite negative coefficient exponent)
  | none => readWord? negative body

def ofText? (text : String) : Option Float := read? (Text.trim text.toList)

end Formula.Double
