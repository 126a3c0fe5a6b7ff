/-!
Decimal numbers as they are written: the digits and the exponent are kept, so that `1.0` and `1.00`
differ although they compare equal. Sign operations here are exact on every number.
-/

set_option autoImplicit false

namespace Formula

def tenPower (n : Nat) : Nat := Nat.pow 10 n

/-- A decimal number: `coefficient · 10 ^ exponent` with a sign, an infinity, or no
number at all. -/
inductive Decimal where
  | finite (negative : Bool) (coefficient : Nat) (exponent : Int)
  | infinity (negative : Bool)
  | nan (signaling negative : Bool) (payload : Nat)
  deriving DecidableEq, Repr, Inhabited

/-- How many decimal digits the number is written with; zero has one digit. -/
def digitCount (n : Nat) : Nat :=
  if n < 10 then 1 else digitCount (n / 10) + 1
termination_by n
decreasing_by omega

namespace Decimal

def ofNat (n : Nat) : Decimal := .finite false n 0

def ofInt (n : Int) : Decimal := .finite (n < 0) n.natAbs 0

def isFinite : Decimal → Bool
  | .finite .. => true
  | _ => false

def isZero : Decimal → Bool
  | .finite _ 0 _ => true
  | _ => false

def isNaN : Decimal → Bool
  | .nan .. => true
  | _ => false

def isSignaling : Decimal → Bool
  | .nan true _ _ => true
  | _ => false

def negate : Decimal → Decimal
  | .finite negative coefficient exponent => .finite (!negative) coefficient exponent
  | .infinity negative => .infinity (!negative)
  | .nan signaling negative payload => .nan signaling (!negative) payload

def abs : Decimal → Decimal
  | .finite _ coefficient exponent => .finite false coefficient exponent
  | .infinity _ => .infinity false
  | .nan signaling _ payload => .nan signaling false payload

end Decimal

end Formula
