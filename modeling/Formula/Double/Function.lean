import Formula.Double.NearOne
import Formula.Double.Rounding
import Formula.Double.Text

/-!
Functions of doubles that tell an undefined result and an overflow from a value. A result is
undefined if it is NaN although no argument is, or infinite where the function has a pole; an
infinite result of finite arguments is an overflow otherwise.
-/

set_option autoImplicit false

namespace Formula.Double

inductive Failure where
  | undefined
  | overflow
  | zeroDivisor
  deriving DecidableEq, Repr

def Failure.text : Failure → String
  | .undefined => "math domain error"
  | .overflow => "math range error"
  | .zeroDivisor => "float division by zero"

/-- A function of one argument; `infinite` is what an infinite value at a finite argument means. -/
def guarded (infinite : Failure) (f : Float → Float) (x : Float) : Except Failure Float :=
  let y := f x
  if y.isNaN && !x.isNaN then .error .undefined
  else if y.isInf && isFinite x then .error infinite
  else .ok y

def bounded (f : Float → Float) : Float → Except Failure Float := guarded .undefined f

def growing (f : Float → Float) : Float → Except Failure Float := guarded .overflow f

def divide (x y : Float) : Except Failure Float :=
  if y == 0 then .error .zeroDivisor else .ok (x / y)

def reciprocal (f : Float → Except Failure Float) (x : Float) : Except Failure Float := do
  divide 1 (← f x)

def power (x y : Float) : Except Failure Float :=
  let z := x.pow y
  -- Zero to a negative power is undefined, though it is infinite.
  if isFinite x && isFinite y then
    if z.isNaN then .error .undefined
    else if z.isInf then .error (if x == 0 then .undefined else .overflow)
    else .ok z
  else .ok z

def remainder (x y : Float) : Except Failure Float :=
  match remainder? x y with
  | some z => .ok z
  | none => .error .undefined

/-- The real cube root, taken as a power of the magnitude. -/
def cubeRoot (x : Float) : Float :=
  let root := x.abs.pow (1.0 / 3.0)
  -- A negative zero is told by its reciprocal.
  if x < 0 || 1 / x < 0 then -root else root

def pi : Float := Float.ofBits 0x400921fb54442d18

def sin := bounded Float.sin
def cos := bounded Float.cos
def tan := bounded Float.tan
def sinh := growing Float.sinh
def cosh := growing Float.cosh
def log := bounded Float.log

def cotanh (x : Float) : Except Failure Float := do
  let numerator ← cosh x
  divide numerator (← sinh x)

def logBase (x base : Float) : Except Failure Float := do
  let numerator ← log x
  divide numerator (← log base)

end Formula.Double
