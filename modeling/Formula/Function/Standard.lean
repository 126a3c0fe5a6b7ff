import Formula.Operator.Standard
import Formula.Decimal.Integral
import Formula.Decimal.Order

/-!
The standard functions. Magnitude, sign and rounding to whole numbers are exact; all others are
computed in doubles.
-/

set_option autoImplicit false

namespace Formula.Function

/-- The value of a function of doubles at decimal arguments, as a decimal number. -/
def throughDoubles (name : String) (f : List Float → Except Double.Failure Float) : Rule :=
  fun arguments =>
    match arguments.mapM toDouble with
    | .error reason => .error (.domain (.callFailed name arguments reason))
    | .ok doubles => match f doubles with
      | .ok value => ofDouble (name ++ "()") value
      | .error .zeroDivisor => .error (.domain (.divisionByZeroIn name))
      | .error failure => .error (.domain (.callFailed name arguments failure.text))

def ofUnary (f : Float → Except Double.Failure Float) : List Float → Except Double.Failure Float
  | [x] => f x
  | _ => .error .undefined

def ofBinary (f : Float → Float → Except Double.Failure Float) :
    List Float → Except Double.Failure Float
  | [x, y] => f x y
  | _ => .error .undefined

def double (name : String) (f : Float → Except Double.Failure Float)
    (nameValid : isFunctionName name = true := by decide) : Function :=
  { name, argumentCount := 1, apply := throughDoubles name (ofUnary f), nameValid }

def double₂ (name : String) (f : Float → Float → Except Double.Failure Float)
    (nameValid : isFunctionName name = true := by decide) : Function :=
  { name, argumentCount := 2, apply := throughDoubles name (ofBinary f), nameValid }

def exact (name : String) (f : Decimal → Except Decimal.Condition Decimal)
    (nameValid : isFunctionName name = true := by decide) : Function :=
  { name, argumentCount := 1, apply := Rule.unary fun x => Rule.lift (f x), nameValid }

open Double

def standard : List Function := [
  exact "abs" fun x => .ok x.abs,
  double "acos" (bounded Float.acos),
  double "asin" (bounded Float.asin),
  double "atan" (bounded Float.atan),
  double "cbrt" fun x => .ok (cubeRoot x),
  exact "ceil" Decimal.ceil,
  double "cos" cos,
  double "cosh" cosh,
  double "cot" (reciprocal tan),
  double "coth" cotanh,
  double "csc" (reciprocal sin),
  double "csch" (reciprocal sinh),
  double "exp" (growing Float.exp),
  double "expm1" (growing expLessOne),
  exact "floor" Decimal.floor,
  double "log" log,
  double "log10" (bounded Float.log10),
  double "log1p" (bounded logOnePlus),
  double "log2" (bounded Float.log2),
  double₂ "logb" logBase,
  double₂ "pow" power,
  double "sec" (reciprocal cos),
  double "sech" (reciprocal cosh),
  exact "signum" Decimal.signum,
  double "sin" sin,
  double "sinh" sinh,
  double "sqrt" (bounded Float.sqrt),
  double "tan" tan,
  double "tanh" (bounded Float.tanh),
  double "todegree" fun x => .ok (x * (180.0 / pi)),
  double "toradian" fun x => .ok (x * (pi / 180.0))]

def standard? (name : String) : Option Function := standard.find? fun f => f.name == name

end Formula.Function
