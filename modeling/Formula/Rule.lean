import Formula.Decimal.Rounding
import Formula.Decimal.Text

/-!
Rules compute a number from a list of arguments, which come in written order. What can go wrong when
a rule is applied has a text that tells it.
-/

set_option autoImplicit false

namespace Formula

inductive DomainCause where
  | divisionByZero
  | divisionByZeroIn (function : String)
  | notFinite (what value : String)
  | powerFailed (base exponent : Decimal) (reason : String)
  | callFailed (function : String) (arguments : List Decimal) (reason : String)
  | stated (text : String)
  deriving DecidableEq, Repr

def DomainCause.message : DomainCause → String
  | .divisionByZero => "Division by zero!"
  | .divisionByZeroIn function => "Division by zero in " ++ function ++ "()"
  | .notFinite what value => what ++ " produced a non-finite result: " ++ value
  | .powerFailed base exponent reason =>
    "Cannot raise " ++ base.toText ++ " to the power of " ++ exponent.toText ++ ": " ++ reason
  | .callFailed function arguments reason =>
    function ++ "(" ++ ", ".intercalate (arguments.map Decimal.toText) ++ "): " ++ reason
  | .stated text => text

/-- How applying a rule fails. The first three are about the expression itself; then come failures
of a computation, and last misuse of the rule. -/
inductive Fault where
  | domain (cause : DomainCause)
  | arity (text : String)
  | configuration (text : String)
  | condition (cause : Decimal.Condition)
  | arithmetic (text : String)
  | overflow (text : String)
  | zeroDivision (text : String)
  | value (text : String)
  | kind (text : String)
  | lookup (text : String)
  deriving DecidableEq, Repr

namespace Fault

def message : Fault → String
  | domain cause => cause.message
  | condition cause => cause.text
  | arity text | configuration text | arithmetic text | overflow text | zeroDivision text
  | value text | kind text | lookup text => text

def isComputational : Fault → Bool
  | condition _ | arithmetic _ | overflow _ | zeroDivision _ | value _ => true
  | _ => false

end Fault

/-! ### Rules -/

abbrev Rule := List Decimal → Except Fault Decimal

namespace Rule

def wrongCount (expected : Nat) (arguments : List Decimal) : Fault :=
  .kind ("expected " ++ toString expected ++ " arguments, got " ++ toString arguments.length)

def unary (f : Decimal → Except Fault Decimal) : Rule
  | [x] => f x
  | arguments => .error (wrongCount 1 arguments)

def binary (f : Decimal → Decimal → Except Fault Decimal) : Rule
  | [x, y] => f x y
  | arguments => .error (wrongCount 2 arguments)

def lift {α : Type} (result : Except Decimal.Condition α) : Except Fault α :=
  result.mapError .condition

end Rule

end Formula
