import Formula.Rule
import Formula.Text.Class

/-!
Operators and functions. An operator has a symbol of operator characters, one or two operands, and a
strength and a side to which it binds. With one operand it stands behind that if it is
left-associative, and in front of it otherwise. A function has a name and a fixed number of
arguments; without arguments it stands for a value.
-/

set_option autoImplicit false

namespace Formula

open Formula.Text

/-! ### Operators -/

def operatorChars : List Char :=
  ['+', '-', '*', '/', '%', '^', '!', '#', '§', '$', '&', ';', ':', '~', '<', '>', '|', '=', '÷',
    '√', '∛', '⌊', '⌈']

def isOperatorChar (c : Char) : Bool := operatorChars.contains c

def isOperatorSymbol (symbol : String) : Bool :=
  !symbol.toList.isEmpty && symbol.toList.all isOperatorChar

inductive Arity where
  | unary
  | binary
  deriving DecidableEq, Repr

def Arity.count : Arity → Nat
  | .unary => 1
  | .binary => 2

structure Operator where
  symbol : String
  arity : Arity
  leftAssociative : Bool
  precedence : Int
  apply : Rule
  symbolValid : isOperatorSymbol symbol = true := by decide

namespace Operator

def isUnary (op : Operator) : Bool := op.arity == .unary

def isPrefixed (op : Operator) : Bool := op.isUnary && !op.leftAssociative

end Operator

/-! ### Functions -/

def isNameStart (c : Char) : Bool := c = '_' || isLetter c

def isNameChar (c : Char) : Bool := c = '_' || c = '.' || isDigit c || isLetter c

/-- Characters that a function's name may go on with; a point is none of them. -/
def isFunctionNameChar (c : Char) : Bool := c = '_' || isDigit c || isLetter c

def isFunctionName (name : String) : Bool :=
  match name.toList with
  | [] => false
  | first :: rest => isNameStart first && rest.all isFunctionNameChar

structure Function where
  name : String
  argumentCount : Nat
  apply : Rule
  nameValid : isFunctionName name = true := by decide

end Formula
