import Formula.Token.Basic
import Formula.Bindings
import Formula.Program.ValueStack
import Formula.Text.Quoted

/-!
Running a postfix program on a stack of values. Operators and functions take their arguments from
the stack in written order; a failed computation is reported as lying outside their domain.
-/

set_option autoImplicit false

namespace Formula

open Formula.Text

inductive Use where
  | operator (symbol : String)
  | function (name : String)
  deriving DecidableEq, Repr

def Use.text : Use → String
  | operator symbol => "Operator " ++ quote symbol
  | function name => "Function " ++ quote name

/-- Why a program has no value. A fault that is no failed computation is passed on as it is. -/
inductive EvaluationError where
  | missingOperands (symbol : String)
  | missingArguments (name : String)
  | leftover
  | noValue
  | unset (name : String)
  | failed (use : Use) (fault : Fault)
  | raised (fault : Fault)
  deriving DecidableEq, Repr

def EvaluationError.message : EvaluationError → String
  | missingOperands symbol =>
    "Invalid number of operands available for " ++ quote symbol ++ " operator"
  | missingArguments name =>
    "Invalid number of arguments available for " ++ quote name ++ " function"
  | leftover =>
    "Invalid number of items on the output queue. "
      ++ "Might be caused by an invalid number of arguments for a function."
  | noValue => "Expression produced no value"
  | unset name => "No value has been set for the variable " ++ quote name
  | failed use fault => use.text ++ " failed: " ++ fault.message
  | raised fault => fault.message

/-- Applies a rule, telling failed computations from other faults. -/
def applyRule (use : Use) (rule : Rule) (arguments : List Decimal) :
    Except EvaluationError Decimal :=
  (rule arguments).mapError fun fault =>
    if fault.isComputational then .failed use fault else .raised fault

def applyToTop (missing : EvaluationError) (use : Use) (count : Nat) (rule : Rule)
    (stack : ValueStack) : Except EvaluationError ValueStack :=
  if stack.size < count then .error missing
  else match stack.popOnto [] count with
    | none => .error missing
    | some (arguments, below) => (applyRule use rule arguments).map below.push

def step (bindings : Bindings) (stack : ValueStack) : Item → Except EvaluationError ValueStack
  | .number value => .ok (stack.push value)
  | .var name =>
    match bindings.get? name with
    | some value => .ok (stack.push value)
    | none => .error (.unset name)
  | .operator op =>
    applyToTop (.missingOperands op.symbol) (.operator op.symbol) op.arity.count op.apply stack
  | .function f =>
    applyToTop (.missingArguments f.name) (.function f.name) f.argumentCount f.apply stack

def run (bindings : Bindings) (stack : ValueStack) (items : List Item) :
    Except EvaluationError ValueStack :=
  items.foldlM (step bindings) stack

/-- The value that a finished run leaves, which has to be the only one. -/
def result (stack : ValueStack) : Except EvaluationError Decimal :=
  if 1 < stack.size then .error .leftover
  else match stack.pop? with
    | some (value, _) => .ok value
    | none => .error .noValue

def evaluate (items : List Item) (bindings : Bindings) : Except EvaluationError Decimal :=
  run bindings .empty items >>= result

end Formula
