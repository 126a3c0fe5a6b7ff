import Formula.Program.Evaluation
import Formula.Program.Validation
import Formula.Function.Standard
import Formula.Datum

/-!
Compiled expressions: a program that never changes, and values for variables that may. Names of
functions known at compile time can not be bound.
-/

set_option autoImplicit false

namespace Formula

open Formula.Text

def constants : Bindings := .ofList [
  ("pi", .finite false 3141592653589793 (-15)),
  ("π", .finite false 3141592653589793 (-15)),
  ("φ", .finite false 161803398874 (-11)),
  ("e", .finite false 2718281828459045 (-15))]

structure Expression where
  items : List Item
  bindings : Bindings
  functionNames : List String

inductive BindError where
  | functionName (name : String)
  | value (error : DatumError)
  deriving DecidableEq, Repr

def BindError.message : BindError → String
  | functionName name =>
    "The variable name " ++ quote name
      ++ " is invalid. Since there exists a function with the same name"
  | value error => error.message

namespace Expression

def ofItems (items : List Item) (functionNames : List String) : Expression :=
  { items, bindings := constants, functionNames }

def isFunctionName (e : Expression) (name : String) : Bool :=
  e.functionNames.contains name || (Function.standard? name).isSome

def setVariable (e : Expression) (name : String) (value : Datum) : Except BindError Expression :=
  if e.isFunctionName name then .error (.functionName name)
  else match value.toDecimal with
    | .ok number => .ok { e with bindings := e.bindings.set name number }
    | .error error => .error (.value error)

/-- Binds names in order up to the first failure; what was bound before it stays bound. -/
def setVariables (e : Expression) : List (String × Datum) → Expression × Option BindError
  | [] => (e, none)
  | (name, value) :: rest =>
    match e.setVariable name value with
    | .ok e' => setVariables e' rest
    | .error error => (e, some error)

/-- Removes all values, those of the constants too. -/
def clearVariables (e : Expression) : Expression := { e with bindings := {} }

def occurrences (items : List Item) : List String :=
  items.filterMap fun
    | .var name => some name
    | _ => none

def variableNames (e : Expression) : List String :=
  (occurrences e.items).eraseDups.mergeSort fun left right => left ≤ right

def validate (e : Expression) (checkVariables : Bool) : List Complaint :=
  Formula.validate e.items e.bindings checkVariables

def evaluate (e : Expression) : Except EvaluationError Decimal :=
  Formula.evaluate e.items e.bindings

def toText (e : Expression) : String := "Expression(" ++ quote (formatItems e.items) ++ ")"

end Expression

end Formula
