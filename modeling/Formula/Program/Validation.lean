import Formula.Token.Basic
import Formula.Bindings
import Formula.Text.Quoted

/-!
Checking a postfix program without running it. Only the number of values is followed; it has to stay
positive behind every item and to be one in the end. Checking stops where it falls below one.
-/

set_option autoImplicit false

namespace Formula

open Formula.Text

inductive Complaint where
  | unset (name : String)
  | missingArguments (name : String)
  | tooManyOperators
  | tooManyOperands
  deriving DecidableEq, Repr

def Complaint.message : Complaint → String
  | unset name => "The variable " ++ quote name ++ " has not been set"
  | missingArguments name => "Not enough arguments for " ++ quote name
  | tooManyOperators => "Too many operators"
  | tooManyOperands => "Too many operands"

/-- How many values there are behind an item, by how many there were before it. -/
def Item.depthBehind (depth : Int) : Item → Int
  | .number _ | .var _ => depth + 1
  | .operator op => depth + 1 - op.arity.count
  | .function f => depth + 1 - f.argumentCount

def Item.complaints (isBound : String → Bool) (depth : Int) : Item → List Complaint
  | .var name => if isBound name then [] else [.unset name]
  | .function f => if depth < f.argumentCount then [.missingArguments f.name] else []
  | .number _ | .operator _ => []

/-- The complaints about items in turn, and the number of values behind the last of them unless
checking stopped before. -/
def inspect (isBound : String → Bool) : (depth : Int) → List Item → List Complaint × Option Int
  | depth, [] => ([], some depth)
  | depth, i :: items =>
    let found := i.complaints isBound depth
    let depth' := i.depthBehind depth
    if depth' < 1 then (found ++ [.tooManyOperators], none)
    else
      let (more, final) := inspect isBound depth' items
      (found ++ more, final)

def endComplaints (depth : Int) : List Complaint :=
  if depth < 1 then [.tooManyOperators] else if 1 < depth then [.tooManyOperands] else []

/-- Which names count as bound; all do if variables are not checked. -/
def countsAsBound (bindings : Bindings) (checkVariables : Bool) (name : String) : Bool :=
  !checkVariables || bindings.contains name

def validate (items : List Item) (bindings : Bindings) (checkVariables : Bool) : List Complaint :=
  match inspect (countsAsBound bindings checkVariables) 0 items with
  | (found, some depth) => found ++ endComplaints depth
  | (found, none) => found

end Formula
