import Formula.Program.Evaluation
import Formula.Program.Validation

/-!
Lists that are taken for programs although they may hold elements that are no items. What stands in
front of the first such element is dealt with as in a program; reaching it is an error of kind.
-/

set_option autoImplicit false

namespace Formula

/-- An element that is no item of a program. -/
inductive Stray where
  | opening
  | closing
  | separator
  | foreign (kind text : String)
  deriving DecidableEq, Repr

namespace Stray

def text : Stray → String
  | opening => "("
  | closing => ")"
  | separator => ","
  | foreign _ text => text

def message : Stray → String
  | opening => "OpenParenToken can not appear in an RPN sequence"
  | closing => "CloseParenToken can not appear in an RPN sequence"
  | separator => "ArgumentSeparatorToken can not appear in an RPN sequence"
  | foreign kind _ => "Unknown token type: " ++ kind

end Stray

inductive Entry where
  | item (i : Item)
  | stray (s : Stray)

def Entry.text : Entry → String
  | item i => i.text
  | stray s => s.text

def formatEntries (entries : List Entry) : String := " ".intercalate (entries.map Entry.text)

def splitAtStray : List Entry → List Item × Option Stray
  | [] => ([], none)
  | .stray s :: _ => ([], some s)
  | .item i :: entries =>
    let (items, stray?) := splitAtStray entries
    (i :: items, stray?)

inductive MixedError where
  | evaluation (error : EvaluationError)
  | stray (s : Stray)
  deriving DecidableEq, Repr

def MixedError.message : MixedError → String
  | evaluation error => error.message
  | stray s => s.message

def evaluateMixed (entries : List Entry) (bindings : Bindings) : Except MixedError Decimal := do
  let (items, stray?) := splitAtStray entries
  let stack ← (run bindings .empty items).mapError .evaluation
  match stray? with
  | some s => .error (.stray s)
  | none => (result stack).mapError .evaluation

/-- A stray element is an error only if checking gets there. -/
def validateMixed (entries : List Entry) (bindings : Bindings) (checkVariables : Bool) :
    Except Stray (List Complaint) :=
  let (items, stray?) := splitAtStray entries
  match inspect (countsAsBound bindings checkVariables) 0 items, stray? with
  | (_, some _), some s => .error s
  | (found, some depth), none => .ok (found ++ endComplaints depth)
  | (found, none), _ => .ok found

end Formula
