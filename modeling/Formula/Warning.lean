import Formula.Text.Quoted
import Formula.Text.Class

/-!
Coded warnings about names that hide standard ones, and policies that drop them or turn them into
errors. Dropping comes before turning into an error.
-/

set_option autoImplicit false

namespace Formula

open Formula.Text

def warningTexts : List (String × String) :=
  [("W01", "user function shadows a built-in function"),
    ("W02", "user operator shadows a built-in operator"),
    ("W03", "declared variable shadows a default constant")]

def warningCodes : List String := warningTexts.map (·.1)

structure Warning where
  code : String
  subject : String
  deriving DecidableEq, Repr

def Warning.text? (w : Warning) : Option String :=
  (warningTexts.find? fun entry => entry.1 == w.code).map fun entry =>
    "[" ++ w.code ++ "] " ++ quote w.subject ++ ": " ++ entry.2

def Warning.text (w : Warning) : String := w.text?.getD ""

/-- The codes to turn into errors and the codes to drop. -/
structure WarningPolicy where
  refuse : List String := []
  suppress : List String := []
  deriving Repr

inductive Handling where
  | shown
  | suppressed
  | refused
  deriving DecidableEq, Repr

def WarningPolicy.handling (policy : Option WarningPolicy) (code : String) : Handling :=
  match policy with
  | none => .shown
  | some policy =>
    if policy.suppress.contains code then .suppressed
    else if policy.refuse.contains code then .refused
    else .shown

/-- Deals with a warning under a policy; a code without a text is an error of its own, told by the
code. -/
def Warning.emit (policy : Option WarningPolicy) (w : Warning) : Except String Handling :=
  match w.text? with
  | some _ => .ok (WarningPolicy.handling policy w.code)
  | none => .error w.code

def sortCodes (codes : List String) : List String := codes.eraseDups.mergeSort fun a b => a ≤ b

def splitCodes (list : String) : List String :=
  ((splitAt ',' list.toList).map trim).filterMap fun code =>
    if code.isEmpty then none else some (String.ofList code)

def readCodes (list : String) : Except (List String) (List String) :=
  let codes := sortCodes (splitCodes list)
  match codes.filter fun code => !warningCodes.contains code with
  | [] => .ok codes
  | unknown => .error unknown

def unknownCodesMessage (unknown : List String) : String :=
  "Unknown warning code(s): " ++ ", ".intercalate unknown ++ " (known: "
    ++ ", ".intercalate warningCodes ++ ")"

/-- A policy from lists of codes to turn into errors and to drop; there is none without any list. -/
def WarningPolicy.ofLists (refuse suppress : Option String) :
    Except (List String) (Option WarningPolicy) :=
  match refuse, suppress with
  | none, none => .ok none
  | refuse, suppress => do
    let refuse ← readCodes (refuse.getD "")
    let suppress ← readCodes (suppress.getD "")
    return some { refuse, suppress }

end Formula
