import Formula.Command.Request
import Formula.Builder
import Formula.Input

/-!
Carrying out requests: what is written to the two outputs and how the program ends. Problems that an
expression, its bindings or the warning options have are reported on the second output.
-/

set_option autoImplicit false

namespace Formula.Command

open Formula.Text

inductive CompileError where
  | unknownCodes (codes : List String)
  | load (error : LoadError)
  | assignment (error : InputError)
  | blank
  | build (error : BuildError)
  | bind (error : BindError)
  deriving DecidableEq, Repr

def CompileError.message : CompileError → String
  | unknownCodes codes => unknownCodesMessage codes
  | load error => error.message
  | assignment error => error.message
  | blank => ConversionError.empty.message
  | build error => error.message
  | bind error => error.message

inductive Failure where
  | compile (error : CompileError)
  | evaluation (error : EvaluationError)
  deriving DecidableEq, Repr

def Failure.message : Failure → String
  | compile error => error.message
  | evaluation error => error.message

/-- What makes a file no YAML text or its content no data is not reported but ends the program. -/
def Failure.undecoded? : Failure → Option LoadError
  | compile (.load (.input _)) => none
  | compile (.load error) => some error
  | _ => none

/-- The values of the file, replaced by those of the assignments. -/
def collectBindings (files : String → FileContent) (request : Request) :
    Except CompileError Bindings := do
  let fromFile ← match request.varsFile with
    | some path => (loadBindings path (files path)).mapError .load
    | none => .ok {}
  -- An assignment wins over the file, and a later one over an earlier one.
  request.defines.foldlM (fun bindings text => do
    let (name, value) ← (readAssignment text).mapError .assignment
    return bindings.set name value) fromFile

def bindAll (e : Expression) (bindings : Bindings) : Except CompileError Expression :=
  match e.setVariables (bindings.sorted.map fun (name, value) => (name, .decimal value)) with
  | (e', none) => .ok e'
  | (_, some error) => .error (.bind error)

def prepare (files : String → FileContent) (request : Request) :
    Except CompileError (Builder × Bindings) := do
  let policy ← (WarningPolicy.ofLists request.refuse request.suppress).mapError .unknownCodes
  let bindings ← collectBindings files request
  match Builder.create? request.expression with
  | none => .error .blank
  | some b =>
    return ((((b.addVariables bindings.names).addVariables request.declared).implyProducts
      request.impliedProducts).setPolicy policy, bindings)

def compile (files : String → FileContent) (request : Request) :
    List Notice × Except CompileError Expression :=
  match prepare files request with
  | .error error => ([], .error error)
  | .ok (b, bindings) =>
    let built := b.build
    match built.outcome with
    | .error error => (built.notices, .error (.build error))
    | .ok e => (built.notices, bindAll e bindings)

structure Printed where
  lines : List String
  success : Bool := true

def Verb.perform (verb : Verb) (checkVariables : Bool) (e : Expression) : Except Failure Printed :=
  match verb with
  | .eval =>
    match e.evaluate with
    | .ok value => .ok { lines := [value.toText] }
    | .error error => .error (.evaluation error)
  | .rpn => .ok { lines := [formatItems e.items] }
  | .validate =>
    match e.validate checkVariables with
    | [] => .ok { lines := ["valid"] }
    | found => .ok { lines := found.map Complaint.message, success := false }

structure Outcome where
  notices : List Notice
  result : Except Failure Printed

def execute (files : String → FileContent) (verb : Verb) (request : Request) : Outcome :=
  match compile files request with
  | (notices, .error error) => { notices, result := .error (.compile error) }
  | (notices, .ok e) => { notices, result := verb.perform request.checkVariables e }

/-- The line that a notice leaves if the program is to be verbose; warnings leave none. -/
def noticeLine? : Notice → Option String
  | .warned _ => none
  | .suppressed w => some ("DEBUG infixeval.warning_policy: Suppressed " ++ w.text)
  | .building text variableCount functionCount operatorCount =>
    some ("DEBUG infixeval.builder: Building " ++ quote text ++ " with " ++ toString variableCount
      ++ " variables, " ++ toString functionCount ++ " functions, " ++ toString operatorCount
      ++ " operators")
  | .converted text items =>
    some ("DEBUG infixeval.shunting_yard: Converted " ++ quote text ++ " to " ++ toString items
      ++ " RPN tokens")

def unlines (lines : List String) : String := String.join (lines.map (· ++ "\n"))

structure Report where
  exit : Nat
  output : String := ""
  errors : String := ""

def Outcome.report (verbose : Bool) (outcome : Outcome) : Report :=
  let notes := if verbose then outcome.notices.filterMap noticeLine? else []
  match outcome.result with
  | .ok printed =>
    { exit := if printed.success then 0 else 1
      output := unlines printed.lines
      errors := unlines notes }
  | .error failure => { exit := 1, errors := unlines (notes ++ ["Error: " ++ failure.message]) }

def versionText : String := "infixeval, version 0.1.0"

inductive Ending where
  | usage
  | told (text : String)
  | ran (verbose : Bool) (outcome : Outcome)

/-- A file that is named by an option has to be there; a path that no file can have is not looked
for. -/
def fileUsable (files : String → FileContent) : Option String → Bool
  | none => true
  | some path =>
    match files path with
    | .bytes _ => true
    | _ => hasNul path

def runCommandLine (files : String → FileContent) (arguments : List String) : Ending :=
  match readCommandLine arguments with
  | .usage => .usage
  | .version => .told versionText
  | .help => .told ""
  | .run verbose verb request =>
    if fileUsable files request.varsFile then .ran verbose (execute files verb request) else .usage

end Formula.Command
