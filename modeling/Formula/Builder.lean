import Formula.Conversion
import Formula.Expression
import Formula.Warning

/-!
Collecting what a formula may use and compiling it. Building first warns of user names that hide
standard ones, then refuses variables named like functions, then converts the formula.
-/

set_option autoImplicit false

namespace Formula

/-- A formula with what it may use. Its text is not blank. -/
structure Builder where
  text : String
  lexicon : Lexicon := {}
  policy : Option WarningPolicy := none

inductive BuildError where
  | refused (w : Warning)
  | nameClash (name : String)
  | conversion (error : ConversionError)
  deriving DecidableEq, Repr

def BuildError.message : BuildError → String
  | refused w => w.text
  | nameClash name => "A variable can not have the same name as a function [" ++ name ++ "]"
  | conversion error => error.message

inductive Notice where
  | warned (w : Warning)
  | suppressed (w : Warning)
  | building (text : String) (variableCount functionCount operatorCount : Nat)
  | converted (text : String) (items : Nat)
  deriving DecidableEq, Repr

structure Build where
  notices : List Notice
  outcome : Except BuildError Expression

def Notice.warning? : Notice → Option Warning
  | warned w => some w
  | _ => none

def Build.warnings (b : Build) : List Warning := b.notices.filterMap Notice.warning?

def sortNames (names : List String) : List String :=
  names.eraseDups.mergeSort fun left right => left ≤ right

namespace Builder

def create? (text : String) : Option Builder :=
  if text.toList.all Text.isBlank then none else some { text }

def addFunctions (b : Builder) (functions : List Function) : Builder :=
  { b with lexicon := functions.foldl Lexicon.addFunction b.lexicon }

def addOperators (b : Builder) (operators : List Operator) : Builder :=
  { b with lexicon := operators.foldl Lexicon.addOperator b.lexicon }

def addVariables (b : Builder) (names : List String) : Builder :=
  { b with lexicon := names.foldl Lexicon.addVariable b.lexicon }

def implyProducts (b : Builder) (enabled : Bool) : Builder :=
  { b with lexicon := { b.lexicon with impliedProducts := enabled } }

def setPolicy (b : Builder) (policy : Option WarningPolicy) : Builder := { b with policy }

def functionNames (b : Builder) : List String := b.lexicon.functions.map (·.name)

def warnings (b : Builder) : List Warning :=
  let functions := (sortNames b.functionNames).filter fun name => (Function.standard? name).isSome
  let operators := (sortNames (b.lexicon.operators.map (·.symbol))).filter fun symbol =>
    Operator.standardSymbols.contains symbol
  let constantNames := (sortNames b.lexicon.variableNames).filter fun name =>
    constants.contains name
  functions.map (Warning.mk "W01") ++ operators.map (Warning.mk "W02")
    ++ constantNames.map (Warning.mk "W03")

/-- Goes through warnings up to the first that the policy turns into an error. -/
def applyPolicy (policy : Option WarningPolicy) : List Warning → List Notice × Option Warning
  | [] => ([], none)
  | w :: rest =>
    match WarningPolicy.handling policy w.code with
    | .refused => ([], some w)
    | .shown =>
      let (notices, refused?) := applyPolicy policy rest
      (.warned w :: notices, refused?)
    | .suppressed =>
      let (notices, refused?) := applyPolicy policy rest
      (.suppressed w :: notices, refused?)

def fullLexicon (b : Builder) : Lexicon :=
  { b.lexicon with variableNames := (b.lexicon.variableNames ++ constants.names).eraseDups }

def nameClash? (lexicon : Lexicon) : Option String :=
  (sortNames lexicon.variableNames).find? fun name => (lexicon.function? name).isSome

def build (b : Builder) : Build :=
  let (notices, refused?) := applyPolicy b.policy b.warnings
  match refused? with
  | some w => { notices, outcome := .error (.refused w) }
  | none =>
    let lexicon := b.fullLexicon
    match nameClash? lexicon with
    | some name => { notices, outcome := .error (.nameClash name) }
    | none =>
      let begun := notices ++ [.building b.text lexicon.variableNames.length
        lexicon.functions.length lexicon.operators.length]
      match toPostfix lexicon b.text with
      | .error error => { notices := begun, outcome := .error (.conversion error) }
      | .ok items =>
        { notices := begun ++ [.converted b.text items.length]
          outcome := .ok (.ofItems items b.functionNames) }

end Builder

end Formula
