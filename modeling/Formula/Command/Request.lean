import Formula.Command.Arguments

/-!
The commands of the program and what their arguments ask for.
-/

set_option autoImplicit false

namespace Formula.Command

inductive Verb where
  | eval
  | validate
  | rpn
  deriving DecidableEq, Repr

def Verb.ofName? : String → Option Verb
  | "eval" => some .eval
  | "validate" => some .validate
  | "rpn" => some .rpn
  | _ => none

structure Request where
  expression : String := ""
  defines : List String := []
  varsFile : Option String := none
  declared : List String := []
  impliedProducts : Bool := true
  refuse : Option String := none
  suppress : Option String := none
  checkVariables : Bool := true
  wantsHelp : Bool := false
  deriving Repr

def commonOptions : List (CommandOption Request) := [
  { names := ["-D", "--define"]
    effect := .value fun text r => { r with defines := r.defines ++ [text] } },
  { names := ["--vars"], effect := .value fun path r => { r with varsFile := some path } },
  { names := ["-V", "--variable"]
    effect := .value fun name r => { r with declared := r.declared ++ [name] } },
  { names := ["--implicit-multiplication"]
    effect := .flag fun r => { r with impliedProducts := true } },
  { names := ["--no-implicit-multiplication"]
    effect := .flag fun r => { r with impliedProducts := false } },
  { names := ["--warn-as-error"], effect := .value fun codes r => { r with refuse := some codes } },
  { names := ["--suppress-warning"]
    effect := .value fun codes r => { r with suppress := some codes } },
  { names := ["--help"], effect := .flag fun r => { r with wantsHelp := true } }]

def validateOptions : List (CommandOption Request) := [
  { names := ["--check-variables"], effect := .flag fun r => { r with checkVariables := true } },
  { names := ["--no-check-variables"]
    effect := .flag fun r => { r with checkVariables := false } }]

def optionsOf : Verb → List (CommandOption Request)
  | .validate => commonOptions ++ validateOptions
  | _ => commonOptions

/-- What is asked of the program as a whole. The question that comes first wins. -/
structure Global where
  verbose : Bool := false
  question : Option Bool := none

def globalOptions : List (CommandOption Global) := [
  { names := ["-v", "--verbose"], effect := .flag fun g => { g with verbose := true } },
  { names := ["--version"]
    effect := .flag fun g => { g with question := g.question.or (some true) } },
  { names := ["--help"]
    effect := .flag fun g => { g with question := g.question.or (some false) } }]

inductive Asked where
  | usage
  | version
  | help
  | run (verbose : Bool) (verb : Verb) (request : Request)

def readRequest (verbose : Bool) (verb : Verb) (arguments : List String) : Asked :=
  match readArguments (optionsOf verb) true {} [] arguments with
  | none => .usage
  | some (request, others) =>
    if request.wantsHelp then .help
    else match others with
      | [expression] => .run verbose verb { request with expression }
      | _ => .usage

def readCommandLine (arguments : List String) : Asked :=
  match readArguments globalOptions false {} [] arguments with
  | none => .usage
  | some ({ question := some true, .. }, _) => .version
  | some ({ question := some false, .. }, _) => .help
  | some ({ verbose, question := none }, command :: rest) =>
    match Verb.ofName? command with
    | some verb => readRequest verbose verb rest
    | none => .usage
  | some ({ question := none, .. }, []) => .usage

end Formula.Command
