import Formula.Builder

/-!
Sessions: one builder and the expressions that were made from it, one of which may be the current
one. Only the current expression is touched by steps that bind variables.
-/

set_option autoImplicit false

namespace Formula

structure Session where
  builder : Builder
  expressions : List Expression := []
  current : Option Nat := none

inductive SessionStep where
  | addFunctions (functions : List Function)
  | addOperators (operators : List Operator)
  | addVariables (names : List String)
  | implyProducts (enabled : Bool)
  | setPolicy (policy : Option WarningPolicy)
  | build
  | use (index : Nat)
  | set (name : String) (value : Datum)
  | setMany (entries : List (String × Datum))
  | clear
  | evaluate
  | validate (checkVariables : Bool)
  | names
  | bindings
  | items
  | copy

inductive SessionAnswer where
  | done
  | noExpression
  | built (warnings : List Warning) (outcome : Except BuildError Expression)
  | bindFailed (error : BindError)
  | value (outcome : Except EvaluationError Decimal)
  | complaints (found : List Complaint)
  | names (found : List String)
  | bindings (found : List (String × Decimal))
  | items (found : List Item)
  | copied

namespace Session

def currentExpression? (s : Session) : Option Expression := do s.expressions[(← s.current)]?

def configure (s : Session) (f : Builder → Builder) : Session × SessionAnswer :=
  ({ s with builder := f s.builder }, .done)

def add (s : Session) (e : Expression) : Session :=
  { s with expressions := s.expressions ++ [e], current := some s.expressions.length }

def ask (s : Session) (f : Expression → SessionAnswer) : Session × SessionAnswer :=
  (s, (s.currentExpression?.map f).getD .noExpression)

def replaceCurrent (s : Session) (e : Expression) : Session :=
  match s.current with
  | some index => { s with expressions := s.expressions.set index e }
  | none => s

def bind (s : Session) (f : Expression → Expression × Option BindError) : Session × SessionAnswer :=
  match s.currentExpression? with
  | none => (s, .noExpression)
  | some e =>
    let (e', error?) := f e
    (s.replaceCurrent e', (error?.map .bindFailed).getD .done)

def perform (s : Session) : SessionStep → Session × SessionAnswer
  | .addFunctions functions => s.configure (·.addFunctions functions)
  | .addOperators operators => s.configure (·.addOperators operators)
  | .addVariables names => s.configure (·.addVariables names)
  | .implyProducts enabled => s.configure (·.implyProducts enabled)
  | .setPolicy policy => s.configure (·.setPolicy policy)
  | .build =>
    let b := s.builder.build
    match b.outcome with
    | .ok e => (s.add e, .built b.warnings b.outcome)
    | .error _ => (s, .built b.warnings b.outcome)
  | .use index =>
    ({ s with current := if index < s.expressions.length then some index else none }, .done)
  | .set name value => s.bind (·.setVariables [(name, value)])
  | .setMany entries => s.bind (·.setVariables entries)
  | .clear => s.bind fun e => (e.clearVariables, none)
  | .evaluate => s.ask fun e => .value e.evaluate
  | .validate checkVariables => s.ask fun e => .complaints (e.validate checkVariables)
  | .names => s.ask fun e => .names e.variableNames
  | .bindings => s.ask fun e => .bindings e.bindings.sorted
  | .items => s.ask fun e => .items e.items
  | .copy =>
    match s.currentExpression? with
    | some e => (s.add e, .copied)
    | none => (s, .noExpression)

end Session

end Formula
