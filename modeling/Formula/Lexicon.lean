import Formula.Token.Basic
import Formula.Operator.Standard
import Formula.Function.Standard

/-!
What the names and symbols of a formula mean: declared variables, and functions and operators in
addition to the standard ones, which they take precedence over.
-/

set_option autoImplicit false

namespace Formula

structure Lexicon where
  functions : List Function := []
  operators : List Operator := []
  variableNames : List String := []
  impliedProducts : Bool := true

namespace Lexicon

def addFunction (lexicon : Lexicon) (f : Function) : Lexicon :=
  { lexicon with functions := f :: lexicon.functions.filter (·.name != f.name) }

def addOperator (lexicon : Lexicon) (op : Operator) : Lexicon :=
  { lexicon with operators := op :: lexicon.operators.filter (·.symbol != op.symbol) }

def addVariable (lexicon : Lexicon) (name : String) : Lexicon :=
  if lexicon.variableNames.contains name then lexicon
  else { lexicon with variableNames := name :: lexicon.variableNames }

def ownFunction? (lexicon : Lexicon) (name : String) : Option Function :=
  lexicon.functions.find? fun f => f.name == name

def ownOperator? (lexicon : Lexicon) (symbol : String) : Option Operator :=
  lexicon.operators.find? fun op => op.symbol == symbol

theorem ownFunction?_eq_none_iff {lexicon : Lexicon} {name : String} :
    lexicon.ownFunction? name = none ↔ ∀ f ∈ lexicon.functions, f.name ≠ name := by
  simp [ownFunction?]

theorem ownOperator?_eq_none_iff {lexicon : Lexicon} {symbol : String} :
    lexicon.ownOperator? symbol = none ↔ ∀ op ∈ lexicon.operators, op.symbol ≠ symbol := by
  simp [ownOperator?]

def function? (lexicon : Lexicon) (name : String) : Option Function :=
  (lexicon.ownFunction? name).or (Function.standard? name)

/-- The meaning of a name; a variable hides a function. -/
def name? (lexicon : Lexicon) (name : String) : Option Item :=
  if lexicon.variableNames.contains name then some (.var name)
  else (lexicon.function? name).map .function

/-- The operator of a symbol. The arity only chooses between the standard operators of a sign. -/
def operator? (lexicon : Lexicon) (arity : Arity) (symbol : String) : Option Operator :=
  (lexicon.ownOperator? symbol).or (Operator.standard? arity symbol)

end Lexicon

/-- The arity of a sign behind the given token: unary where no left operand can end. -/
def arityBehind : Option Token → Arity
  | none | some .opening | some .separator => .unary
  | some (.item (.operator op)) => if op.arity = .binary ∨ op.isPrefixed then .unary else .binary
  | some _ => .binary

end Formula
