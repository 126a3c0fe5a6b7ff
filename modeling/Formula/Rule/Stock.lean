import Formula.Rule
import Formula.Decimal.Arithmetic
import Formula.Decimal.Integral
import Formula.Decimal.Order

/-!
Ready-made rules for user functions and operators, and their short names. A name that ends in a text
makes a rule with a fixed result or a fixed fault.
-/

set_option autoImplicit false

namespace Formula.Rule

def withEnds (f : Decimal → Decimal → Except Fault Decimal) : Rule
  | [] => .error (.lookup "tuple index out of range")
  | first :: rest => f first (rest.getLastD first)

def foldArguments (f : Decimal → Decimal → Except Decimal.Condition Decimal) (start : Decimal) :
    Rule :=
  fun arguments => lift (arguments.foldlM f start)

/-- The value of the arguments as the digits of one number, the first one leading. -/
def appendDigit (value digit : Decimal) : Except Decimal.Condition Decimal := do
  (← value.multiply (.ofNat 10)).add digit

def multiplyUp (product : Decimal) (factor : Nat) : Nat → Except Decimal.Condition Decimal
  | 0 => .ok product
  | count + 1 =>
    match product.multiply (.ofNat factor) with
    | .ok product' => multiplyUp product' (factor + 1) count
    | .error condition => .error condition

/-- More whole numbers than can be multiplied from one on before the product is too large. -/
def factorLimit : Nat := 1000000

def factorial (x : Decimal) : Except Fault Decimal :=
  match x with
  | .nan .. => .error (.value "cannot convert NaN to integer")
  | .infinity _ => .error (.overflow "cannot convert Infinity to integer")
  | .finite .. => lift (multiplyUp (.ofNat 1) 1 (x.wholeUpTo factorLimit))

def reciprocal (x : Decimal) : Except Fault Decimal :=
  if x.isZero then .error (.domain .divisionByZero) else lift (Decimal.divide (.ofNat 1) x)

def truth (b : Bool) : Decimal := .ofNat (if b then 1 else 0)

def productOver : Rule
  | x :: y :: z :: _ => lift do (← x.multiply y).divide z
  | arguments => .error (wrongCount 3 arguments)

def named? : String → Option Rule
  | "sum" => some (foldArguments Decimal.add (.ofNat 0))
  | "product" => some (foldArguments Decimal.multiply (.ofNat 1))
  | "poly" => some (foldArguments appendDigit (.ofNat 0))
  | "factorial" => some (withEnds fun x _ => factorial x)
  | "reciprocal" => some (withEnds fun x _ => reciprocal x)
  | "first" => some (withEnds fun x _ => .ok x)
  | "last" => some (withEnds fun _ y => .ok y)
  | "neg" => some (withEnds fun x _ => .ok x.negate)
  | "sub" => some (withEnds fun x y => lift (x.subtract y))
  | "rsub" => some (withEnds fun x y => lift (y.subtract x))
  | "div" => some (withEnds fun x y => lift (x.divide y))
  | "muldiv" => some productOver
  | "ge" => some (withEnds fun x y => lift ((x.order y).map fun o => truth (o != .lt)))
  | "lt" => some (withEnds fun x y => lift ((x.order y).map fun o => truth (o == .lt)))
  | "eq" => some (withEnds fun x y => lift ((x.equal y).map truth))
  | "count" => some fun arguments => .ok (.ofNat arguments.length)
  | _ => none

def fixed? (kind text : String) : Option Rule :=
  let fault : Option Fault := match kind with
    | "domain" => some (.domain (.stated text))
    | "arity" => some (.arity text)
    | "config" => some (.configuration text)
    | "value" => some (.value text)
    | "arith" => some (.arithmetic text)
    | "overflow" => some (.overflow text)
    | "zerodiv" => some (.zeroDivision text)
    | "type" => some (.kind text)
    | "lookup" => some (.lookup text)
    | _ => none
  match kind with
  | "const" => (Decimal.ofText? text).map fun value _ => .ok value
  | _ => fault.map fun fault _ => .error fault

/-- The rule of a name; a colon stands between a kind of fixed rule and its text. -/
def ofName? (name : String) : Option Rule :=
  match name.toList.span (· ≠ ':') with
  | (kind, ':' :: text) => fixed? (String.ofList kind) (String.ofList text)
  | _ => named? name

end Formula.Rule
