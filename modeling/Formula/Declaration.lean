import Formula.Symbol
import Formula.Text.Quoted

/-!
Operators and functions from raw fields. All faulty fields are reported together, except that an
invalid symbol or operand count is reported alone as soon as its field is reached; the signature of
a function is looked at last.
-/

set_option autoImplicit false

namespace Formula

open Formula.Text

inductive RawField where
  | absent
  | truth (value : Bool)
  | integer (value : Int)
  | fractional
  | text (value : String)
  | rule (value : Rule)
  | other

inductive Problem where
  | missing
  | extra
  | notText
  | notInteger
  | notIntegerText
  | tooManyDigits
  | notIntegral
  | notTruth
  | notTruthText
  | notCallable
  | frozen
  deriving DecidableEq, Repr

def Problem.name : Problem → String
  | missing => "missing"
  | extra => "extra_forbidden"
  | notText => "string_type"
  | notInteger => "int_type"
  | notIntegerText => "int_parsing"
  | tooManyDigits => "int_parsing_size"
  | notIntegral => "int_from_float"
  | notTruth => "bool_type"
  | notTruthText => "bool_parsing"
  | notCallable => "callable_type"
  | frozen => "frozen_instance"

inductive DeclarationError where
  | fields (problems : List (String × Problem))
  | symbol (given : String)
  | operandCount (count : Int)
  | argumentCount (name : String)
  | functionName (name : String)
  deriving DecidableEq, Repr

def DeclarationError.message : DeclarationError → String
  | fields _ => ""
  | symbol given => "The operator symbol " ++ quote given ++ " is invalid"
  | operandCount count => "Operators may take one or two operands, got " ++ toString count
  | argumentCount name =>
    "The number of function arguments can not be less than 0 for " ++ quote name
  | functionName name => "The function name " ++ quote name ++ " is invalid"

namespace RawField

def isSpace (c : Char) : Bool := isBlank c && !('\x1c' ≤ c && c ≤ '\x1f')

/-- The text without blanks around it and without a plus sign, which no minus sign may follow. -/
def dropPlus (text : List Char) : List Char :=
  match ((text.dropWhile isSpace).reverse.dropWhile isSpace).reverse with
  | '+' :: '-' :: _ => []
  | '+' :: rest => rest
  | rest => rest

/-- The text without zeros in front of other digits; underscores may stand behind such zeros. -/
def dropLeadingZeros (text : List Char) : List Char :=
  let (zeros, rest) := text.span fun c => c = '0' || c = '_'
  if text.head? ≠ some '0' then text
  else if rest.head?.any Char.isDigit then rest
  else if zeros.getLast? = some '0' then '0' :: rest
  else text

def dropZeroFraction (text : List Char) : List Char :=
  let (whole, fraction) := text.span (· ≠ '.')
  if fraction.drop 1 |>.all (· = '0') then whole else text

def dropUnderscores (text : List Char) : List Char :=
  let groups := splitAt '_' text
  if groups.any List.isEmpty then text else groups.flatten

/-- How many characters of an integer are read. -/
def integerLimit : Nat := 4300

def readPlainInteger (text : List Char) : Except Problem Int :=
  let (negative, digits) := match text with
    | '-' :: rest => (true, rest)
    | rest => (false, rest)
  if digits.isEmpty || !digits.all Char.isDigit || digits.head? = some '0' && digits.length ≠ 1 then
    .error .notIntegerText
  else if integerLimit < text.length then .error .tooManyDigits
  else
    let magnitude := Nat.ofDigitChars 10 digits 0
    .ok (if negative then -(magnitude : Int) else magnitude)

def readInteger (text : List Char) : Except Problem Int :=
  readPlainInteger (dropUnderscores (dropZeroFraction (dropLeadingZeros (dropPlus text))))

def toText : RawField → Except Problem String
  | text value => .ok value
  | _ => .error .notText

def toInteger : RawField → Except Problem Int
  | integer value => .ok value
  | truth value => .ok (if value then 1 else 0)
  | fractional => .error .notIntegral
  | text value => readInteger value.toList
  | _ => .error .notInteger

def trueWords : List String := ["1", "on", "t", "true", "y", "yes"]

def falseWords : List String := ["0", "off", "f", "false", "n", "no"]

def toTruth : RawField → Except Problem Bool
  | truth value => .ok value
  | integer value =>
    if value = 1 then .ok true else if value = 0 then .ok false else .error .notTruthText
  | text value =>
    let word := String.ofList (value.toList.map Char.toLower)
    if trueWords.contains word then .ok true
    else if falseWords.contains word then .ok false
    else .error .notTruthText
  | _ => .error .notTruth

def toRule : RawField → Except Problem Rule
  | rule value => .ok value
  | _ => .error .notCallable

end RawField

abbrev RawFields := List (String × RawField)

namespace RawFields

def get? (fields : RawFields) (name : String) : Option RawField :=
  (fields.find? fun field => field.1 == name).map (·.2)

def require {α : Type} (fields : RawFields) (name : String) (read : RawField → Except Problem α) :
    Except Problem α :=
  match fields.get? name with
  | some field => read field
  | none => .error .missing

def extras (fields : RawFields) (known : List String) : List (String × Problem) :=
  fields.filterMap fun field => if known.contains field.1 then none else some (field.1, .extra)

def problem {α : Type} (name : String) : Except Problem α → List (String × Problem)
  | .ok _ => []
  | .error found => [(name, found)]

end RawFields

def Arity.ofCount? (count : Int) : Option Arity :=
  if count = 1 then some .unary else if count = 2 then some .binary else none

namespace Operator

def fieldNames : List String :=
  ["symbol", "operand_count", "left_associative", "precedence", "apply"]

def checkSymbol : Except Problem String → Except DeclarationError Unit
  | .ok symbol => if isOperatorSymbol symbol then .ok () else .error (.symbol symbol)
  | .error _ => .ok ()

def checkCount : Except Problem Int → Except DeclarationError Unit
  | .ok count => if (Arity.ofCount? count).isSome then .ok () else .error (.operandCount count)
  | .error _ => .ok ()

def ofFields (fields : RawFields) : Except DeclarationError Operator := do
  let symbol := fields.require "symbol" RawField.toText
  checkSymbol symbol
  let count := fields.require "operand_count" RawField.toInteger
  checkCount count
  let leftAssociative := fields.require "left_associative" RawField.toTruth
  let precedence := fields.require "precedence" RawField.toInteger
  let apply := fields.require "apply" RawField.toRule
  let problems := RawFields.problem "symbol" symbol ++ RawFields.problem "operand_count" count
    ++ RawFields.problem "left_associative" leftAssociative
    ++ RawFields.problem "precedence" precedence ++ RawFields.problem "apply" apply
    ++ fields.extras fieldNames
  match problems, symbol, count, leftAssociative, precedence, apply with
  | [], .ok symbol, .ok count, .ok leftAssociative, .ok precedence, .ok apply =>
    match Arity.ofCount? count with
    | none => .error (.operandCount count)
    | some arity =>
      if valid : isOperatorSymbol symbol = true then
        .ok { symbol, arity, leftAssociative, precedence, apply, symbolValid := valid }
      else .error (.symbol symbol)
  | problems, _, _, _, _, _ => .error (.fields problems)

end Operator

namespace Function

def fieldNames : List String := ["name", "argument_count", "apply"]

/-- A function of the given signature; the number of arguments is checked first. -/
def create (name : String) (argumentCount : Int) (apply : Rule) :
    Except DeclarationError Function :=
  if argumentCount < 0 then .error (.argumentCount name)
  else if valid : isFunctionName name = true then
    .ok { name, argumentCount := argumentCount.toNat, apply, nameValid := valid }
  else .error (.functionName name)

/-- The function with the given fields, of one argument unless another number is given. -/
def ofFields (fields : RawFields) : Except DeclarationError Function :=
  let name := fields.require "name" RawField.toText
  let count := match fields.get? "argument_count" with
    | some field => field.toInteger
    | none => .ok 1
  let apply := fields.require "apply" RawField.toRule
  let problems := RawFields.problem "name" name ++ RawFields.problem "argument_count" count
    ++ RawFields.problem "apply" apply ++ fields.extras fieldNames
  match problems, name, count, apply with
  | [], .ok name, .ok count, .ok apply => create name count apply
  | problems, _, _, _ => .error (.fields problems)

end Function

end Formula
