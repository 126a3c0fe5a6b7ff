import Formula.Calendar
import Formula.Double.Text

/-!
Data from outside that may or may not be numbers, how they are shown, and which of them become
decimal numbers. A double becomes the number that it is written as.
-/

set_option autoImplicit false

namespace Formula

open Formula.Text

inductive Shape where
  | list
  | mapping
  | ordered
  deriving DecidableEq, Repr

/-- A datum. A text with halves of surrogate pairs in it is kept as its code points, and where a
collection occurs inside itself, only its shape is kept. -/
inductive Datum where
  | absent
  | truth (value : Bool)
  | integer (value : Int)
  | double (value : Float)
  | decimal (value : Decimal)
  | text (value : String)
  | broken (codes : List Nat)
  | day (value : Day)
  | moment (value : Moment)
  | bytes (value : List UInt8)
  | list (elements : List Datum)
  | tuple (elements : List Datum)
  | set (elements : List Datum)
  | mapping (entries : List (Datum × Datum))
  | ordered (entries : List (Datum × Datum))
  | again (shape : Shape)

inductive DatumError where
  | truth
  | notFinite (shown : String)
  | unsupported (kind : String)
  deriving DecidableEq, Repr

def DatumError.message : DatumError → String
  | truth => "Booleans are not valid variable values"
  | notFinite shown => "Variable values must be finite, got " ++ shown
  | unsupported kind => "Unsupported variable value type: " ++ kind

def Shape.kind : Shape → String
  | list => "list"
  | mapping => "dict"
  | ordered => "ordereddict"

def Shape.shown : Shape → String
  | list => "[...]"
  | mapping => "\x7b...\x7d"
  | ordered => "..."

namespace Datum

def kind : Datum → String
  | absent => "NoneType"
  | truth _ => "bool"
  | integer _ => "int"
  | double _ => "float"
  | decimal _ => "Decimal"
  | text _ => "str"
  | broken _ => "str"
  | day _ => "date"
  | moment _ => "datetime"
  | bytes _ => "bytes"
  | list _ => "list"
  | tuple _ => "tuple"
  | set _ => "set"
  | mapping _ => "dict"
  | ordered _ => "ordereddict"
  | again shape => shape.kind

def toDecimal : Datum → Except DatumError Decimal
  | decimal value => .ok value
  | truth _ => .error .truth
  | integer value => .ok (.ofInt value)
  | double value =>
    match Double.toDecimal? value with
    | some number => .ok number
    | none => .error (.notFinite (Double.toText value))
  | d => .error (.unsupported d.kind)

def enclose (opening closing : String) (elements : List String) : String :=
  opening ++ ", ".intercalate elements ++ closing

mutual

def shown : Datum → String
  | absent => "None"
  | truth value => if value then "True" else "False"
  | integer value => toString value
  | double value => Double.toText value
  | decimal value => "Decimal('" ++ value.toText ++ "')"
  | text value => quote value
  | broken codes => quoteCodes codes
  | day value => value.shown
  | moment value => value.shown
  | bytes value => quoteBytes value
  | list elements => enclose "[" "]" (shownElements elements)
  | tuple [d] => "(" ++ shown d ++ ",)"
  | tuple elements => enclose "(" ")" (shownElements elements)
  | set [] => "set()"
  | set elements => enclose "\x7b" "\x7d" (shownElements elements)
  | mapping entries => enclose "\x7b" "\x7d" (shownEntries entries)
  | ordered [] => "ordereddict()"
  | ordered entries => enclose "ordereddict([" "])" (shownPairs entries)
  | again shape => shape.shown

def shownElements : List Datum → List String
  | [] => []
  | d :: rest => shown d :: shownElements rest

def shownEntries : List (Datum × Datum) → List String
  | [] => []
  | (key, value) :: rest => (shown key ++ ": " ++ shown value) :: shownEntries rest

def shownPairs : List (Datum × Datum) → List String
  | [] => []
  | (key, value) :: rest => ("(" ++ shown key ++ ", " ++ shown value ++ ")") :: shownPairs rest

end

/-- How many digits an integer may have that is to be shown. -/
def digitLimit : Nat := 4300

mutual

def isShowable : Datum → Bool
  | integer value => value.natAbs < tenPower digitLimit
  | list elements => areShowable elements
  | tuple elements => areShowable elements
  | set elements => areShowable elements
  | mapping entries => entriesShowable entries
  | ordered entries => entriesShowable entries
  | _ => true

def areShowable : List Datum → Bool
  | [] => true
  | d :: rest => isShowable d && areShowable rest

def entriesShowable : List (Datum × Datum) → Bool
  | [] => true
  | (key, value) :: rest => isShowable key && isShowable value && entriesShowable rest

end

def plain : Datum → String
  | text value => value
  | broken codes => String.ofList (codes.map Char.ofNat)
  | decimal value => value.toText
  | day value => value.toText
  | moment value => value.toText
  | d => d.shown

def quotedPlain : Datum → String
  | broken codes => quoteCodes codes
  | d => quote d.plain

end Datum

end Formula
