import Formula.Yaml.Timestamp
import Formula.Yaml.Tag

/-!
The tags of plain scalars, told from their form. The two versions of the language differ in truth
values and in numbers: the earlier one has more words, octal numbers that begin with a zero, and
numbers to the base sixty.
-/

set_option autoImplicit false

namespace Formula.Yaml

def withoutSign : List Char → List Char
  | '+' :: rest => rest
  | '-' :: rest => rest
  | text => text

def allOf (p : Char → Bool) (text : List Char) : Bool := !text.isEmpty && text.all p

def isGrouped (c : Char) : Bool := c.isDigit || c = '_'

def isOctal (c : Char) : Bool := ('0' ≤ c && c ≤ '7') || c = '_'

def isWhole (nonzero : Bool) : List Char → Bool
  | [] => false
  | c :: rest => c.isDigit && !(nonzero && c = '0') && rest.all isGrouped

def isSixtieth : List Char → Bool
  | [c] => c.isDigit
  | [c, d] => '0' ≤ c && c ≤ '5' && d.isDigit
  | _ => false

def isSexagesimal (nonzero : Bool) (text : List Char) : Bool :=
  match Text.splitAt ':' text with
  | whole :: place :: more => isWhole nonzero whole && (place :: more).all isSixtieth
  | _ => false

def isIntegerForm (version : Version) (text : List Char) : Bool :=
  match withoutSign text, version with
  | '0' :: 'b' :: digits, _ => allOf (fun c => c = '0' || c = '1' || c = '_') digits
  | '0' :: 'x' :: digits, _ => allOf (fun c => (hexValue? c).isSome || c = '_') digits
  | '0' :: 'o' :: digits, .oneTwo => allOf isOctal digits
  | digits, .oneTwo => allOf isGrouped digits
  | digits, .oneOne =>
    allOf isOctal digits || digits == ['0'] || isWhole true digits || isSexagesimal true digits

/-- An exponent; a sign may be missing unless it is wanted. -/
def isExponent (signWanted : Bool) : List Char → Bool
  | [] => false
  | marker :: rest =>
    (marker = 'e' || marker = 'E') &&
      match rest with
      | '+' :: digits => allOf Char.isDigit digits
      | '-' :: digits => allOf Char.isDigit digits
      | digits => !signWanted && allOf Char.isDigit digits

def isFractionForm : List Char → Bool
  | '.' :: rest =>
    let behind := rest.dropWhile isGrouped
    behind.length < rest.length && (behind.isEmpty || isExponent true behind)
  | _ => false

def isPointForm (text : List Char) : Bool :=
  isWhole false (text.takeWhile isGrouped) &&
    match text.dropWhile isGrouped with
    | '.' :: rest =>
      let behind := rest.dropWhile isGrouped
      behind.isEmpty || isExponent false behind
    | behind => isExponent false behind

def isSexagesimalPoint (text : List Char) : Bool :=
  let before := text.takeWhile (· ≠ '.')
  match text.dropWhile (· ≠ '.') with
  | '.' :: rest => isSexagesimal false before && rest.all isGrouped
  | _ => false

def isDoubleForm (version : Version) (text : List Char) : Bool :=
  let body := withoutSign text
  [".inf", ".Inf", ".INF"].contains (String.ofList body)
    || [".nan", ".NaN", ".NAN"].contains (String.ofList text)
    || isPointForm body
    || (match version with
      | .oneTwo => isFractionForm body
      | .oneOne => isFractionForm text || isSexagesimalPoint body)

def truthWords : Version → List String
  | .oneTwo => ["true", "True", "TRUE", "false", "False", "FALSE"]
  | .oneOne => ["y", "Y", "yes", "Yes", "YES", "n", "N", "no", "No", "NO", "true", "True", "TRUE",
      "false", "False", "FALSE", "on", "On", "ON", "off", "Off", "OFF"]

def beginsNumber (c : Char) : Bool := c.isDigit || c = '+' || c = '-'

def kindOfForm (version : Version) (text : List Char) : String :=
  let word := String.ofList text
  if (truthWords version).contains word then "bool"
  else if isDoubleForm version text then "float"
  else if text.head?.any beginsNumber && isIntegerForm version text then "int"
  else if word = "<<" then "merge"
  else if ["~", "null", "Null", "NULL"].contains word then "null"
  else if isTimestampForm text then "timestamp"
  else if word = "=" then "value"
  else "str"

/-- The tag of a plain scalar. One line feed at the end of a text that is not empty otherwise does
not matter. -/
def tagOfForm (version : Version) (text : List Char) : String :=
  coreTags ++
    match text.getLast? with
    | none => "null"
    | some c =>
      kindOfForm version (if c = '\n' && 1 < text.length then text.dropLast else text)

end Formula.Yaml
