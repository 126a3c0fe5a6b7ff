import Formula.Decimal.Basic
import Formula.Text.Class

/-!
Decimal numbers as text. Writing keeps every digit and the exponent; reading is exact and accepts
the digits of any script. A number is written with an exponent only if its exponent is positive or
it has more than five zeros between the point and its first digit.
-/

set_option autoImplicit false

namespace Formula.Decimal

open Formula.Text

def leadingLimit : Int := 999999999999999999

def trailingLimit : Int := -1999999999999999997

def signText (negative : Bool) : String := if negative then "-" else ""

def exponentText (exponent : Int) : String :=
  (if exponent < 0 then "-" else "+") ++ toString exponent.natAbs

/-- Digits with a point that has `whole` digits in front of it; zeros fill up on both sides. -/
def pointText (digits : List Char) (whole : Int) : String :=
  let places := whole.toNat
  if whole ≤ 0 then "0." ++ String.ofList (List.replicate (-whole).toNat '0' ++ digits)
  else if digits.length ≤ places then
    String.ofList (digits ++ List.replicate (places - digits.length) '0')
  else String.ofList (digits.take places) ++ "." ++ String.ofList (digits.drop places)

def toText : Decimal → String
  | .finite negative coefficient exponent =>
    let digits := (toString coefficient).toList
    let leading := exponent + digits.length - 1
    if exponent ≤ 0 ∧ -6 ≤ leading then
      signText negative ++ pointText digits (leading + 1)
    else signText negative ++ pointText digits 1 ++ "E" ++ exponentText leading
  | .infinity negative => signText negative ++ "Infinity"
  | .nan signaling negative payload =>
    signText negative ++ (if signaling then "sNaN" else "NaN")
      ++ (if payload = 0 then "" else toString payload)

instance : ToString Decimal := ⟨toText⟩

def digitsValue (digits : List Char) : Nat :=
  digits.foldl (fun value c => value * 10 + (digitValue? c).getD 0) 0

def splitSign : List Char → Bool × List Char
  | '+' :: rest => (false, rest)
  | '-' :: rest => (true, rest)
  | text => (false, text)

def readDigits? (text : List Char) : Option Nat :=
  if !text.isEmpty && text.all isDigit then some (digitsValue text) else none

def readExponent? : List Char → Option Int
  | [] => some 0
  | marker :: rest =>
    if marker = 'e' ∨ marker = 'E' then
      let (negative, digits) := splitSign rest
      (readDigits? digits).map fun value => if negative then -(value : Int) else value
    else none

/-- A finite number of the given parts, if its digits lie within the two limits. -/
def ofParts? (negative : Bool) (coefficient : Nat) (exponent : Int) : Option Decimal :=
  if leadingLimit < exponent + digitCount coefficient - 1 ∨ exponent < trailingLimit then none
  else some (.finite negative coefficient exponent)

def readParts? (text : List Char) : Option (Nat × Int) := do
  let whole := text.takeWhile isDigit
  let afterWhole := text.dropWhile isDigit
  let (fraction, marker) := match afterWhole with
    | '.' :: rest => (rest.takeWhile isDigit, rest.dropWhile isDigit)
    | rest => ([], rest)
  if whole.isEmpty && fraction.isEmpty then none
  let exponent ← readExponent? marker
  some (digitsValue (whole ++ fraction), exponent - fraction.length)

def readFinite? (negative : Bool) (text : List Char) : Option Decimal :=
  (readParts? text).bind fun (coefficient, exponent) => ofParts? negative coefficient exponent

def dropWord? : List Char → List Char → Option (List Char)
  | [], text => some text
  | _ :: _, [] => none
  | letter :: word, c :: text => if c.toLower = letter then dropWord? word text else none

def readPayload? (text : List Char) : Option Nat :=
  if text.isEmpty then some 0 else readDigits? text

def readSpecial? (negative : Bool) (text : List Char) : Option Decimal :=
  if dropWord? ['i', 'n', 'f'] text = some [] ∨
      dropWord? ['i', 'n', 'f', 'i', 'n', 'i', 't', 'y'] text = some [] then
    some (.infinity negative)
  else match dropWord? ['n', 'a', 'n'] text with
    | some payload => (readPayload? payload).map (.nan false negative ·)
    | none => match dropWord? ['s', 'n', 'a', 'n'] text with
      | some payload => (readPayload? payload).map (.nan true negative ·)
      | none => none

def readPlain? (text : List Char) : Option Decimal :=
  let (negative, body) := splitSign text
  (readFinite? negative body).or (readSpecial? negative body)

/-- Reads a number; blanks around it and underscores anywhere in it are ignored. -/
def read? (text : List Char) : Option Decimal :=
  readPlain? ((trim text).filter (· ≠ '_'))

def ofText? (text : String) : Option Decimal := read? text.toList

end Formula.Decimal
