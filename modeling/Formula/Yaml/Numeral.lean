import Formula.Yaml.Cursor
import Formula.Yaml.ReadError
import Formula.Yaml.Scalar.Quoted
import Formula.Text.Lower

/-!
Numbers that scalars spell. Underscores are ignored, a sign may stand in front, and so may the sign
of a base. The earlier version of the language reads colons as places of the base sixty.
-/

set_option autoImplicit false

namespace Formula.Yaml

open Formula.Text

def isPlainBlank (c : Char) : Bool := c = ' ' || (9 ≤ c.toNat && c.toNat ≤ 13)

/-- Digits and blanks of all scripts in their plain form; other characters are out of place. -/
def plainForm (text : List Char) : List Char :=
  if text.all fun c => c.toNat < 128 then text
  else text.map fun c =>
    if c.toNat < 127 then c
    else if isBlank c then ' '
    else match digitValue? c with
      | some value => Nat.digitChar value
      | none => '?'

def trimPlain (text : List Char) : List Char :=
  ((text.dropWhile isPlainBlank).reverse.dropWhile isPlainBlank).reverse

def baseSign? (base : Nat) : Option Char :=
  if base = 2 then some 'b' else if base = 8 then some 'o' else if base = 16 then some 'x' else none

def dropBaseSign (base : Nat) : List Char → List Char
  | '0' :: c :: rest => if baseSign? base = some c.toLower then rest else '0' :: c :: rest
  | text => text

def digitOf? (base : Nat) (c : Char) : Option Nat := (hexValue? c).filter (· < base)

/-- The most characters that a message shows of a text that is no integer. -/
def shownLimit : Nat := 200

def notInteger (base : Nat) (text : List Char) : ReadError :=
  .notInteger base (String.ofList ((quoteChars text).take shownLimit))

/-- The integer that a text spells in a base. Decimal ones may only have so many digits. -/
def integerOf (base : Nat) (text : List Char) : Except ReadError Int :=
  let (negative, body) := Decimal.splitSign ((plainForm text).dropWhile isPlainBlank)
  let body := dropBaseSign base body
  let digits := body.takeWhile fun c => (digitOf? base c).isSome
  if base = 10 && Datum.digitLimit < digits.length then .error (.longInteger (some digits.length))
  else if digits.isEmpty || !(body.drop digits.length).all isPlainBlank then
    .error (notInteger base text)
  else
    let value := digits.foldl (fun value c => value * base + (digitOf? base c).getD 0) 0
    .ok (if negative then -(value : Int) else value)

def takeSign (text : List Char) : Except ReadError (Bool × List Char) :=
  if text.isEmpty then .error .noDigits else .ok (Decimal.splitSign text)

/-- The number whose places to the base sixty are given, the last place first. -/
def sexagesimal (places : List Int) : Int := places.foldr (fun place value => place + 60 * value) 0

def readMagnitude (version : Version) (text : List Char) : Except ReadError Int :=
  match text, version with
  | ['0'], _ => .ok 0
  | '0' :: 'b' :: rest, _ => integerOf 2 rest
  | '0' :: 'x' :: rest, _ => integerOf 16 rest
  | '0' :: 'o' :: rest, _ => integerOf 8 rest
  | text, .oneTwo => integerOf 10 text
  | [], .oneOne => .error .noDigits
  | '0' :: rest, .oneOne => integerOf 8 ('0' :: rest)
  | text, .oneOne =>
    if text.contains ':' then
      ((Text.splitAt ':' text).mapM (integerOf 10)).map fun places => sexagesimal places.reverse
    else integerOf 10 text

def readInteger (version : Version) (text : List Char) : Except ReadError Int := do
  let (negative, body) ← takeSign (text.filter (· ≠ '_'))
  let magnitude ← readMagnitude version body
  return if negative then -magnitude else magnitude

def doubleOf (text : List Char) : Except ReadError Float :=
  match Double.read? (trimPlain (plainForm text)) with
  | some value => .ok value
  | none => .error (.notDouble (String.ofList (quoteChars text)))

/-- Adds up places to the base sixty, the last one first, each of the given weight and more. -/
def addPlaces (sum weight : Float) : List Float → Float
  | [] => sum
  | place :: more => addPlaces (sum + place * weight) (weight * 60) more

def readDoubleMagnitude (version : Version) (text : List Char) : Except ReadError Float :=
  if text = ['.', 'i', 'n', 'f'] then .ok (Double.infinity false)
  else if text = ['.', 'n', 'a', 'n'] then .ok Double.nan
  else match version with
    | .oneTwo => doubleOf text
    | .oneOne =>
      if text.contains ':' then
        ((Text.splitAt ':' text).mapM doubleOf).map fun places => addPlaces 0 1 places.reverse
      else if 1 < text.count 'e' then .error .manyExponents
      else doubleOf text

def readDouble (version : Version) (text : List Char) : Except ReadError Float := do
  let (negative, body) ← takeSign (lower (text.filter (· ≠ '_')))
  let magnitude ← readDoubleMagnitude version body
  return if negative then -magnitude else magnitude

def trueWords : List String := ["yes", "y", "true", "on"]

def falseWords : List String := ["no", "n", "false", "off"]

def readTruth (text : List Char) : Except ReadError Bool :=
  let word := String.ofList (lower text)
  if trueWords.contains word then .ok true
  else if falseWords.contains word then .ok false
  else .error (.notTruth (quote word))

end Formula.Yaml
