import Formula.Datum

/-!
Why a YAML text has no data. Most texts of that kind are malformed; the other causes lie in scalars
whose tag asks for something that they do not spell, in keys, in the version that is asked for, and
in collections that lie too deep inside others.
-/

set_option autoImplicit false

namespace Formula.Yaml

open Formula.Text

inductive ReadError where
  | malformed
  | tooDeep
  | notDouble (shown : String)
  | notInteger (base : Nat) (shown : String)
  | noDigits
  | notTruth (shown : String)
  | longInteger (digits : Option Nat)
  | manyExponents
  | beyondUnicode
  | calendar (error : CalendarError)
  | noKey (kind : String)
  | repeatedEntry
  | version (major minor : Nat)
  deriving DecidableEq, Repr

def ReadError.message : ReadError → String
  | malformed => ""
  | tooDeep => "maximum recursion depth exceeded"
  | notDouble shown => "could not convert string to float: " ++ shown
  | notInteger base shown =>
    "invalid literal for int() with base " ++ toString base ++ ": " ++ shown
  | noDigits => "string index out of range"
  | notTruth shown => shown
  | longInteger digits =>
    "Exceeds the limit (" ++ toString Datum.digitLimit ++ " digits) for integer string conversion"
      ++ (match digits with
        | some count => ": value has " ++ toString count ++ " digits"
        | none => "")
      ++ "; use sys.set_int_max_str_digits() to increase the limit"
  | manyExponents => "too many values to unpack (expected 2)"
  | beyondUnicode => "chr() arg not in range(0x110000)"
  | calendar error => error.message
  | noKey kind => "unhashable type: '" ++ kind ++ "'"
  | repeatedEntry => ""
  | version major minor =>
    "version minor part can only be 2 or 1, got ("
      ++ toString major ++ ", " ++ toString minor ++ ")"

end Formula.Yaml
