import Formula.Yaml.Tag

/-!
The tokens of a YAML text. Blocks are told by their indentation, so their starts and ends are tokens
without characters of their own.
-/

set_option autoImplicit false

namespace Formula.Yaml

/-- A scalar's text, and its code points if it has halves of surrogate pairs in it. -/
inductive ScalarText where
  | whole (text : String)
  | broken (codes : List Nat)

def ScalarText.ofCodes (codes : List Nat) : ScalarText :=
  if codes.all Nat.isValidChar then .whole (String.ofList (codes.map Char.ofNat)) else .broken codes

inductive Token where
  | finish
  | directive (directive : Directive)
  | documentStart
  | documentEnd
  | blockSequence
  | blockMapping
  | blockEnd
  | flowSequence
  | flowMapping
  | flowSequenceEnd
  | flowMappingEnd
  | item
  | comma
  | key
  | value
  | reference (name : String)
  | anchor (name : String)
  | tag (tag : WrittenTag)
  | scalar (plain : Bool) (text : ScalarText)

def Token.isValue : Token → Bool
  | value => true
  | _ => false

end Formula.Yaml
