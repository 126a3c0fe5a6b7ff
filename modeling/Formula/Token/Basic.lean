import Formula.Symbol

/-!
The elements of written formulas and of postfix programs. A postfix program is a list of items;
brackets and separators occur in written formulas only.
-/

set_option autoImplicit false

namespace Formula

/-- An element that yields a value: a number, a variable, or the use of an operator or function. -/
inductive Item where
  | number (value : Decimal)
  | var (name : String)
  | operator (op : Operator)
  | function (f : Function)

inductive Token where
  | item (i : Item)
  | opening
  | closing
  | separator

def Item.text : Item → String
  | .number value => value.toText
  | .var name => name
  | .operator op => op.symbol
  | .function f => f.name

def Token.text : Token → String
  | .item i => i.text
  | .opening => "("
  | .closing => ")"
  | .separator => ","

def formatItems (items : List Item) : String := " ".intercalate (items.map Item.text)

def formatTokens (tokens : List Token) : String := " ".intercalate (tokens.map Token.text)

namespace Token

def number (value : Decimal) : Token := .item (.number value)

def operator (op : Operator) : Token := .item (.operator op)

def isNumber : Token → Bool
  | .item (.number _) => true
  | _ => false

def startsValue : Token → Bool
  | .item (.number _) | .item (.var _) | .item (.function _) | .opening => true
  | .item (.operator _) | .closing | .separator => false

/-- Whether a product may be implied between the token and a value behind it. -/
def mayMultiply : Token → Bool
  | .item (.number _) | .item (.var _) | .closing => true
  | .item (.operator _) | .item (.function _) | .opening | .separator => false

end Token

end Formula
