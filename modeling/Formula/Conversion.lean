import Formula.Scanner

/-!
From written formulas to postfix programs. Operators, functions and brackets wait on a stack until
their operands have been put out; an operator releases the waiting operators that bind at least as
strongly as itself, but an operator that takes one operand never releases one that takes two.
-/

set_option autoImplicit false

namespace Formula

open Formula.Text

/-- Why a formula has no postfix program. The text is the one given, untrimmed. -/
inductive ConversionError where
  | empty
  | scan (error : ScanError)
  | misplacedSeparator (text : String)
  | unopened (text : String)
  | unclosed (text : String)
  | noOperands (text : String)
  deriving DecidableEq, Repr

def ConversionError.message : ConversionError → String
  | .empty => "Expression can not be empty"
  | .scan error => error.message
  | .misplacedSeparator text =>
    "Misplaced function separator ',' or mismatched parentheses in expression " ++ quote text
  | .unopened text => "Mismatched parentheses in expression " ++ quote text
  | .unclosed text =>
    "Mismatched parentheses detected in expression " ++ quote text
      ++ ". Please check the expression"
  | .noOperands text => "Expression " ++ quote text ++ " has no operands"

inductive Waiting where
  | operator (op : Operator)
  | function (f : Function)
  | bracket

namespace Waiting

def item? : Waiting → Option Item
  | operator op => some (.operator op)
  | function f => some (.function f)
  | bracket => none

end Waiting

/-- The waiting elements, the latest first, and the program so far, its end first. -/
structure Yard where
  waiting : List Waiting := []
  output : List Item := []

namespace Yard

def releases (coming waiting : Operator) : Bool :=
  if coming.isUnary && !waiting.isUnary then false
  else (coming.leftAssociative && coming.precedence ≤ waiting.precedence)
    || coming.precedence < waiting.precedence

def release (coming : Operator) : List Waiting → List Item → Yard
  | .operator op :: waiting, output =>
    if releases coming op then release coming waiting (.operator op :: output)
    else { waiting := .operator op :: waiting, output }
  | waiting, output => { waiting, output }

/-- Puts out all that waits above the latest bracket; nothing if there is no bracket. -/
def toBracket? : List Waiting → List Item → Option Yard
  | [], _ => none
  | .bracket :: waiting, output => some { waiting := .bracket :: waiting, output }
  | .operator op :: waiting, output => toBracket? waiting (.operator op :: output)
  | .function f :: waiting, output => toBracket? waiting (.function f :: output)

def closeBracket (yard : Yard) : Yard :=
  match yard.waiting with
  | .bracket :: .function f :: waiting => { waiting, output := .function f :: yard.output }
  | .bracket :: waiting => { yard with waiting }
  | _ => yard

def push (text : String) (yard : Yard) : Token → Except ConversionError Yard
  | .item (.number value) => .ok { yard with output := .number value :: yard.output }
  | .item (.var name) => .ok { yard with output := .var name :: yard.output }
  | .item (.function f) => .ok { yard with waiting := .function f :: yard.waiting }
  | .item (.operator op) =>
    let released := release op yard.waiting yard.output
    .ok { released with waiting := .operator op :: released.waiting }
  | .opening => .ok { yard with waiting := .bracket :: yard.waiting }
  | .separator =>
    match toBracket? yard.waiting yard.output with
    | some yard' => .ok yard'
    | none => .error (.misplacedSeparator text)
  | .closing =>
    match toBracket? yard.waiting yard.output with
    | some yard' => .ok yard'.closeBracket
    | none => .error (.unopened text)

def drain? : List Waiting → List Item → Option (List Item)
  | [], output => some output.reverse
  | .bracket :: _, _ => none
  | .operator op :: waiting, output => drain? waiting (.operator op :: output)
  | .function f :: waiting, output => drain? waiting (.function f :: output)

def finish (text : String) (yard : Yard) : Except ConversionError (List Item) :=
  match drain? yard.waiting yard.output with
  | none => .error (.unclosed text)
  | some [] => .error (.noOperands text)
  | some items => .ok items

end Yard

/-- Arranges tokens up to the place where scanning stopped, then reports why it stopped there. -/
def arrange (text : String) (tokens : List Token) (stop : Option ScanError) :
    Except ConversionError (List Item) := do
  let yard ← tokens.foldlM (Yard.push text) {}
  match stop with
  | some error => .error (.scan error)
  | none => yard.finish text

def toPostfix (lexicon : Lexicon) (text : String) : Except ConversionError (List Item) :=
  if text.toList.all isBlank then .error .empty
  else
    let (tokens, stop) := (Scanner.ofText text).run lexicon
    arrange text tokens stop

end Formula
