import Formula.Proofs.Scanner.Resolution
import Formula.Proofs.Token.Cut

/-!
What can be declared can be written. All characters that the name of a function may have go on with
a run of name characters, and the first one begins such a run; it is alike with symbols and operator
characters. So where the run ends with the name or symbol, all of it is read, and no name or symbol
that is a part of it is taken in its place.
-/

set_option autoImplicit false

namespace Formula

open Formula.Text

theorem stops_of_isOpeningChar {bracket : Char} (opens : Token.isOpeningChar bracket = true)
    (rest : List Char) : Stops isNameChar (bracket :: rest) := fun c next =>
  ((Token.standsAlone_opening opens).delimited rest c next).1

namespace Scanner

section
variable {lexicon : Lexicon} {s : Scanner} {rest : List Char} (free : s.held = none)
include free

theorem delivers_function {f : Function} (own : lexicon.ownFunction? f.name = some f)
    (undeclared : f.name ∉ lexicon.variableNames)
    (front : s.rest.dropWhile isBlank = f.name.toList ++ rest) (stops : Stops isNameChar rest) :
    s.Delivers lexicon (.item (.function f)) rest := by
  -- The name of a function is one run of name characters, so no shorter name is taken from it.
  have lexable := isLexableName_of_isFunctionName f.nameValid
  have known : lexicon.name? f.name = some (.function f) :=
    Lexicon.name?_eq_some_iff.2 (.own undeclared own)
  obtain ⟨first, tail, chars, -⟩ := chars_of_isLexableName lexable
  rw [chars] at front
  exact delivers_of_read free front (Token.read_of_whole_name lexable known chars stops)

theorem next_ownOperator {op : Operator} (own : lexicon.ownOperator? op.symbol = some op)
    (front : s.rest.dropWhile isBlank = op.symbol.toList ++ rest)
    (stops : Stops isOperatorChar rest) :
    s.next lexicon = .ok (.operator op, { s with rest, last := some (.operator op) }) := by
  have known : lexicon.operator? (arityBehind s.last) op.symbol = some op :=
    Lexicon.operator?_eq_some_iff.2 (.own own)
  obtain ⟨someChar, -⟩ := chars_of_isOperatorSymbol op.symbolValid
  obtain ⟨first, tail, chars⟩ := List.exists_cons_of_ne_nil someChar
  rw [chars] at front
  exact next_eq_ok_iff.2 (.read free front
    (Token.read_of_whole_symbol op.symbolValid known chars stops)
    (not_implied_of_not_startsValue rfl))

end

/-- Whatever else is declared, a function that is registered under its name is handed out where its
name stands in front of an opening bracket, unless a variable has that name, and the text goes on
with the bracket. An operator that is registered under its symbol is handed out where its symbol
stands in front of anything but an operator character, and the text goes on behind the symbol. -/
theorem next_declared (lexicon : Lexicon) {s : Scanner} (free : s.held = none) :
    (∀ (f : Function) (bracket : Char) (rest : List Char),
      lexicon.ownFunction? f.name = some f → f.name ∉ lexicon.variableNames →
      Token.isOpeningChar bracket = true →
      s.rest.dropWhile isBlank = f.name.toList ++ bracket :: rest →
      s.Delivers lexicon (.item (.function f)) (bracket :: rest)) ∧
    ∀ (op : Operator) (rest : List Char),
      lexicon.ownOperator? op.symbol = some op → Stops isOperatorChar rest →
      s.rest.dropWhile isBlank = op.symbol.toList ++ rest →
      s.next lexicon = .ok (.operator op, { s with rest, last := some (.operator op) }) := by
  refine ⟨fun f bracket rest own undeclared opens front => ?_, fun op rest own stops front => ?_⟩
  · exact delivers_function free own undeclared front (stops_of_isOpeningChar opens rest)
  · exact next_ownOperator free own front stops

def commonLogarithm : Function where
  name := "log10_"
  argumentCount := 1
  apply := Rule.unary fun argument => .ok argument

def comparison (symbol : String) (valid : isOperatorSymbol symbol = true := by decide) :
    Operator where
  symbol := symbol
  arity := .binary
  leftAssociative := true
  precedence := 100
  apply := Rule.binary fun left _ => .ok left
  symbolValid := valid

theorem next_declared_commonLogarithm :
    let own : Lexicon :=
      { functions := [commonLogarithm]
        operators := [comparison "+>", comparison "+>="]
        variableNames := ["log", "log10_.x"] }
    let s := ofText "log10_[2] +>=3"
    let s' : Scanner := { s with rest := " +>=3".toList, last := some .closing }
    s.held = none ∧ own.ownFunction? "log10_" = some commonLogarithm ∧
      "log10_" ∉ own.variableNames ∧
      s.rest.dropWhile isBlank = "log10_".toList ++ ['[', '2', ']', ' ', '+', '>', '=', '3'] ∧
      s.Delivers own (.item (.function commonLogarithm)) ['[', '2', ']', ' ', '+', '>', '=', '3'] ∧
      s'.rest.dropWhile isBlank = "+>=".toList ++ ['3'] ∧ Stops isOperatorChar ['3'] ∧
      s'.next own = .ok (.operator (comparison "+>="),
        { s' with rest := ['3'], last := some (.operator (comparison "+>=")) }) := by
  intro own s s'
  have free : s.held = none := rfl
  have registered : own.ownFunction? "log10_" = some commonLogarithm := rfl
  have undeclared : "log10_" ∉ own.variableNames := by decide
  have front : s.rest.dropWhile isBlank =
    "log10_".toList ++ ['[', '2', ']', ' ', '+', '>', '=', '3'] := by decide +kernel
  have front' : s'.rest.dropWhile isBlank = "+>=".toList ++ ['3'] := by decide +kernel
  have stops : Stops isOperatorChar ['3'] := by
    intro c next
    cases next
    decide
  exact ⟨free, registered, undeclared, front,
    (next_declared own free).1 commonLogarithm '[' _ registered undeclared rfl front, front', stops,
    (next_declared own (s := s') rfl).2 (comparison "+>=") _ rfl stops front'⟩

end Scanner

end Formula
