import Formula.Proofs.Decimal.Text
import Formula.Proofs.Literal.Spelled

/-!
Tokens whose own text stands for them. A token that was read is one of these, although its text need
not be the one that it was read from: a number is written in another form, all brackets are written
alike, and so are the two signs of division.
-/

set_option autoImplicit false

namespace Formula

open Formula.Text

namespace Token

def word (token : Token) : Word := ⟨token.text, token⟩

/-- Behind the given token, the token's own text means the token. -/
def Legible (lexicon : Lexicon) (last : Option Token) : Token → Prop
  | .item (.number value) => last.any isNumber = false ∧
    ∃ l : Literal, l.InRange ∧ String.ofList l.chars = value.toText ∧ l.value = value
  | .item (.var name) =>
    isLexableName name = true ∧ lexicon.name? name = some (.var name)
  | .item (.operator op) => lexicon.operator? (arityBehind last) op.symbol = some op
  | .item (.function f) => lexicon.name? f.name = some (.function f)
  | .opening | .closing | .separator => True

section
variable {lexicon : Lexicon} {last : Option Token} {token : Token}

theorem Legible.reads (legible : token.Legible lexicon last)
    (notImplied : Scanner.implies lexicon last token = false) :
    token.word.Reads lexicon last := by
  cases token with
  | item i =>
    cases i with
    | number value =>
      obtain ⟨apart, l, inRange, written, rfl⟩ := legible
      have reads := Word.reads_literal inRange apart notImplied
      rwa [written] at reads
    | var name => exact Word.reads_name legible.1 legible.2 notImplied
    | operator op => exact Word.reads_operator op.symbolValid legible
    | function f =>
      exact Word.reads_name (isLexableName_of_isFunctionName f.nameValid) legible notImplied
  | opening => exact Word.reads_char (c := '(') (by decide) (fun _ => rfl) notImplied
  | closing => exact Word.reads_char (c := ')') (by decide) (fun _ => rfl) notImplied
  | separator => exact Word.reads_separator

/-! ### What is read is legible -/

theorem exists_literal_of_readPlain? {first : Char} {tail : List Char} {value : Decimal}
    (starts : isDigit first = true ∨ first = '.')
    (spelled : Decimal.readPlain? (first :: tail) = some value) :
    ∃ l : Literal, l.InRange ∧ String.ofList l.chars = value.toText ∧ l.value = value := by
  obtain ⟨l, _, inRange, rfl⟩ := Literal.exists_of_readPlain? starts spelled
  obtain ⟨l', written, same⟩ := Literal.exists_written l.coefficient l.power
  have parts := same
  rw [Literal.value, Decimal.finite.injEq] at parts
  refine ⟨l', ?_, written, same⟩
  rwa [Literal.InRange, parts.2.1, parts.2.2]

theorem name_of_function? {name : String} {f : Function}
    (known : lexicon.function? name = some f) : f.name = name := by
  simp only [Lexicon.function?, Lexicon.ownFunction?, Function.standard?,
    Option.or_eq_some_iff] at known
  rcases known with own | ⟨_, standard⟩
  · simpa using List.find?_some own
  · simpa using List.find?_some standard

theorem symbol_of_ownOperator? {symbol : String} {op : Operator}
    (own : lexicon.ownOperator? symbol = some op) : op.symbol = symbol := by
  rw [Lexicon.ownOperator?] at own
  simpa using List.find?_some own

/-- An operator is known by its symbol, but for the second sign of division. -/
theorem symbol_of_operator? {arity : Arity} {symbol : String} {op : Operator}
    (known : lexicon.operator? arity symbol = some op) :
    op.symbol = symbol ∨ symbol = "÷" ∧ op = .division := by
  simp only [Lexicon.operator?, Option.or_eq_some_iff] at known
  rcases known with own | ⟨_, standard⟩
  · exact .inl (symbol_of_ownOperator? own)
  · unfold Operator.standard? at standard
    split at standard
    · split at standard <;> cases standard <;> exact .inl rfl
    · split at standard <;> cases standard <;> exact .inl rfl
    · cases standard
      exact .inl rfl
    · cases standard
      exact .inl rfl
    · cases standard
      exact .inr ⟨rfl, rfl⟩
    · cases standard
      exact .inl rfl
    · cases standard
      exact .inl rfl
    · cases standard

theorem isOperatorSymbol_of_operator? {arity : Arity} {symbol : String} {op : Operator}
    (known : lexicon.operator? arity symbol = some op) : isOperatorSymbol symbol = true := by
  obtain rfl | ⟨rfl, _⟩ := symbol_of_operator? known
  · exact op.symbolValid
  · decide

theorem operator?_symbol (plain : ∀ op ∈ lexicon.operators, op.symbol ≠ "/") {arity : Arity}
    {symbol : String} {op : Operator} (known : lexicon.operator? arity symbol = some op) :
    lexicon.operator? arity op.symbol = some op := by
  obtain same | ⟨_, rfl⟩ := symbol_of_operator? known
  · rwa [same]
  · rw [Lexicon.operator?, show Operator.division.symbol = "/" from rfl,
      Lexicon.ownOperator?_eq_none_iff.2 plain]
    rfl

theorem legible_of_name? {name : String} {i : Item} (lexable : isLexableName name = true)
    (known : lexicon.name? name = some i) : Legible lexicon last (.item i) := by
  have known' := known
  unfold Lexicon.name? at known
  split at known
  · cases known
    exact ⟨lexable, known'⟩
  · obtain ⟨f, found, rfl⟩ := Option.map_eq_some_iff.1 known
    rw [← name_of_function? found] at known'
    exact known'

theorem legible_of_taken (plain : ∀ op ∈ lexicon.operators, op.symbol ≠ "/") {chars : List Char}
    (taken : Taken lexicon last chars token) : token.Legible lexicon last := by
  cases taken with
  | number starts apart spelled => exact ⟨apart, exists_literal_of_readPlain? starts spelled⟩
  | operator _ known => exact operator?_symbol plain known
  | name lexable known => exact legible_of_name? lexable known
  | opening _ => trivial
  | closing _ => trivial
  | separator => trivial

/-! ### Implied products -/

theorem Legible.behind_product (value : token.startsValue = true)
    (legible : token.Legible lexicon last) :
    token.Legible lexicon (some Scanner.impliedProduct) := by
  cases token with
  | item i =>
    cases i with
    | number value => exact ⟨rfl, legible.2⟩
    | var name => exact legible
    | operator op => cases value
    | function f => exact legible
  | opening => trivial
  | closing => trivial
  | separator => trivial

theorem legible_impliedProduct (plain : ∀ op ∈ lexicon.operators, op.symbol ≠ "*") :
    Scanner.impliedProduct.Legible lexicon last := by
  change lexicon.operator? (arityBehind last) "*" = some .multiplication
  rw [Lexicon.operator?, Lexicon.ownOperator?_eq_none_iff.2 plain]
  rfl

end

end Token

end Formula
