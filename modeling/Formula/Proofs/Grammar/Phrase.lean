import Formula.Proofs.Scanner.Spaced
import Formula.Proofs.Tree

/-!
The infix grammar of formulas with standard operators. A phrase is a derivation; it has the words
that it is written with and the tree that it means. Every phrase stands where an operand is
expected, and is scanned as its own words there.
-/

set_option autoImplicit false

namespace Formula

/-- The nonterminals of the grammar, with lists of a given number of arguments. -/
inductive Category where
  | sum
  | product
  | signed
  | power
  | atom
  | arguments (count : Nat)

inductive Bracket where
  | round
  | curly
  | square
  deriving DecidableEq, Repr

namespace Bracket

def openingChar : Bracket → Char
  | round => '('
  | curly => '\x7b'
  | square => '['

def closingChar : Bracket → Char
  | round => ')'
  | curly => '\x7d'
  | square => ']'

def opening (b : Bracket) : Word := ⟨String.singleton b.openingChar, .opening⟩

def closing (b : Bracket) : Word := ⟨String.singleton b.closingChar, .closing⟩

end Bracket

namespace Sign

def infixed : Sign → Operator
  | plus => .addition
  | minus => .subtraction

def prefixed : Sign → Operator
  | plus => .identity
  | minus => .negation

def word (s : Sign) (op : Operator) : Word := ⟨String.singleton s.char, .operator op⟩

theorem arity_infixed (s : Sign) : s.infixed.arity = .binary := by cases s <;> rfl

theorem arity_prefixed (s : Sign) : s.prefixed.arity = .unary := by cases s <;> rfl

theorem isPrefixed_prefixed (s : Sign) : s.prefixed.isPrefixed = true := by cases s <;> rfl

end Sign

inductive ProductSign where
  | star
  | slash
  | obelus
  | percent
  deriving DecidableEq, Repr

namespace ProductSign

def char : ProductSign → Char
  | star => '*'
  | slash => '/'
  | obelus => '÷'
  | percent => '%'

def operator : ProductSign → Operator
  | star => .multiplication
  | slash | obelus => .division
  | percent => .remainder

def word (s : ProductSign) : Word := ⟨String.singleton s.char, .operator s.operator⟩

theorem arity_operator (s : ProductSign) : s.operator.arity = .binary := by cases s <;> rfl

end ProductSign

/-- Derivations of the grammar, which is

    sum     ::= product | sum (+ | -) product
    product ::= signed | product (* | / | ÷ | %) signed
    signed  ::= power | (+ | -) signed
    power   ::= atom | atom ^ signed
    atom    ::= number | variable | bracketed sum | function with bracketed arguments

with separators between arguments. Variables are declared names; functions are known ones that no
variable hides, and have as many arguments as they take. -/
inductive Phrase (lexicon : Lexicon) : Category → Type where
  | product (p : Phrase lexicon .product) : Phrase lexicon .sum
  | add (left : Phrase lexicon .sum) (s : Sign) (right : Phrase lexicon .product) :
      Phrase lexicon .sum
  | signed (u : Phrase lexicon .signed) : Phrase lexicon .product
  | multiply (left : Phrase lexicon .product) (s : ProductSign) (right : Phrase lexicon .signed) :
      Phrase lexicon .product
  | power (p : Phrase lexicon .power) : Phrase lexicon .signed
  | sign (s : Sign) (operand : Phrase lexicon .signed) : Phrase lexicon .signed
  | atom (a : Phrase lexicon .atom) : Phrase lexicon .power
  | raise (base : Phrase lexicon .atom) (exponent : Phrase lexicon .signed) : Phrase lexicon .power
  | number (l : Literal) (inRange : l.InRange) : Phrase lexicon .atom
  | var (name : String) (declared : name ∈ lexicon.variableNames)
      (lexable : isLexableName name = true) : Phrase lexicon .atom
  | bracketed (b : Bracket) (inner : Phrase lexicon .sum) : Phrase lexicon .atom
  | call (f : Function) (known : lexicon.function? f.name = some f)
      (visible : f.name ∉ lexicon.variableNames) (b : Bracket)
      (inner : Phrase lexicon (.arguments f.argumentCount)) : Phrase lexicon .atom
  | noArgument : Phrase lexicon (.arguments 0)
  | lastArgument (a : Phrase lexicon .sum) : Phrase lexicon (.arguments 1)
  | argument {count : Nat} (first : Phrase lexicon .sum)
      (others : Phrase lexicon (.arguments (count + 1))) : Phrase lexicon (.arguments (count + 2))

/-- What a phrase means: a tree, or one tree for each argument. -/
abbrev Category.Meaning : Category → Type
  | .sum | .product | .signed | .power | .atom => Tree
  | .arguments count => Fin count → Tree

namespace Tree

def number (value : Decimal) : Tree := node (.number value) Fin.elim0

def var (name : String) : Tree := node (.var name) Fin.elim0

def unary (op : Operator) (operand : Tree) : Tree := node (.operator op) fun _ => operand

def binary (op : Operator) (left right : Tree) : Tree :=
  node (.operator op) fun k => if k.val = 0 then left else right

theorem postorder_unary {op : Operator} (one : op.arity = .unary) (operand : Tree) :
    (unary op operand).postorder = operand.postorder ++ [.operator op] := by
  have count : (Item.operator op).count = 1 := by simp [Item.count, one, Arity.count]
  simp only [unary, postorder]
  rw [count]
  simp [List.finRange_succ]

theorem postorder_binary {op : Operator} (two : op.arity = .binary) (left right : Tree) :
    (binary op left right).postorder = left.postorder ++ right.postorder ++ [.operator op] := by
  have count : (Item.operator op).count = 2 := by simp [Item.count, two, Arity.count]
  simp only [binary, postorder]
  rw [count]
  simp [List.finRange_succ]

end Tree

namespace Phrase

variable {lexicon : Lexicon}

def words : {c : Category} → Phrase lexicon c → List Word
  | _, product p => p.words
  | _, add left s right => left.words ++ s.word s.infixed :: right.words
  | _, signed u => u.words
  | _, multiply left s right => left.words ++ s.word :: right.words
  | _, power p => p.words
  | _, sign s operand => s.word s.prefixed :: operand.words
  | _, atom a => a.words
  | _, raise base exponent => base.words ++ ⟨"^", .operator .exponentiation⟩ :: exponent.words
  | _, number l _ => [⟨String.ofList l.chars, .number l.value⟩]
  | _, var name _ _ => [⟨name, .item (.var name)⟩]
  | _, bracketed b inner => b.opening :: (inner.words ++ [b.closing])
  | _, call f _ _ b inner =>
    ⟨f.name, .item (.function f)⟩ :: b.opening :: (inner.words ++ [b.closing])
  | _, noArgument => []
  | _, lastArgument a => a.words
  | _, argument first others =>
    first.words ++ ⟨String.singleton ',', .separator⟩ :: others.words

def text {c : Category} (d : Phrase lexicon c) : String := spacedText d.words

def meaning : {c : Category} → Phrase lexicon c → c.Meaning
  | _, product p => p.meaning
  | _, add left s right => Tree.binary s.infixed left.meaning right.meaning
  | _, signed u => u.meaning
  | _, multiply left s right => Tree.binary s.operator left.meaning right.meaning
  | _, power p => p.meaning
  | _, sign s operand => Tree.unary s.prefixed operand.meaning
  | _, atom a => a.meaning
  | _, raise base exponent => Tree.binary .exponentiation base.meaning exponent.meaning
  | _, number l _ => Tree.number l.value
  | _, var name _ _ => Tree.var name
  | _, bracketed _ inner => inner.meaning
  | _, call f _ _ _ inner => Tree.node (.function f) inner.meaning
  | _, noArgument => Fin.elim0
  | _, lastArgument a => fun _ => a.meaning
  | _, argument first others => Fin.cases first.meaning others.meaning

def tree (d : Phrase lexicon .sum) : Tree := d.meaning

end Phrase

/-! ### Scanning -/

/-- An operand is expected behind the token. -/
def ExpectsOperand (last : Option Token) : Prop :=
  last.any Token.mayMultiply = false ∧ arityBehind last = .unary

/-- The end of a phrase is the end of an operand, except for lists of arguments. -/
def Category.EndsOn : Category → Option Token → Prop
  | .arguments _, _ => True
  | _, last => arityBehind last = .binary

section
variable {lexicon : Lexicon} {last : Option Token}

theorem operator?_of_plain (plain : lexicon.operators = []) (arity : Arity) (symbol : String) :
    lexicon.operator? arity symbol = Operator.standard? arity symbol := by
  simp [Lexicon.operator?, Lexicon.ownOperator?, plain]

theorem name?_of_declared {name : String} (declared : name ∈ lexicon.variableNames) :
    lexicon.name? name = some (.var name) := by
  simp [Lexicon.name?, declared]

theorem name?_of_function {f : Function} (known : lexicon.function? f.name = some f)
    (visible : f.name ∉ lexicon.variableNames) : lexicon.name? f.name = some (.function f) := by
  simp [Lexicon.name?, visible, known]

theorem ExpectsOperand.not_implied (expects : ExpectsOperand last) (token : Token) :
    Scanner.implies lexicon last token = false := by
  simp [Scanner.implies, expects.1]

theorem ExpectsOperand.no_number (expects : ExpectsOperand last) :
    last.any Token.isNumber = false := by
  obtain ⟨nothing, _⟩ := expects
  cases last with
  | none => rfl
  | some token =>
    cases token with
    | item i =>
      cases i with
      | number value => cases nothing
      | var name => rfl
      | operator op => rfl
      | function f => rfl
    | opening => rfl
    | closing => rfl
    | separator => rfl

theorem expectsOperand_opening : ExpectsOperand (some .opening) := ⟨rfl, rfl⟩

theorem expectsOperand_separator : ExpectsOperand (some .separator) := ⟨rfl, rfl⟩

theorem expectsOperand_operator {op : Operator}
    (awaits : op.arity = .binary ∨ op.isPrefixed = true) :
    ExpectsOperand (some (.operator op)) :=
  ⟨rfl, if_pos awaits⟩

theorem Sign.reads_infixed (plain : lexicon.operators = []) (behind : arityBehind last = .binary)
    (s : Sign) : (s.word s.infixed).Reads lexicon last := by
  refine Word.reads_operator (by cases s <;> decide) ?_
  rw [operator?_of_plain plain, behind]
  cases s <;> rfl

theorem Sign.reads_prefixed (plain : lexicon.operators = []) (front : arityBehind last = .unary)
    (s : Sign) : (s.word s.prefixed).Reads lexicon last := by
  refine Word.reads_operator (by cases s <;> decide) ?_
  rw [operator?_of_plain plain, front]
  cases s <;> rfl

theorem ProductSign.reads (plain : lexicon.operators = []) (s : ProductSign) :
    s.word.Reads lexicon last := by
  refine Word.reads_operator (by cases s <;> decide) ?_
  rw [operator?_of_plain plain]
  cases s <;> rfl

theorem Bracket.reads_opening (b : Bracket)
    (notImplied : Scanner.implies lexicon last .opening = false) :
    b.opening.Reads lexicon last :=
  Word.reads_char (by cases b <;> decide) (by intro rest; cases b <;> rfl) notImplied

theorem Bracket.reads_closing (b : Bracket) : b.closing.Reads lexicon last :=
  Word.reads_char (by cases b <;> decide) (by intro rest; cases b <;> rfl)
    (not_implied_of_not_startsValue rfl)

/-- A phrase is read word by word wherever an operand is expected. -/
theorem Phrase.reads_words (plain : lexicon.operators = []) {c : Category} (d : Phrase lexicon c)
    (expects : ExpectsOperand last) :
    ReadsAll lexicon last d.words ∧ c.EndsOn (lastToken last d.words) := by
  -- Induction on the derivation: each phrase begins where an operand is expected and ends one, so
  -- that the sign behind it is read as standing between operands.
  induction d generalizing last with
  | product p ih => exact ih expects
  | signed u ih => exact ih expects
  | power p ih => exact ih expects
  | atom a ih => exact ih expects
  | add left s right ihLeft ihRight =>
    obtain ⟨leftReads, ends⟩ := ihLeft expects
    obtain ⟨rightReads, ends'⟩ := ihRight (expectsOperand_operator (.inl s.arity_infixed))
    refine ⟨readsAll_append leftReads ⟨s.reads_infixed plain ends, rightReads⟩, ?_⟩
    rw [words, lastToken_append_cons]
    exact ends'
  | multiply left s right ihLeft ihRight =>
    obtain ⟨leftReads, _⟩ := ihLeft expects
    obtain ⟨rightReads, ends⟩ := ihRight (expectsOperand_operator (.inl s.arity_operator))
    refine ⟨readsAll_append leftReads ⟨s.reads plain, rightReads⟩, ?_⟩
    rw [words, lastToken_append_cons]
    exact ends
  | sign s operand ih =>
    obtain ⟨reads, ends⟩ := ih (expectsOperand_operator (.inr s.isPrefixed_prefixed))
    refine ⟨⟨s.reads_prefixed plain expects.2, reads⟩, ?_⟩
    rw [words, lastToken_cons]
    exact ends
  | raise base exponent ihBase ihExponent =>
    obtain ⟨baseReads, _⟩ := ihBase expects
    have two : Operator.exponentiation.arity = .binary := rfl
    obtain ⟨exponentReads, ends⟩ := ihExponent (expectsOperand_operator (.inl two))
    have reads : Word.Reads lexicon (lastToken last base.words)
        ⟨"^", .operator .exponentiation⟩ := by
      refine Word.reads_operator (by decide) ?_
      rw [operator?_of_plain plain]
      rfl
    refine ⟨readsAll_append baseReads ⟨reads, exponentReads⟩, ?_⟩
    rw [words, lastToken_append_cons]
    exact ends
  | number l inRange =>
    exact ⟨⟨Word.reads_literal inRange expects.no_number (expects.not_implied _), trivial⟩, rfl⟩
  | var name declared lexable =>
    exact ⟨⟨Word.reads_name lexable (name?_of_declared declared) (expects.not_implied _), trivial⟩,
      rfl⟩
  | bracketed b inner ih =>
    obtain ⟨reads, _⟩ := ih expectsOperand_opening
    refine ⟨⟨b.reads_opening (expects.not_implied _),
      readsAll_append reads ⟨b.reads_closing, trivial⟩⟩, ?_⟩
    rw [words, lastToken_cons, lastToken_append_cons]
    rfl
  | call f known visible b inner ih =>
    obtain ⟨reads, _⟩ := ih expectsOperand_opening
    have name := isLexableName_of_isFunctionName f.nameValid
    refine ⟨⟨Word.reads_name name (name?_of_function known visible) (expects.not_implied _),
      b.reads_opening (by simp [Scanner.implies, Token.mayMultiply]),
      readsAll_append reads ⟨b.reads_closing, trivial⟩⟩, ?_⟩
    rw [words, lastToken_cons, lastToken_cons, lastToken_append_cons]
    rfl
  | noArgument => exact ⟨trivial, trivial⟩
  | lastArgument a ih => exact ⟨(ih expects).1, trivial⟩
  | argument first others ihFirst ihOthers =>
    obtain ⟨firstReads, _⟩ := ihFirst expects
    obtain ⟨othersReads, _⟩ := ihOthers expectsOperand_separator
    exact ⟨readsAll_append firstReads ⟨Word.reads_separator, othersReads⟩, trivial⟩

end

end Formula
