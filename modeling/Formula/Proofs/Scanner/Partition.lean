import Formula.Proofs.Scanner.Product
import Formula.Proofs.Token.Legible

/-!
Scanning loses nothing of a text. The characters of the tokens, with blanks between them, are the
trimmed text, and each token is what its characters spell. As every token has a character, there are
no more tokens than characters, and no more products than gaps between them.
-/

set_option autoImplicit false

namespace Formula

open Formula.Text

/-! ### The characters of a token -/

theorem Token.ne_underscore_of_extendsNumber (previous c : Char)
    (goesOn : extendsNumber previous c = true) : c ≠ '_' := by
  rintro rfl
  have noDigit : isDigit '_' = false := by decide
  simp [extendsNumber, isExponentMarker, noDigit] at goesOn

theorem Decimal.read?_of_plain {text : List Char}
    (plain : ∀ c ∈ text, isBlank c = false ∧ c ≠ '_') : read? text = readPlain? text := by
  have trimmed : trim text = text := trim_of_visible_ends
    (fun c next => (plain c (List.mem_of_mem_head? next)).1)
    (fun c ends => (plain c (List.mem_of_mem_getLast? ends)).1)
  have kept : text.filter (· ≠ '_') = text :=
    List.filter_eq_self.2 fun c member => decide_eq_true (plain c member).2
  rw [read?, trimmed, kept]

theorem Literal.plain (l : Literal) : ∀ c ∈ l.chars, isBlank c = false ∧ c ≠ '_' := fun c member =>
  ⟨l.visible c member,
    Extends.forall Token.ne_underscore_of_extendsNumber (l.extends_chars ' ') c member⟩

theorem Literal.ofText?_eq_readPlain? (l : Literal) :
    Decimal.ofText? (String.ofList l.chars) = Decimal.readPlain? l.chars := by
  rw [Decimal.ofText?, String.toList_ofList, Decimal.read?_of_plain l.plain]

theorem Literal.ofText?_chars (l : Literal) (inRange : l.InRange) :
    Decimal.ofText? (String.ofList l.chars) = some l.value := by
  rw [l.ofText?_eq_readPlain?, l.readPlain?_chars inRange]

namespace Token

/-- The characters that stand for a token in a text. -/
inductive Spells : List Char → Token → Prop where
  | number {chars : List Char} {value : Decimal}
      (read : Decimal.ofText? (String.ofList chars) = some value) : Spells chars (.number value)
  | var (name : String) : Spells name.toList (.item (.var name))
  | function (f : Function) : Spells f.name.toList (.item (.function f))
  | operator (op : Operator) : Spells op.symbol.toList (.operator op)
  | division : Spells ['÷'] (.operator .division)
  | opening {c : Char} (opens : isOpeningChar c = true) : Spells [c] .opening
  | closing {c : Char} (closes : isClosingChar c = true) : Spells [c] .closing
  | separator : Spells [','] .separator

theorem spells_of_name? {lexicon : Lexicon} {name : List Char} {i : Item}
    (known : lexicon.name? (String.ofList name) = some i) : Spells name (.item i) := by
  unfold Lexicon.name? at known
  split at known
  · cases known
    have spelled := Spells.var (String.ofList name)
    rwa [String.toList_ofList] at spelled
  · obtain ⟨f, found, rfl⟩ := Option.map_eq_some_iff.1 known
    have spelled := Spells.function f
    rwa [name_of_function? found, String.toList_ofList] at spelled

theorem spells_of_operator? {lexicon : Lexicon} {arity : Arity} {symbol : List Char}
    {op : Operator} (known : lexicon.operator? arity (String.ofList symbol) = some op) :
    Spells symbol (.operator op) := by
  obtain same | ⟨sign, rfl⟩ := symbol_of_operator? known
  · have spelled := Spells.operator op
    rwa [same, String.toList_ofList] at spelled
  · have chars := congrArg String.toList sign
    rw [String.toList_ofList] at chars
    rw [chars]
    exact .division

theorem spells_of_taken {lexicon : Lexicon} {last : Option Token} {chars : List Char}
    {token : Token} (taken : Taken lexicon last chars token) : token.Spells chars := by
  cases taken with
  | number starts _ spelled =>
    obtain ⟨l, same, inRange, rfl⟩ := Literal.exists_of_readPlain? starts spelled
    exact .number (same ▸ l.ofText?_chars inRange)
  | operator _ known => exact spells_of_operator? known
  | name _ known => exact spells_of_name? known
  | opening opens => exact .opening opens
  | closing closes => exact .closing closes
  | separator => exact .separator

end Token

/-! ### The number of tokens -/

theorem length_insertProducts {tokens : List Token} (someToken : tokens ≠ []) :
    (insertProducts tokens).length + 1 ≤ 2 * tokens.length := by
  induction tokens with
  | nil => exact absurd rfl someToken
  | cons a tokens ih =>
    cases tokens with
    | nil => exact Nat.le_refl 2
    | cons b tokens =>
      have later := ih (List.cons_ne_nil b tokens)
      rw [insertProducts]
      split <;> simp only [List.length_cons] at later ⊢ <;> omega

theorem length_withProducts (lexicon : Lexicon) (tokens : List Token) :
    (lexicon.withProducts tokens).length ≤ 2 * tokens.length - 1 := by
  by_cases someToken : tokens = []
  · rw [someToken, Lexicon.withProducts]
    split <;> exact Nat.le_refl 0
  · have inserted := length_insertProducts someToken
    have positive := List.length_pos_iff.2 someToken
    rw [Lexicon.withProducts]
    split <;> omega

theorem length_sourceOf {pieces : List Piece} (someChar : ∀ p ∈ pieces, p.chars ≠ []) :
    pieces.length ≤ (sourceOf pieces).length := by
  induction pieces with
  | nil => exact Nat.le_refl 0
  | cons p pieces ih =>
    have first := List.length_pos_iff.2 (someChar p List.mem_cons_self)
    have others := ih fun p' member => someChar p' (List.mem_cons_of_mem p member)
    rw [sourceOf_cons]
    simp only [List.length_cons, List.length_append]
    omega

theorem length_trim_le (text : List Char) : (trim text).length ≤ text.length := by
  obtain ⟨lead, trail, parts, _⟩ := trim_parts text
  have lengths := congrArg List.length parts
  simp only [List.length_append] at lengths
  omega

theorem length_run_le (lexicon : Lexicon) (text : String) :
    ((Scanner.ofText text).run lexicon).1.length ≤ 2 * text.length - 1 := by
  obtain ⟨pieces, rest, stop, reading, _, runs⟩ := Scanner.exists_run lexicon text
  have run : (Scanner.ofText text).run lexicon =
    (lexicon.withProducts (pieces.map Piece.token), stop) := runs lexicon.impliedProducts
  have tokens := length_withProducts lexicon (pieces.map Piece.token)
  have chars := length_sourceOf fun p member => (reading.taken p member).2.1
  have lengths := congrArg List.length reading.source_eq
  have trimmed := length_trim_le text.toList
  rw [List.length_append] at lengths
  rw [List.length_map] at tokens
  rw [String.length_toList] at trimmed
  rw [run]
  exact Nat.le_trans tokens (by omega)

/-- A text that is scanned to its end is, when trimmed, nothing but the characters of its tokens
with blanks between them, each token being what its characters spell, and the tokens of any text of
`n` characters are at most `2 * n - 1`. -/
theorem run_partition (lexicon : Lexicon) (text : String) :
    (∀ tokens, (Scanner.ofText text).run lexicon = (tokens, none) →
      ∃ pieces : List Piece, trim text.toList = sourceOf pieces ∧
        (∀ p ∈ pieces.head?, p.gap = []) ∧
        (∀ p ∈ pieces, (∀ c ∈ p.gap, isBlank c = true) ∧ p.chars ≠ [] ∧ p.token.Spells p.chars) ∧
        tokens = lexicon.withProducts (pieces.map Piece.token)) ∧
    ((Scanner.ofText text).run lexicon).1.length ≤ 2 * text.length - 1 := by
  refine ⟨fun tokens scanned => ?_, length_run_le lexicon text⟩
  obtain ⟨pieces, rest, ⟨reading, blank⟩, rfl⟩ := Scanner.scanned_iff.1 scanned
  obtain ⟨pieces', reading', flush, same⟩ := reading.trimmed blank
  refine ⟨pieces', ?_, flush, fun p member => ?_, by rw [same]⟩
  · rw [reading'.source_eq, List.append_nil]
  · obtain ⟨gap, someChar, _, taken⟩ := reading'.taken p member
    exact ⟨gap, someChar, Token.spells_of_taken taken⟩

theorem run_partition_markerGivenBack :
    let lexicon : Lexicon := { variableNames := ["e", "x"] }
    ∃ tokens, (Scanner.ofText " 1.50e2ex ÷.5\t").run lexicon = (tokens, none) ∧
      formatTokens tokens = "150 * e * x / 0.5" ∧ tokens.length ≤ 27 ∧
      ∃ pieces : List Piece, trim " 1.50e2ex ÷.5\t".toList = sourceOf pieces ∧
        (∀ p ∈ pieces.head?, p.gap = []) ∧
        (∀ p ∈ pieces, (∀ c ∈ p.gap, isBlank c = true) ∧ p.chars ≠ [] ∧ p.token.Spells p.chars) ∧
        tokens = lexicon.withProducts (pieces.map Piece.token) := by
  intro lexicon
  have scanned : (Scanner.ofText " 1.50e2ex ÷.5\t").run lexicon =
      (((Scanner.ofText " 1.50e2ex ÷.5\t").run lexicon).1, none) :=
    Prod.ext rfl (by decide +kernel)
  have partition := run_partition lexicon " 1.50e2ex ÷.5\t"
  exact ⟨_, scanned, by decide +kernel, partition.2, partition.1 _ scanned⟩

end Formula
