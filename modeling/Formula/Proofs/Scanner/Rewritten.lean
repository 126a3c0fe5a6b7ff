import Formula.Proofs.Scanner.Spaced
import Formula.Proofs.Token.Legible

/-!
Writing out scanned tokens and scanning them again. Implied products are written out then, and are
not implied a second time; every token is read behind the same token as before, except that a value
behind an implied product is now read behind the product.
-/

set_option autoImplicit false

namespace Formula

namespace Scanner

variable {lexicon : Lexicon}

/-- A token that is held back is legible behind the product that was handed out in its place. -/
def HoldsLegible (lexicon : Lexicon) (s : Scanner) : Prop :=
  ∀ token ∈ s.held, s.last = some impliedProduct ∧ token.Legible lexicon s.last

theorem not_implied_behind_product (token : Token) :
    implies lexicon (some impliedProduct) token = false := by
  simp [implies, impliedProduct, Token.operator, Token.mayMultiply]

/-- What a call hands out can be read from its own text behind what was handed out before. -/
theorem reads_next (plain : ∀ op ∈ lexicon.operators, op.symbol ≠ "*" ∧ op.symbol ≠ "/")
    {s s' : Scanner} {token : Token} (held : s.HoldsLegible lexicon)
    (done : s.next lexicon = .ok (token, s')) :
    token.word.Reads lexicon s.last ∧ s'.last = some token ∧ s'.HoldsLegible lexicon := by
  have legible {c : Char} {rest rest' : List Char} {token : Token}
      (found : Token.read lexicon s.last c rest = .ok (token, rest')) :
      token.Legible lexicon s.last := by
    obtain ⟨chars, _, taken⟩ := Token.taken_of_read found
    exact Token.legible_of_taken (fun op member => (plain op member).2) taken
  cases next_eq_ok_iff.1 done with
  | held waiting =>
    obtain ⟨product, legible⟩ := held token waiting
    refine ⟨legible.reads ?_, rfl, nofun⟩
    rw [product]
    exact not_implied_behind_product token
  | read free _ found notImplied =>
    refine ⟨(legible found).reads notImplied, rfl, fun token same => ?_⟩
    rw [free] at same
    cases same
  | product _ _ found implied =>
    -- The product stands in front of the value, which is held back behind it.
    have product : impliedProduct.Legible lexicon s.last :=
      Token.legible_impliedProduct fun op member => (plain op member).1
    refine ⟨product.reads (not_implied_of_not_startsValue rfl), rfl, ?_⟩
    intro token same
    cases same
    exact ⟨rfl, (legible found).behind_product (startsValue_of_implies implied)⟩

/-- The texts of the tokens of a run are read one behind the other. -/
theorem readsAll_of_run (plain : ∀ op ∈ lexicon.operators, op.symbol ≠ "*" ∧ op.symbol ≠ "/")
    {s : Scanner} {tokens : List Token} (held : s.HoldsLegible lexicon)
    (scanned : s.run lexicon = (tokens, none)) :
    ReadsAll lexicon s.last (tokens.map Token.word) := by
  induction s using run.induct lexicon generalizing tokens with
  | case1 s _ token s' done _ _ _ ih =>
    obtain ⟨reads, last, held'⟩ := reads_next plain held done
    rw [run_next done, Prod.mk.injEq] at scanned
    obtain ⟨rfl, stop⟩ := scanned
    have later := ih held' (Prod.ext rfl stop)
    rw [last] at later
    exact ⟨reads, later⟩
  | case2 s more error stuck =>
    rw [run_stuck more stuck] at scanned
    cases scanned
  | case3 s done =>
    rw [run_done (by simpa using done)] at scanned
    cases scanned
    trivial

end Scanner

theorem spacedText_map_word (tokens : List Token) :
    spacedText (tokens.map Token.word) = formatTokens tokens := by
  rw [spacedText, formatTokens, List.map_map]
  rfl

/-- Tokens that a text was scanned into, written with single spaces between them, are scanned into
the very same tokens. The operators of the lexicon may have any symbols but those of the two
standard operators that a token may be without its symbol in the text. -/
theorem run_formatTokens {lexicon : Lexicon}
    (plain : ∀ op ∈ lexicon.operators, op.symbol ≠ "*" ∧ op.symbol ≠ "/") {text : String}
    {tokens : List Token} (scanned : (Scanner.ofText text).run lexicon = (tokens, none)) :
    (Scanner.ofText (formatTokens tokens)).run lexicon = (tokens, none) := by
  have nothingHeld : (Scanner.ofText text).HoldsLegible lexicon := by
    intro token held
    cases held
  have reads : ReadsAll lexicon none (tokens.map Token.word) :=
    Scanner.readsAll_of_run plain nothingHeld scanned
  rw [← spacedText_map_word, run_spacedText reads, List.map_map]
  exact congrArg (·, none) (List.map_id tokens)

def doubleMinusLexicon : Lexicon where
  variableNames := ["x"]
  operators := [{
    symbol := "--"
    arity := .unary
    leftAssociative := true
    precedence := 20000
    apply := Rule.unary fun operand => .ok operand }]

/-- Two implied products, a number in another form, an operator behind a variable that a sign may
follow, and the other sign of division. -/
theorem run_formatTokens_impliedProducts : ∃ tokens,
    (Scanner.ofText "2x---1.50e400(x)÷3").run doubleMinusLexicon = (tokens, none) ∧
    formatTokens tokens = "2 * x -- - 1.50E+400 * ( x ) / 3" ∧
    (Scanner.ofText "2 * x -- - 1.50E+400 * ( x ) / 3").run doubleMinusLexicon =
      (tokens, none) := by
  have plain : ∀ op ∈ doubleMinusLexicon.operators, op.symbol ≠ "*" ∧ op.symbol ≠ "/" := by
    decide
  have scanned : (Scanner.ofText "2x---1.50e400(x)÷3").run doubleMinusLexicon =
      (((Scanner.ofText "2x---1.50e400(x)÷3").run doubleMinusLexicon).1, none) :=
    Prod.ext rfl (by decide +kernel)
  have written : formatTokens ((Scanner.ofText "2x---1.50e400(x)÷3").run doubleMinusLexicon).1 =
      "2 * x -- - 1.50E+400 * ( x ) / 3" := by decide +kernel
  have again := run_formatTokens plain scanned
  rw [written] at again
  exact ⟨_, scanned, written, again⟩

end Formula
