import Formula.Proofs.Conversion.Substitution
import Formula.Proofs.Grammar.Arrangement

/-!
Blanks between tokens do not matter. Where blanks are put in between the tokens of a text, each
token is read as before: what it looks ahead at is cut off at the first of the new blanks, and
nothing that it could go on with begins with a blank. So the tokens are the same, and what they are
converted into.
-/

set_option autoImplicit false

namespace Formula

open Formula.Text

/-- The same token with the same characters, with more blanks in front of them. -/
structure Piece.Widened (p p' : Piece) : Prop where
  gap : p.gap.Sublist p'.gap
  blank : ∀ b ∈ p'.gap, isBlank b = true
  chars : p'.chars = p.chars
  token : p'.token = p.token

section
variable {lexicon : Lexicon} {last : Option Token} {text rest rest' : List Char}
  {pieces pieces' : List Piece}

/-! ### Reading -/

theorem delimited_of_isBlank {b : Char} (blank : isBlank b = true) (rest : List Char) :
    Delimited (b :: rest) := by
  have alone : Delimited [b] := delimited_of_blanks (by simpa using blank)
  exact fun c next => alone c next

theorem tokens_of_widened (wider : List.Forall₂ Piece.Widened pieces pieces') :
    pieces'.map Piece.token = pieces.map Piece.token := by
  induction wider with
  | nil => rfl
  | cons first _ ih => rw [List.map_cons, List.map_cons, ih, first.token]

/-- Up to the first of the new blanks both texts are the same, and there the wider one is cut. -/
theorem exists_cut_of_widened (wider : List.Forall₂ Piece.Widened pieces pieces')
    (blank : ∀ c ∈ rest', isBlank c = true) (rest : List Char) :
    ∃ keep x y, sourceOf pieces ++ rest = keep ++ x ∧ sourceOf pieces' ++ rest' = keep ++ y ∧
      Delimited y := by
  induction wider with
  | nil => exact ⟨[], rest, rest', rfl, rfl, delimited_of_blanks blank⟩
  | @cons p p' pieces pieces' first _ ih =>
    by_cases same : p'.gap = p.gap
    · obtain ⟨keep, x, y, front, front', delimited⟩ := ih
      refine ⟨p.gap ++ p.chars ++ keep, x, y, ?_, ?_, delimited⟩
      · rw [sourceOf_cons, List.append_assoc, front, ← List.append_assoc]
      · rw [sourceOf_cons, same, first.chars, List.append_assoc, front', ← List.append_assoc]
    · have someBlank : p'.gap ≠ [] := by
        intro nothing
        have widened := first.gap
        rw [nothing] at widened
        exact same (nothing.trans (List.sublist_nil.1 widened).symm)
      obtain ⟨b, gap, wide⟩ := List.exists_cons_of_ne_nil someBlank
      refine ⟨[], _, _, rfl, rfl, ?_⟩
      rw [sourceOf_cons, wide]
      exact delimited_of_isBlank (first.blank b (wide ▸ List.mem_cons_self)) _

/-- A text that is read up to its rest is read alike with more blanks in it. -/
theorem Reading.widened (reading : Reading lexicon last text pieces rest)
    (wider : List.Forall₂ Piece.Widened pieces pieces') (blank : ∀ c ∈ rest', isBlank c = true) :
    Reading lexicon last (sourceOf pieces' ++ rest') pieces' rest' := by
  induction reading generalizing pieces' with
  | stop =>
    cases wider
    exact .stop
  | @piece last text gap tail rest _ c token pieces _ _ visible done more ih =>
    cases wider with
    | @cons _ p' _ pieces' first others =>
      obtain ⟨gap', chars', token'⟩ := p'
      obtain ⟨_, blankGap, sameChars, sameToken⟩ := first
      obtain rfl : chars' = c :: tail := sameChars
      obtain rfl : token' = token := sameToken
      obtain ⟨keep, x, y, front, front', delimited⟩ := exists_cut_of_widened others blank _
      rw [more.source_eq, front] at done
      have done' := Token.read_cut done delimited
      rw [← front'] at done'
      refine .piece ?_ blankGap visible done' (ih others)
      simp [sourceOf_cons]

theorem ReadAs.widened (readAs : ReadAs lexicon text pieces rest)
    (wider : List.Forall₂ Piece.Widened pieces pieces') (blank : ∀ c ∈ rest', isBlank c = true) :
    ReadAs lexicon (sourceOf pieces' ++ rest') pieces' rest' :=
  ⟨readAs.reading.widened wider blank, blank⟩

end

/-! ### Converting -/

/-- The error as it is reported about another text. -/
def ConversionError.about (text : String) : ConversionError → ConversionError
  | .empty => .empty
  | .scan error => .scan error
  | .misplacedSeparator _ => .misplacedSeparator text
  | .unopened _ => .unopened text
  | .unclosed _ => .unclosed text
  | .noOperands _ => .noOperands text

section
variable (text text' : String)

theorem Yard.push_about (yard : Yard) (token : Token) :
    push text' yard token = (push text yard token).mapError (·.about text') := by
  cases token with
  | item i => cases i <;> rfl
  | opening => rfl
  | closing =>
    rw [push, push]
    cases toBracket? yard.waiting yard.output <;> rfl
  | separator =>
    rw [push, push]
    cases toBracket? yard.waiting yard.output <;> rfl

theorem Yard.foldlM_about (yard : Yard) (tokens : List Token) :
    tokens.foldlM (push text') yard =
      (tokens.foldlM (push text) yard).mapError (·.about text') := by
  induction tokens generalizing yard with
  | nil => rfl
  | cons token tokens ih =>
    rw [List.foldlM_cons, List.foldlM_cons, push_about text text']
    cases push text yard token with
    | error error => rfl
    | ok next => exact ih next

/-- What tokens are arranged into does not depend on the text that they come from, but errors tell
about it. -/
theorem arrange_about (tokens : List Token) :
    arrange text' tokens none = (arrange text tokens none).mapError (·.about text') := by
  rw [arrange, arrange, Yard.foldlM_about text text']
  cases tokens.foldlM (Yard.push text) {} with
  | error error => rfl
  | ok yard =>
    change yard.finish text' = (yard.finish text).mapError (·.about text')
    rw [Yard.finish, Yard.finish]
    cases Yard.drain? yard.waiting yard.output with
    | none => rfl
    | some items => cases items <;> rfl

end

theorem toPostfix_of_blank {lexicon : Lexicon} {text : String}
    (blank : ∀ c ∈ text.toList, isBlank c = true) : toPostfix lexicon text = .error .empty := by
  rw [toPostfix, if_pos (List.all_eq_true.2 blank)]

/-- A text that is scanned to its end is read as pieces, and with more blanks in front of any of
them or behind them all it is scanned into the same tokens. It is converted into the same program
then, or refused for the same reason, which only is told about the other text. -/
theorem run_widened {lexicon : Lexicon} {text : String} {tokens : List Token}
    (scanned : (Scanner.ofText text).run lexicon = (tokens, none)) :
    (∃ pieces rest, ReadAs lexicon text.toList pieces rest ∧
      tokens = lexicon.withProducts (pieces.map Piece.token)) ∧
    ∀ pieces rest pieces' rest' text', ReadAs lexicon text.toList pieces rest →
      List.Forall₂ Piece.Widened pieces pieces' → rest.Sublist rest' →
      (∀ c ∈ rest', isBlank c = true) → text'.toList = sourceOf pieces' ++ rest' →
        (Scanner.ofText text').run lexicon = (tokens, none) ∧
        toPostfix lexicon text' = (toPostfix lexicon text).mapError (·.about text') := by
  refine ⟨Scanner.scanned_iff.1 scanned,
    fun pieces rest pieces' rest' text' readAs wider _ blank chars => ?_⟩
  have readAs' := readAs.widened wider blank
  have same := tokens_of_widened wider
  have read : (Scanner.ofText text).run lexicon =
      (lexicon.withProducts (pieces.map Piece.token), none) :=
    Scanner.scanned_iff.2 ⟨_, _, readAs, rfl⟩
  rw [read, Prod.mk.injEq] at scanned
  obtain ⟨rfl, _⟩ := scanned
  refine ⟨Scanner.scanned_iff.2 ⟨_, _, chars ▸ readAs', by rw [same]⟩, ?_⟩
  cases wider with
  | nil =>
    -- Without a token there are only blanks, and neither text is a formula.
    have blankText : ∀ c ∈ text.toList, isBlank c = true := by
      rw [readAs.reading.source_eq]
      exact readAs.blank
    have blankText' : ∀ c ∈ text'.toList, isBlank c = true := chars ▸ blank
    rw [toPostfix_of_blank blankText, toPostfix_of_blank blankText']
    rfl
  | cons _ _ =>
    have converted := toPostfix_of_readAs readAs (List.cons_ne_nil _ _)
    have converted' := toPostfix_of_readAs readAs' (List.cons_ne_nil _ _)
    rw [String.ofList_toList] at converted
    rw [← chars, String.ofList_toList, same] at converted'
    rw [converted, converted']
    exact arrange_about text text' _

def arrowLexicon : Lexicon where
  variableNames := ["e", "x"]
  operators := [{
    symbol := "-->"
    arity := .binary
    leftAssociative := true
    precedence := 100
    apply := Rule.binary fun left _ => .ok left }]

set_option maxRecDepth 2000 in
/-- Blanks behind a number that gives its marker back, in front of a name behind another name, and
between the signs of a run that only begins like a symbol. -/
theorem run_widened_signs : ∃ tokens,
    (Scanner.ofText "2ex--3").run arrowLexicon = (tokens, none) ∧
      formatTokens tokens = "2 * e * x - - 3" ∧
      (Scanner.ofText " 2 e x-\t -3\n").run arrowLexicon = (tokens, none) ∧
      toPostfix arrowLexicon " 2 e x-\t -3\n" =
        (toPostfix arrowLexicon "2ex--3").mapError (·.about " 2 e x-\t -3\n") := by
  have scanned : (Scanner.ofText "2ex--3").run arrowLexicon =
      (((Scanner.ofText "2ex--3").run arrowLexicon).1, none) := Prod.ext rfl (by decide +kernel)
  have noGap : ∀ b ∈ ([] : List Char), isBlank b = true := List.forall_mem_nil _
  have marker : NumberEnds ['e', 'x', '-', '-', '3'] :=
    Or.inr ⟨rfl, fun c next => by cases next; decide⟩
  have nothing : NumberEnds [] := trivial
  have two : Token.read arrowLexicon none '2' ([] ++ ['e', 'x', '-', '-', '3']) =
      .ok (.number (.finite false 2 0), ['e', 'x', '-', '-', '3']) :=
    (digitLiteral '2' (by decide)).read_of_numberEnds (by decide +kernel) rfl rfl marker
  have e : Token.read arrowLexicon (some (.number (.finite false 2 0))) 'e'
    ([] ++ ['x', '-', '-', '3']) = .ok (.item (.var "e"), ['x', '-', '-', '3']) := rfl
  have x : Token.read arrowLexicon (some (.item (.var "e"))) 'x' ([] ++ ['-', '-', '3']) =
    .ok (.item (.var "x"), ['-', '-', '3']) := rfl
  have minus : Token.read arrowLexicon (some (.item (.var "x"))) '-' ([] ++ ['-', '3']) =
    .ok (.operator .subtraction, ['-', '3']) := rfl
  have sign : Token.read arrowLexicon (some (.operator .subtraction)) '-' ([] ++ ['3']) =
    .ok (.operator .negation, ['3']) := rfl
  have three : Token.read arrowLexicon (some (.operator .negation)) '3' ([] ++ []) =
      .ok (.number (.finite false 3 0), []) :=
    (digitLiteral '3' (by decide)).read_of_numberEnds (by decide +kernel) rfl rfl nothing
  have readAs : ReadAs arrowLexicon "2ex--3".toList
      [⟨[], ['2'], .number (.finite false 2 0)⟩, ⟨[], ['e'], .item (.var "e")⟩,
        ⟨[], ['x'], .item (.var "x")⟩, ⟨[], ['-'], .operator .subtraction⟩,
        ⟨[], ['-'], .operator .negation⟩, ⟨[], ['3'], .number (.finite false 3 0)⟩] [] :=
    ⟨.piece rfl noGap (by decide) two (.piece rfl noGap (by decide) e
      (.piece rfl noGap (by decide) x (.piece rfl noGap (by decide) minus
        (.piece rfl noGap (by decide) sign (.piece rfl noGap (by decide) three .stop))))),
      noGap⟩
  have widened (gap chars : List Char) (token : Token) (blank : gap.all isBlank = true) :
      Piece.Widened ⟨[], chars, token⟩ ⟨gap, chars, token⟩ :=
    ⟨List.nil_sublist gap, List.all_eq_true.1 blank, rfl, rfl⟩
  obtain ⟨scanned', converted⟩ := (run_widened scanned).2 _ _ _ ['\n'] " 2 e x-\t -3\n" readAs
    (.cons (widened [' '] _ _ (by decide)) (.cons (widened [' '] _ _ (by decide))
      (.cons (widened [' '] _ _ (by decide)) (.cons (widened [] _ _ (by decide))
        (.cons (widened ['\t', ' '] _ _ (by decide)) (.cons (widened [] _ _ (by decide)) .nil))))))
    (List.nil_sublist _) (List.all_eq_true.1 (by decide)) rfl
  exact ⟨_, scanned, by decide +kernel, scanned', converted⟩

end Formula
