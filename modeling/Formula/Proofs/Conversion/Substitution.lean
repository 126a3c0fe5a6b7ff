import Formula.Proofs.Conversion.Frame
import Formula.Proofs.Scanner.Product

/-!
Putting one formula in brackets in place of a variable of another. The brackets keep the characters
of both apart, so that each is read as it is read alone, and what they enclose does not reach the
operators that wait around it. The program of the whole is the one program with the other in place
of the variable.
-/

set_option autoImplicit false

namespace Formula

open Formula.Text

section
variable {lexicon : Lexicon} {opening closing : Char}

/-! ### Reading -/

section
variable (opens : Token.isOpeningChar opening = true) (closes : Token.isClosingChar closing = true)
  {text inner rest rest' : List Char} {pieces before after : List Piece} {p : Piece}
  (alone : ReadAs lexicon inner pieces rest')
include opens closes alone

theorem reading_enclosed (last : Option Token) (gap : List Char)
    (blank : ∀ b ∈ gap, isBlank b = true) (behind : List Char) :
    Reading lexicon last (gap ++ opening :: (inner ++ closing :: behind))
      (⟨gap, [opening], .opening⟩ :: (pieces ++ [⟨rest', [closing], .closing⟩])) behind := by
  have begins : Reading lexicon last _ _ (inner ++ closing :: behind) :=
    .mark (Token.standsAlone_opening opens) blank _
  -- Nothing is read differently behind an opened bracket than at the start of a text.
  have atStart : Token.SameBehind none (some .opening) := ⟨rfl, rfl⟩
  have inside := (alone.reading.sameBehind atStart).followed
    ((Token.standsAlone_closing closes).delimited behind)
  exact begins.append (inside.append (.mark (Token.standsAlone_closing closes) alone.blank behind))

/-- Where a variable stands in a text, another text is read in brackets. -/
theorem readAs_substitute {name : String} (whole : ReadAs lexicon text (before ++ p :: after) rest)
    (isVar : p.token = .item (.var name)) :
    ReadAs lexicon
      (sourceOf before ++ (p.gap ++ opening :: (inner ++ closing :: (sourceOf after ++ rest))))
      (before ++ ⟨p.gap, [opening], .opening⟩ :: (pieces ++ ⟨rest', [closing], .closing⟩ :: after))
      rest := by
  obtain ⟨middle, front, back⟩ := whole.reading.exists_middle
  cases back with
  | @piece _ _ gap tail behind _ c token _ split blank _ _ more =>
    obtain rfl : token = .item (.var name) := isVar
    -- Nor behind a closed bracket than behind the variable. The pieces in front are cut before it.
    have atEnd : Token.SameBehind (some (.item (.var name))) (some .closing) := ⟨rfl, rfl⟩
    have front' := front.cut gap split
      ((Token.standsAlone_opening opens).delimited (inner ++ closing :: behind))
    have bracketed := reading_enclosed opens closes alone
      (lastOf none (before.map Piece.token)) gap blank behind
    have back' := more.sameBehind atEnd
    have joined := front'.append (bracketed.append (by simpa [lastOf] using back'))
    rw [more.source_eq] at joined
    refine ⟨?_, whole.blank⟩
    simpa using joined

end

/-! ### Implied products -/

theorem operandsOf_append (tokens tokens' : List Token) :
    operandsOf (tokens ++ tokens') = operandsOf tokens ++ operandsOf tokens' := by
  rw [operandsOf, List.filterMap_append, List.filter_append]
  rfl

open Scanner in
theorem operandsOf_productBefore (last : Option Token) (token : Token) :
    operandsOf (productBefore lexicon last token) = [] := by
  rw [productBefore]
  split <;> rfl

open Scanner in
theorem operandsOf_handedOut (last : Option Token) (tokens : List Token) :
    operandsOf (handedOut lexicon last tokens) = operandsOf tokens := by
  induction tokens generalizing last with
  | nil => rfl
  | cons token tokens ih =>
    rw [handedOut, operandsOf_append, operandsOf_productBefore, List.nil_append,
      ← List.singleton_append, operandsOf_append, ih, ← operandsOf_append, List.singleton_append]

open Scanner in
/-- Products are implied in front of brackets and behind them like in front of a value and behind
one, and inside of them like in a text by itself. -/
theorem handedOut_enclosed (last : Option Token) (tokens after : List Token) :
    handedOut lexicon last (.opening :: (tokens ++ .closing :: after)) =
      productBefore lexicon last .opening ++ .opening :: (lexicon.withProducts tokens ++
        .closing :: handedOut lexicon (some .closing) after) := by
  have noProduct (last : Option Token) : productBefore lexicon last .closing = [] := by
    simp [productBefore, implies, Token.startsValue]
  have inside : handedOut lexicon (some .opening) tokens = handedOut lexicon none tokens :=
    handedOut_congr (by rfl) tokens
  rw [handedOut, handedOut_append, handedOut, noProduct, inside, handedOut_none]
  rfl

open Scanner in
theorem withProducts_substitute (lexicon : Lexicon) (before tokens after : List Token)
    (name : String) : ∃ front rest, operandsOf front = operandsOf before ∧
      lexicon.withProducts (before ++ .item (.var name) :: after) =
        front ++ .item (.var name) :: rest ∧
      lexicon.withProducts (before ++ .opening :: (tokens ++ .closing :: after)) =
        front ++ .opening :: (lexicon.withProducts tokens ++ .closing :: rest) := by
  have behind : handedOut lexicon (some .closing) after =
    handedOut lexicon (some (.item (.var name))) after := handedOut_congr (by rfl) after
  refine ⟨handedOut lexicon none before ++
      productBefore lexicon (lastOf none before) (.item (.var name)),
    handedOut lexicon (some (.item (.var name))) after, ?_, ?_, ?_⟩
  · rw [operandsOf_append, operandsOf_productBefore, operandsOf_handedOut, List.append_nil]
  · rw [← handedOut_none, handedOut_append, handedOut, List.append_assoc]
  · rw [← handedOut_none, handedOut_append, handedOut_enclosed, behind, List.append_assoc]
    rfl

/-! ### Converting -/

theorem toPostfix_of_readAs {text : List Char} {pieces : List Piece} {rest : List Char}
    (readAs : ReadAs lexicon text pieces rest) (somePiece : pieces ≠ []) :
    toPostfix lexicon (String.ofList text) =
      arrange (String.ofList text) (lexicon.withProducts (pieces.map Piece.token)) none := by
  have visible : text.all isBlank = false := by
    rw [List.all_eq_false]
    cases readAs.reading with
    | stop => exact absurd rfl somePiece
    | @piece _ _ _ _ _ _ c _ _ split _ visible _ _ =>
      exact ⟨c, by rw [split]; simp, by simp [visible]⟩
  rw [← String.toList_ofList (l := text)] at readAs visible
  rw [toPostfix, visible, if_neg Bool.false_ne_true, Scanner.scanned_iff.2 ⟨_, _, readAs, rfl⟩]

theorem exists_readAs_of_toPostfix {text : String} {items : List Item}
    (converted : toPostfix lexicon text = .ok items) : ∃ pieces rest,
      ReadAs lexicon text.toList pieces rest ∧
      (Scanner.ofText text).run lexicon = (lexicon.withProducts (pieces.map Piece.token), none) ∧
      arrange text (lexicon.withProducts (pieces.map Piece.token)) none = .ok items := by
  obtain ⟨tokens, scanned, arranged⟩ := scanned_of_toPostfix converted
  obtain ⟨pieces, rest, readAs, rfl⟩ := Scanner.scanned_iff.1 scanned
  exact ⟨pieces, rest, readAs, scanned, arranged⟩

theorem toPostfix_enclosed {inner : String} {innerItems : List Item}
    (opens : Token.isOpeningChar opening = true) (closes : Token.isClosingChar closing = true)
    (innerConverted : toPostfix lexicon inner = .ok innerItems) :
    toPostfix lexicon (String.ofList (opening :: (inner.toList ++ [closing]))) =
      .ok innerItems := by
  obtain ⟨pieces, rest, alone, _, arranged⟩ := exists_readAs_of_toPostfix innerConverted
  have reading : Reading lexicon none (opening :: (inner.toList ++ [closing])) _ [] :=
    reading_enclosed opens closes alone none [] nofun []
  obtain ⟨someItem, _⟩ := Yard.arrange_ok_iff.1 arranged
  have tokens : lexicon.withProducts (.opening :: (pieces.map Piece.token ++ [.closing])) =
      .opening :: (lexicon.withProducts (pieces.map Piece.token) ++ [.closing]) := by
    have first : Scanner.productBefore lexicon none .opening = [] := by
      simp [Scanner.productBefore, Scanner.implies]
    rw [← Scanner.handedOut_none, handedOut_enclosed, first]
    rfl
  have enclosed := Yard.foldlM_bracketed arranged
    (String.ofList (opening :: (inner.toList ++ [closing]))) .nothing []
  rw [toPostfix_of_readAs ⟨reading, nofun⟩ (List.cons_ne_nil _ _), List.map_cons, List.map_append,
    List.map_singleton, tokens]
  exact Yard.arrange_ok_iff.2 ⟨someItem, _, enclosed, by simp [Yard.drain?]⟩

/-- A formula is read as pieces, and where a variable is one of them another formula may stand in
brackets: the program is then the program of the first with that of the second in place of the
variable. A formula in brackets has the program it has without them. -/
theorem toPostfix_substitute {text inner : String} {items innerItems : List Item}
    (opens : Token.isOpeningChar opening = true) (closes : Token.isClosingChar closing = true)
    (converted : toPostfix lexicon text = .ok items)
    (calls : Yard.callsBracketed ((Scanner.ofText text).run lexicon).1 = true)
    (innerConverted : toPostfix lexicon inner = .ok innerItems) :
    (∃ pieces rest, ReadAs lexicon text.toList pieces rest ∧
      (Scanner.ofText text).run lexicon =
        (lexicon.withProducts (pieces.map Piece.token), none)) ∧
    (∀ before p after rest name, ReadAs lexicon text.toList (before ++ p :: after) rest →
      p.token = .item (.var name) → ∃ front back, items = front ++ .var name :: back ∧
        front.filter Item.isOperand = operandsOf (before.map Piece.token) ∧
        toPostfix lexicon (String.ofList (sourceOf before ++ (p.gap ++
          opening :: (inner.toList ++ closing :: (sourceOf after ++ rest))))) =
            .ok (front ++ innerItems ++ back)) ∧
    toPostfix lexicon (String.ofList (opening :: (inner.toList ++ [closing]))) =
      .ok innerItems := by
  obtain ⟨pieces, rest, readAs, scanned, _⟩ := exists_readAs_of_toPostfix converted
  obtain ⟨innerPieces, _, alone, _, arranged⟩ := exists_readAs_of_toPostfix innerConverted
  refine ⟨⟨pieces, rest, readAs, scanned⟩, fun before p after rest name whole isVar => ?_,
    toPostfix_enclosed opens closes innerConverted⟩
  -- The products implied around the variable are those implied around the brackets.
  obtain ⟨front, back, operands, plain, replaced⟩ := withProducts_substitute lexicon
    (before.map Piece.token) (innerPieces.map Piece.token) (after.map Piece.token) name
  have tokens : lexicon.withProducts ((before ++ p :: after).map Piece.token) =
      front ++ .item (.var name) :: back := by
    rw [← plain, List.map_append, List.map_cons, isVar]
  have outer := toPostfix_of_readAs whole (by simp)
  rw [String.ofList_toList, converted, tokens] at outer
  rw [Scanner.scanned_iff.2 ⟨_, _, whole, rfl⟩, tokens] at calls
  have read := readAs_substitute opens closes alone whole isVar
  obtain ⟨front', back', rfl, same, done⟩ :=
    arrange_substitute outer.symm calls arranged
  refine ⟨front', back', rfl, same.trans operands, ?_⟩
  rw [toPostfix_of_readAs read (by simp)]
  simp only [List.map_append, List.map_cons, replaced]
  exact done _

end

set_option maxRecDepth 2000 in
/-- The argument of a function, behind which a product is implied, and brackets of two kinds. -/
theorem toPostfix_substitute_argument :
    let lexicon : Lexicon := { variableNames := ["e", "x"] }
    ∃ innerItems front back, toPostfix lexicon "abs(e)x" = .ok (front ++ .var "e" :: back) ∧
      toPostfix lexicon "-x^2" = .ok innerItems ∧
      toPostfix lexicon "abs([-x^2))x" = .ok (front ++ innerItems ++ back) ∧
      formatItems (front ++ innerItems ++ back) = "x 2 ^ - abs x *" ∧
      toPostfix lexicon "[-x^2)" = .ok innerItems := by
  intro lexicon
  have someItems : (toPostfix lexicon "abs(e)x").toOption.isSome = true := by decide +kernel
  have someItems' : (toPostfix lexicon "-x^2").toOption.isSome = true := by decide +kernel
  have formatted : (toPostfix lexicon "abs([-x^2))x").toOption.map formatItems =
    some "x 2 ^ - abs x *" := by decide +kernel
  obtain ⟨f, called⟩ : ∃ f, Token.read lexicon none 'a' (['b', 's'] ++ ['(', 'e', ')', 'x']) =
    .ok (.item (.function f), ['(', 'e', ')', 'x']) := ⟨_, rfl⟩
  have argument : Token.read lexicon (some .opening) 'e' ([] ++ [')', 'x']) =
    .ok (.item (.var "e"), [')', 'x']) := rfl
  have factor : Token.read lexicon (some .closing) 'x' ([] ++ []) =
    .ok (.item (.var "x"), []) := rfl
  have opened := Token.standsAlone_opening (rfl : Token.isOpeningChar '(' = true)
  have closed := Token.standsAlone_closing (rfl : Token.isClosingChar ')' = true)
  have noGap : ∀ b ∈ ([] : List Char), isBlank b = true := nofun
  have whole : ReadAs lexicon "abs(e)x".toList
      ([⟨[], ['a', 'b', 's'], .item (.function f)⟩, ⟨[], ['('], .opening⟩] ++
        ⟨[], ['e'], .item (.var "e")⟩ ::
          [⟨[], [')'], .closing⟩, ⟨[], ['x'], .item (.var "x")⟩]) [] :=
    ⟨.piece (by rfl) noGap (by decide) called (.append (.mark opened noGap ['e', ')', 'x'])
      (.piece (by rfl) noGap (by decide) argument (.append (.mark closed noGap ['x'])
        (.piece (by rfl) noGap (by decide) factor .stop)))), nofun⟩
  cases converted : toPostfix lexicon "abs(e)x" with
  | error error => rw [converted] at someItems; cases someItems
  | ok items =>
    cases innerConverted : toPostfix lexicon "-x^2" with
    | error error => rw [innerConverted] at someItems'; cases someItems'
    | ok innerItems =>
      obtain ⟨_, replaced, enclosed⟩ := toPostfix_substitute
        (rfl : Token.isOpeningChar '[' = true) (rfl : Token.isClosingChar ')' = true)
        converted (by decide +kernel) innerConverted
      obtain ⟨front, back, rfl, _, done⟩ := replaced _ _ _ _ _ whole rfl
      have done' : toPostfix lexicon "abs([-x^2))x" = .ok (front ++ innerItems ++ back) := done
      rw [done'] at formatted
      exact ⟨innerItems, front, back, rfl, rfl, done', Option.some.inj formatted, enclosed⟩

end Formula
