import Formula.Proofs.Conversion.Substitution
import Formula.Proofs.Grammar.Signs
import Formula.Proofs.Names

/-!
Signs, brackets and magnitudes around one operand. However they are nested, the formula is read as
the operand with one layer around another, its program applies the layers from the innermost one
on, and no layer touches the digits and the exponent of the operand. So its value is the operand's
with a sign that is told layer by layer, whatever the size of the operand.
-/

set_option autoImplicit false

namespace Formula

open Formula.Text

/-! ### Numbers with another sign -/

namespace Decimal

def isNegative : Decimal → Bool
  | .finite negative _ _ | .infinity negative | .nan _ negative _ => negative

def withSign : Decimal → Bool → Decimal
  | .finite _ coefficient exponent, negative => .finite negative coefficient exponent
  | .infinity _, negative => .infinity negative
  | .nan signaling _ payload, negative => .nan signaling negative payload

@[simp] theorem withSign_isNegative (x : Decimal) : x.withSign x.isNegative = x := by
  cases x <;> rfl

@[simp] theorem isNegative_withSign (x : Decimal) (negative : Bool) :
    (x.withSign negative).isNegative = negative := by cases x <;> rfl

@[simp] theorem withSign_withSign (x : Decimal) (negative negative' : Bool) :
    (x.withSign negative).withSign negative' = x.withSign negative' := by cases x <;> rfl

theorem negate_eq (x : Decimal) : x.negate = x.withSign !x.isNegative := by cases x <;> rfl

theorem abs_eq (x : Decimal) : x.abs = x.withSign false := by cases x <;> rfl

end Decimal

/-! ### Layers -/

/-- What may stand around an operand without touching its digits. -/
inductive Layer where
  | sign (s : Sign)
  | brackets
  | magnitude
  deriving DecidableEq, Repr

namespace Layer

def wrap : Layer → List Token → List Token
  | sign s, inner => .operator s.prefixed :: inner
  | brackets, inner => .opening :: (inner ++ [.closing])
  | magnitude, inner => .item (.function .magnitude) :: .opening :: (inner ++ [.closing])

def items : Layer → List Item
  | sign s => [.operator s.prefixed]
  | brackets => []
  | magnitude => [.function .magnitude]

def onSign : Layer → Bool → Bool
  | sign .plus, negative | brackets, negative => negative
  | sign .minus, negative => !negative
  | magnitude, _ => false

/-- The sign that is left of the innermost one, the outermost layer coming first. -/
def signThrough (layers : List Layer) (negative : Bool) : Bool := layers.foldr onSign negative

def tokens (layers : List Layer) (operand : Item) : List Token := layers.foldr wrap [.item operand]

def program (layers : List Layer) (operand : Item) : List Item :=
  layers.foldr (fun l inner => inner ++ l.items) [operand]

theorem tokens_ne_nil (layers : List Layer) (operand : Item) : tokens layers operand ≠ [] := by
  cases layers with
  | nil => exact List.cons_ne_nil _ _
  | cons l layers => cases l <;> exact List.cons_ne_nil _ _

theorem program_ne_nil (layers : List Layer) (operand : Item) : program layers operand ≠ [] := by
  induction layers with
  | nil => exact List.cons_ne_nil _ _
  | cons l layers ih => exact List.append_ne_nil_of_left_ne_nil ih _

end Layer

/-! ### Texts -/

inductive Encloses (inner : List Char) : List Char → Prop where
  | intro {opening closing : Char} {gap gap' : List Char}
      (opens : Token.isOpeningChar opening = true) (closes : Token.isClosingChar closing = true)
      (blank : ∀ c ∈ gap, isBlank c = true) (blank' : ∀ c ∈ gap', isBlank c = true) :
      Encloses inner (opening :: (gap ++ inner ++ gap' ++ [closing]))

/-- A text with layers around an operand, the outermost layer first, with blanks in between. -/
inductive Wraps (operand : List Char) : List Layer → List Char → Prop where
  | operand : Wraps operand [] operand
  | sign {layers : List Layer} {inner gap : List Char} (s : Sign)
      (blank : ∀ c ∈ gap, isBlank c = true) (wraps : Wraps operand layers inner) :
      Wraps operand (.sign s :: layers) (s.char :: (gap ++ inner))
  | brackets {layers : List Layer} {inner text : List Char} (encloses : Encloses inner text)
      (wraps : Wraps operand layers inner) : Wraps operand (.brackets :: layers) text
  | magnitude {layers : List Layer} {inner text gap : List Char}
      (blank : ∀ c ∈ gap, isBlank c = true) (encloses : Encloses inner text)
      (wraps : Wraps operand layers inner) :
      Wraps operand (.magnitude :: layers) ("abs".toList ++ (gap ++ text))

def Operand.value? {lexicon : Lexicon} (bindings : Bindings) : Operand lexicon → Option Decimal
  | number l _ => some l.value
  | var name _ _ => bindings.get? name

/-! ### Reading -/

section
variable {lexicon : Lexicon} {last : Option Token} {text rest : List Char} {pieces : List Piece}

theorem Reading.behind_blanks (reading : Reading lexicon last text pieces rest)
    (somePiece : pieces ≠ []) {gap : List Char} (blank : ∀ c ∈ gap, isBlank c = true) :
    ∃ pieces', Reading lexicon last (gap ++ text) pieces' rest ∧
      pieces'.map Piece.token = pieces.map Piece.token := by
  cases reading with
  | stop => exact absurd rfl somePiece
  | @piece _ _ gap' tail rest' _ c token pieces split blank' visible done more =>
    have both : ∀ b ∈ gap ++ gap', isBlank b = true := fun b member =>
      (List.mem_append.1 member).elim (blank b) (blank' b)
    exact ⟨_, .piece (by rw [split, List.append_assoc]) both visible done more, rfl⟩

theorem Word.Reads.reading {w : Word} (reads : w.Reads lexicon last) :
    Reading lexicon last w.text.toList [⟨[], w.text.toList, w.token⟩] [] := by
  obtain ⟨first, tail, chars⟩ := List.exists_cons_of_ne_nil reads.ne_nil
  have done := reads.reads first tail [] chars nofun
  have visible := reads.firstVisible first (by rw [chars]; rfl)
  rw [chars]
  exact .piece (by simp) nofun visible done .stop

theorem operator?_long (operators : lexicon.operators = []) (arity : Arity) {symbol : List Char}
    (long : 1 < symbol.length) : lexicon.operator? arity (String.ofList symbol) = none := by
  have noneOwn : lexicon.ownOperator? (String.ofList symbol) = none := by
    rw [Lexicon.ownOperator?, operators]
    rfl
  rw [Lexicon.operator?, noneOwn, Option.none_or, ← Option.not_isSome_iff_eq_none,
    ← Operator.mem_standardSymbols arity]
  intro member
  have short : ∀ symbol ∈ Operator.standardSymbols, symbol.toList.length = 1 := by decide
  have one := short _ member
  rw [String.toList_ofList] at one
  omega

theorem read_prefixed (operators : lexicon.operators = []) (s : Sign)
    (unary : arityBehind last = .unary) (rest : List Char) :
    Token.read lexicon last s.char rest = .ok (.operator s.prefixed, rest) := by
  have operator : isOperatorChar s.char = true := by cases s <;> decide
  rw [Token.read_of_isOperatorChar operator]
  refine (Token.readOperator_iff [s.char]).2 ⟨s.prefixed, rfl, List.cons_ne_nil _ _, ?_, ?_, ?_⟩
  · simpa using operator
  · rw [unary, Lexicon.operator?, Lexicon.ownOperator?, operators]
    cases s <;> rfl
  · intro more someMore _
    have longer := List.length_pos_iff.2 someMore
    refine operator?_long operators _ ?_
    rw [List.length_append, List.length_singleton]
    omega

theorem readAs_encloses {inner : List Char} (encloses : Encloses inner text)
    (alone : Reading lexicon none inner pieces []) (somePiece : pieces ≠ [])
    (last : Option Token) {gap : List Char} (blank : ∀ c ∈ gap, isBlank c = true) :
    ∃ pieces', Reading lexicon last (gap ++ text) pieces' [] ∧
      pieces'.map Piece.token = .opening :: (pieces.map Piece.token ++ [.closing]) := by
  obtain ⟨opens, closes, blankFront, blankBack⟩ := encloses
  rename_i opening closing front back
  obtain ⟨pieces', wider, same⟩ := alone.behind_blanks somePiece blankFront
  have inside : ReadAs lexicon (front ++ inner ++ back) pieces' back :=
    ⟨wider.followed (delimited_of_blanks blankBack), blankBack⟩
  have enclosed := reading_enclosed opens closes inside last gap blank []
  exact ⟨_, by simpa using enclosed, by simp [same]⟩

/-- A text with layers around an operand is read as the tokens of the layers. -/
theorem Wraps.reading (functions : lexicon.functions = []) (operators : lexicon.operators = [])
    (visible : "abs" ∉ lexicon.variableNames) (x : Operand lexicon) {layers : List Layer}
    (wraps : Wraps x.text.toList layers text) :
    ∃ pieces, Reading lexicon none text pieces [] ∧
      pieces.map Piece.token = Layer.tokens layers x.item := by
  have somePiece : ∀ {pieces : List Piece} {layers : List Layer},
      pieces.map Piece.token = Layer.tokens layers x.item → pieces ≠ [] := by
    rintro _ layers same rfl
    exact Layer.tokens_ne_nil layers x.item same.symm
  induction wraps with
  | operand => exact ⟨_, (x.reads_word ⟨rfl, rfl⟩).reading, rfl⟩
  | @sign layers inner gap s blank _ ih =>
    obtain ⟨pieces, alone, same⟩ := ih
    -- Behind a sign tokens are read as at the start of a text, so what is inside is read alike.
    have behindSign : Token.SameBehind none (some (.operator s.prefixed)) := by
      cases s <;> exact ⟨rfl, rfl⟩
    obtain ⟨pieces', behind, same'⟩ :=
      (alone.sameBehind behindSign).behind_blanks (somePiece same) blank
    have signVisible : isBlank s.char = false := by cases s <;> decide
    have tight : ∀ c ∈ ([] : List Char), isBlank c = true := nofun
    refine ⟨⟨[], [s.char], _⟩ :: pieces', .piece rfl tight signVisible
      (read_prefixed operators s rfl _) behind, ?_⟩
    rw [List.map_cons, same', same]
    rfl
  | brackets encloses _ ih =>
    obtain ⟨pieces, alone, same⟩ := ih
    have tight : ∀ c ∈ ([] : List Char), isBlank c = true := nofun
    obtain ⟨pieces', reading, same'⟩ := readAs_encloses encloses alone (somePiece same) none tight
    exact ⟨pieces', reading, by rw [same', same]; rfl⟩
  | @magnitude layers inner text gap blank encloses _ ih =>
    obtain ⟨pieces, alone, same⟩ := ih
    have known : lexicon.name? "abs" = some (.function .magnitude) := by
      have hidden : lexicon.variableNames.contains "abs" = false := by simpa using visible
      rw [Lexicon.name?, hidden, Lexicon.function?, Lexicon.ownFunction?, functions]
      rfl
    have name : Word.Reads lexicon none ⟨"abs", .item (.function .magnitude)⟩ :=
      Word.reads_name (by decide) known (by simp [Scanner.implies])
    obtain ⟨pieces', enclosed, same'⟩ := readAs_encloses encloses alone (somePiece same)
      (some (.item (.function .magnitude))) blank
    -- The name ends where the bracket is opened, with or without blanks between them.
    have delimited : Delimited (gap ++ text) := by
      obtain ⟨opens, _, _, _⟩ := encloses
      exact delimited_behind_blanks blank ((Token.standsAlone_opening opens).delimited _)
    refine ⟨_, (name.reading.followed delimited).append enclosed, ?_⟩
    rw [List.map_append, same', same]
    rfl

end

/-! ### Converting -/

namespace Layer
variable {lexicon : Lexicon} {layers : List Layer} {operand : Item}

open Scanner in
/-- No layer ends or starts beside a factor, so that no product is implied anywhere. -/
theorem handedOut_tokens (layers : List Layer) (operand : Item) :
    handedOut lexicon none (tokens layers operand) = tokens layers operand := by
  have front (token : Token) (rest : List Token) (noFactor : token.mayMultiply = false) :
      handedOut lexicon none (token :: rest) = token :: handedOut lexicon none rest := by
    have first : productBefore lexicon none token = [] := by simp [productBefore, implies]
    have same : handedOut lexicon (some token) rest = handedOut lexicon none rest :=
      handedOut_congr (by simpa using noFactor) rest
    rw [handedOut, first, List.nil_append, same]
  have enclosed {inner : List Token} (alone : handedOut lexicon none inner = inner) :
      handedOut lexicon none (.opening :: (inner ++ [.closing])) =
        .opening :: (inner ++ [.closing]) := by
    have first : productBefore lexicon none .opening = [] := by simp [productBefore, implies]
    rw [handedOut_enclosed, first, ← handedOut_none, alone]
    rfl
  induction layers with
  | nil => simp [tokens, handedOut, productBefore, implies]
  | cons l layers ih =>
    cases l with
    | sign s => exact (front _ _ rfl).trans (congrArg _ ih)
    | brackets => exact enclosed ih
    | magnitude => exact (front _ _ rfl).trans (congrArg _ (enclosed ih))

open Yard in
theorem arranges (layers : List Layer) {operand : Item}
    (puts : ∀ text waiting output,
      push text ⟨waiting, output⟩ (.item operand) = .ok ⟨waiting, operand :: output⟩) :
    Arranges .signed (tokens layers operand) (program layers operand) := by
  have signedOfAtom {tokens : List Token} {items : List Item}
      (atom : Arranges .atom tokens items) : Arranges .signed tokens items :=
    atom.weaken (fun _ keeps => keeps.mono (fun _ bears => bears) nofun) (by decide)
  have sumOfSigned {tokens : List Token} {items : List Item}
      (signed : Arranges .signed tokens items) : Arranges .sum tokens items :=
    signed.weaken (fun _ keeps => keeps.mono (fun _ bears => bears.elim) nofun) (by decide)
  induction layers with
  | nil => exact Arranges.item puts
  | cons l layers ih =>
    cases l with
    | sign s => exact ih.sign s
    | brackets =>
      change Arranges .signed _ (_ ++ [])
      rw [List.append_nil]
      exact signedOfAtom (sumOfSigned ih).bracketed
    | magnitude => exact signedOfAtom ((sumOfSigned ih).lastArgument.call .magnitude)

end Layer

open Yard in
theorem toPostfix_wraps {lexicon : Lexicon} (functions : lexicon.functions = [])
    (operators : lexicon.operators = []) (visible : "abs" ∉ lexicon.variableNames)
    (x : Operand lexicon) {layers : List Layer} {text : String} {lead inner trail : List Char}
    (shape : text.toList = lead ++ (inner ++ trail)) (blank : ∀ c ∈ lead, isBlank c = true)
    (blank' : ∀ c ∈ trail, isBlank c = true) (wraps : Wraps x.text.toList layers inner) :
    toPostfix lexicon text = .ok (Layer.program layers x.item) := by
  obtain ⟨pieces, alone, same⟩ := wraps.reading functions operators visible x
  have someToken := Layer.tokens_ne_nil layers x.item
  have somePiece : pieces ≠ [] := by
    rintro rfl
    exact someToken same.symm
  obtain ⟨pieces', reading, same'⟩ :=
    (alone.followed (delimited_of_blanks blank')).behind_blanks somePiece blank
  rw [List.nil_append, ← shape] at reading
  -- Between layers no product is implied, so the tokens are those of the layers.
  have tokens : lexicon.withProducts (pieces'.map Piece.token) = Layer.tokens layers x.item := by
    rw [same', same, ← Scanner.handedOut_none, Layer.handedOut_tokens]
  have converted := toPostfix_of_readAs ⟨reading, blank'⟩ (by
    rintro rfl
    exact somePiece (List.map_eq_nil_iff.1 same'.symm))
  have keeps : Category.signed.Keeps [] :=
    Category.keeps_nil.mono (fun _ bears => bears.elim) nofun
  obtain ⟨pending, output, done, flushed, _⟩ :=
    Layer.arranges layers x.push_item text [] [] keeps
  have finished : finish text ⟨above pending [], output⟩ = .ok (Layer.program layers x.item) := by
    refine finish_above ?_ (Layer.program_ne_nil layers x.item)
    rw [flushed, List.append_nil]
  rw [String.ofList_toList, tokens] at converted
  rw [converted, arrange]
  change (pushAll text ⟨[], []⟩ (Layer.tokens layers x.item) >>= fun yard => finish text yard) = _
  rw [done]
  exact finished

/-! ### Evaluating -/

namespace Layer

/-- Each layer gives the value inside of it another sign. -/
theorem runOn_items (bindings : Bindings) (l : Layer) (value : Decimal) :
    runOn bindings [value] l.items = .ok [value.withSign (l.onSign value.isNegative)] := by
  have kept : Except.ok (ε := EvaluationError) [value] = .ok [value.withSign value.isNegative] :=
    congrArg (fun x => Except.ok [x]) value.withSign_isNegative.symm
  cases l with
  | sign s =>
    cases s with
    | plus => exact kept
    | minus => exact congrArg (fun x => Except.ok [x]) value.negate_eq
  | brackets => exact kept
  | magnitude => exact congrArg (fun x => Except.ok [x]) value.abs_eq

theorem runOn_program {bindings : Bindings} {operand : Item} {value : Decimal}
    (starts : runOn bindings [] [operand] = .ok [value]) (layers : List Layer) :
    runOn bindings [] (program layers operand) =
      .ok [value.withSign (signThrough layers value.isNegative)] := by
  induction layers with
  | nil =>
    change runOn bindings [] [operand] = .ok [value.withSign value.isNegative]
    rw [starts, Decimal.withSign_isNegative]
  | cons l layers ih =>
    change runOn bindings [] (program layers operand ++ l.items) = _
    rw [runOn_append, ih]
    change runOn bindings [_] l.items = _
    rw [runOn_items, Decimal.isNegative_withSign, Decimal.withSign_withSign]
    rfl

end Layer

theorem Operand.runOn_item {lexicon : Lexicon} {bindings : Bindings} {x : Operand lexicon}
    {value : Decimal} (known : x.value? bindings = some value) :
    runOn bindings [] [x.item] = .ok [value] := by
  cases x with
  | number l _ =>
    cases known
    rfl
  | var name _ _ =>
    have bound : bindings.get? name = some value := known
    simp [item, stepOn, Item.count, Item.value, bound, Except.map]
    rfl

/-- Without user functions and operators, a formula of brackets, signs and magnitudes around one
operand is compiled, and whatever is bound later, its value is that of the operand with the sign
that the layers leave, all digits and the exponent kept. -/
theorem Builder.evaluate_wrapped {b : Builder} (functions : b.lexicon.functions = [])
    (operators : b.lexicon.operators = []) (quiet : (applyPolicy b.policy b.warnings).2 = none)
    (apart : ∀ name ∈ b.fullLexicon.variableNames, (b.fullLexicon.function? name).isSome = false)
    (x : Operand b.fullLexicon) {layers : List Layer} {lead inner trail : List Char}
    (shape : b.text.toList = lead ++ (inner ++ trail)) (blank : ∀ c ∈ lead, isBlank c = true)
    (blank' : ∀ c ∈ trail, isBlank c = true) (wraps : Wraps x.text.toList layers inner) :
    ∃ e, b.build.outcome = .ok e ∧ ∀ steps value,
      x.value? (e.performAll steps).bindings = some value →
        (e.performAll steps).evaluate =
          .ok (value.withSign (Layer.signThrough layers value.isNegative)) := by
  -- A variable of that name would have kept the formula from being built.
  have visible : "abs" ∉ b.fullLexicon.variableNames := fun declared => by
    have clash := apart _ declared
    rw [Lexicon.function?, Option.isSome_or] at clash
    simp only [Bool.or_eq_false_iff] at clash
    exact absurd clash.2 (by decide)
  have functions' : b.fullLexicon.functions = [] := functions
  have operators' : b.fullLexicon.operators = [] := operators
  have converted := toPostfix_wraps functions' operators' visible x shape blank blank' wraps
  refine ⟨_, build_of_toPostfix quiet apart converted, fun steps value known => ?_⟩
  have same := Expression.sameProgram_performAll
    (.ofItems (Layer.program layers x.item) b.functionNames) steps
  rw [Expression.evaluate, same.items, evaluate_eq_runOn]
  change runOn _ [] (Layer.program layers x.item) >>= resultOn = _
  rw [Layer.runOn_program (Operand.runOn_item known)]
  rfl

def lessMagnitude : Builder where
  text := "- (abs [-x))"
  lexicon := { variableNames := ["x"] }

def vast : Decimal := .finite false (10 ^ 40 + 1) 3000000

theorem Builder.evaluate_wrapped_vast : ∃ e, lessMagnitude.build.outcome = .ok e ∧
    (e.performAll [.set "x" (.decimal vast)]).evaluate =
      .ok (.finite true (10 ^ 40 + 1) 3000000) := by
  let x : Operand lessMagnitude.fullLexicon := .var "x" (by decide +kernel) (by decide)
  have chars : x.text.toList = ['x'] := by decide
  have space : ∀ c ∈ [' '], isBlank c = true := by simp; rfl
  have tight : ∀ c ∈ ([] : List Char), isBlank c = true := nofun
  have negated : Wraps ['x'] [.sign .minus] ['-', 'x'] := .sign .minus tight .operand
  have square : Encloses ['-', 'x'] ['[', '-', 'x', ')'] :=
    .intro (rfl : Token.isOpeningChar '[' = true) (rfl : Token.isClosingChar ')' = true) tight tight
  have magnitude : Wraps ['x'] [.magnitude, .sign .minus]
      ['a', 'b', 's', ' ', '[', '-', 'x', ')'] := .magnitude space square negated
  have round : Encloses ['a', 'b', 's', ' ', '[', '-', 'x', ')']
      ['(', 'a', 'b', 's', ' ', '[', '-', 'x', ')', ')'] :=
    .intro (rfl : Token.isOpeningChar '(' = true) (rfl : Token.isClosingChar ')' = true) tight tight
  have wraps : Wraps ['x'] [.sign .minus, .brackets, .magnitude, .sign .minus]
      ['-', ' ', '(', 'a', 'b', 's', ' ', '[', '-', 'x', ')', ')'] :=
    .sign .minus space (.brackets round magnitude)
  have apart : ∀ name ∈ lessMagnitude.fullLexicon.variableNames,
      (lessMagnitude.fullLexicon.function? name).isSome = false := by decide +kernel
  have shape : lessMagnitude.text.toList =
      [] ++ (['-', ' ', '(', 'a', 'b', 's', ' ', '[', '-', 'x', ')', ')'] ++ []) := by decide
  obtain ⟨e, built, value⟩ :=
    evaluate_wrapped rfl rfl (by decide +kernel) apart x shape nofun nofun (chars ▸ wraps)
  obtain ⟨items, _, rfl⟩ := build_ok built
  have free : Expression.isFunctionName (.ofItems items lessMagnitude.functionNames) "x" = false :=
    rfl
  obtain ⟨e', done, bound⟩ := Expression.setVariable_decimal _ free vast
  refine ⟨_, built, value [.set "x" (.decimal vast)] vast ?_⟩
  simpa [x, Operand.value?, Expression.performAll, Expression.perform, Expression.setVariables,
    done] using bound

end Formula
