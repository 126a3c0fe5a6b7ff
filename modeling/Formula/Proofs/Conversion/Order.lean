import Formula.Proofs.Builder
import Formula.Proofs.Conversion.Conservation

/-!
Converting keeps numbers and variables in their order. They are put out at once, and what is put out
later from among what waits is operators and functions only.
-/

set_option autoImplicit false

namespace Formula

namespace Yard

def operands (yard : Yard) : List Item := yard.output.filter Item.isOperand

theorem operands_of_putsOut {yard yard' : Yard} (put : PutsOut yard yard') :
    yard'.operands = yard.operands := by
  induction put with
  | nothing yard => rfl
  | @latest first i waiting output yard' found _ ih =>
    rw [ih, operands, operands,
      List.filter_cons_of_neg (Bool.eq_false_iff.1 (isOperand_of_item? found))]

theorem operands_of_pushed {yard yard' : Yard} {token : Token} (pushed : Pushed yard token yard') :
    yard'.operands = (token.item?.toList ++ yard.output).filter Item.isOperand := by
  cases pushed with
  | operand _ => rfl
  | @waits first i next found released =>
    refine (operands_of_putsOut released).trans ?_
    exact (List.filter_cons_of_neg (Bool.eq_false_iff.1 (isOperand_of_item? found))).symm
  | opening => rfl
  | separator above => exact operands_of_putsOut above
  | closing above call =>
    have opened := operands_of_putsOut above
    exact (operands_of_putsOut call).trans opened

theorem operands_foldlM {text : String} {yard yard' : Yard} {tokens : List Token}
    (done : tokens.foldlM (push text) yard = .ok yard') :
    yard'.operands =
      ((tokens.filterMap Token.item?).reverse ++ yard.output).filter Item.isOperand := by
  -- The output has its end first, so that later operands stand in front of earlier ones.
  induction tokens generalizing yard with
  | nil =>
    cases done
    rfl
  | cons token tokens ih =>
    obtain ⟨next, pushed, done⟩ := exists_pushed_of_foldlM done
    have first := operands_of_pushed pushed
    rw [operands] at first
    rw [ih done, List.filter_append, first, ← List.filter_append]
    cases found : token.item? with
    | none => simp [List.filterMap_cons_none found]
    | some i => simp [List.filterMap_cons_some found]

end Yard

/-- The operands of a converted formula are those of its tokens, in the same order. -/
theorem arrange_operands {text : String} {tokens : List Token} {stop : Option ScanError}
    {items : List Item} (done : arrange text tokens stop = .ok items) :
    items.filter Item.isOperand = (tokens.filterMap Token.item?).filter Item.isOperand := by
  obtain ⟨_, yard, pushed, drained⟩ := drained_of_arrange done
  have putOut := (Yard.operands_of_putsOut (Yard.putsOut_of_drain? drained)).trans
    (Yard.operands_foldlM pushed)
  rw [Yard.operands, List.append_nil, List.filter_reverse, List.filter_reverse] at putOut
  exact List.reverse_inj.1 putOut

/-! ### Tokens put out -/

namespace Token

def isItem (token : Token) : Bool := token.item?.isSome

def isOperand (token : Token) : Bool := token.item?.any Item.isOperand

def entry : Token → Entry
  | .item i => .item i
  | .opening => .stray .opening
  | .closing => .stray .closing
  | .separator => .stray .separator

theorem item_of_item? {token : Token} {i : Item} (found : token.item? = some i) :
    token = .item i := by
  cases token <;> cases found
  rfl

theorem map_item_filterMap (tokens : List Token) :
    (tokens.filterMap item?).map item = tokens.filter isItem := by
  induction tokens with
  | nil => rfl
  | cons token tokens ih =>
    cases found : token.item? with
    | none => simp [List.filterMap_cons_none found, isItem, found, ih]
    | some i =>
      have kept : token.isItem = true := by rw [isItem, found]; rfl
      rw [List.filterMap_cons_some found, List.map_cons, ih, List.filter_cons_of_pos kept,
        item_of_item? found]

theorem filter_isOperand_map_item (items : List Item) :
    (items.map item).filter isOperand = (items.filter Item.isOperand).map item :=
  List.filter_map

theorem filter_isOperand_filter_isItem (tokens : List Token) :
    (tokens.filter isItem).filter isOperand = tokens.filter isOperand := by
  rw [List.filter_filter]
  refine List.filter_congr fun token _ => ?_
  cases token with
  | item i => exact Bool.and_true _
  | opening => rfl
  | closing => rfl
  | separator => rfl

end Token

theorem entries_of_items (items : List Item) :
    (items.map Token.item).map Token.entry = items.map Entry.item := by
  rw [List.map_map]
  rfl

/-- Converting loses and invents nothing. What is put out are the tokens of the text without the
brackets and separators, each as often as it was scanned, and numbers and variables in their order.
So neither checking nor running a built program comes upon anything that is no item. -/
theorem conversion_conserves :
    (∀ (lexicon : Lexicon) (text : String) (items : List Item),
      toPostfix lexicon text = .ok items →
        ∃ tokens, (Scanner.ofText text).run lexicon = (tokens, none) ∧
          (items.map Token.item).Perm (tokens.filter Token.isItem) ∧
          (items.map Token.item).filter Token.isOperand = tokens.filter Token.isOperand ∧
          ∀ token ∈ items.map Token.item,
            token ≠ .opening ∧ token ≠ .closing ∧ token ≠ .separator) ∧
    ∀ (b : Builder) (e : Expression), b.build.outcome = .ok e → ∀ bindings : Bindings,
      (∀ checkVariables stray, validateMixed ((e.items.map Token.item).map Token.entry) bindings
        checkVariables ≠ .error stray) ∧
      ∀ stray, evaluateMixed ((e.items.map Token.item).map Token.entry) bindings ≠
        .error (.stray stray) := by
  constructor
  · intro lexicon text items converted
    obtain ⟨tokens, scanned, arranged⟩ := scanned_of_toPostfix converted
    refine ⟨tokens, scanned, ?_, ?_, ?_⟩
    · rw [← Token.map_item_filterMap]
      exact (arrange_perm arranged).map Token.item
    · rw [Token.filter_isOperand_map_item, arrange_operands arranged,
        ← Token.filter_isOperand_map_item, Token.map_item_filterMap,
        Token.filter_isOperand_filter_isItem]
    · intro token member
      obtain ⟨i, _, rfl⟩ := List.mem_map.1 member
      exact ⟨nofun, nofun, nofun⟩
  · intro b e _ bindings
    -- All elements of a program are items, so nothing stray can be met.
    rw [entries_of_items, evaluateMixed_items]
    refine ⟨?_, ?_⟩
    · intro checkVariables stray
      rw [validateMixed_items]
      exact nofun
    · intro stray
      cases evaluate e.items bindings with
      | ok value => exact nofun
      | error error => exact nofun

def unfinishedSumBuilder : Builder :=
  { text := "(1, 2 +) x", lexicon := { variableNames := ["x"] } }

theorem conversion_conserves_unfinishedSum : ∃ items tokens,
    (toPostfix unfinishedSumBuilder.fullLexicon unfinishedSumBuilder.text = .ok items ∧
      formatItems items = "1 2 + x *") ∧
    ((Scanner.ofText unfinishedSumBuilder.text).run unfinishedSumBuilder.fullLexicon =
      (tokens, none) ∧ formatTokens tokens = "( 1 , 2 + ) * x") ∧
    (items.map Token.item).Perm (tokens.filter Token.isItem) ∧
    (items.map Token.item).filter Token.isOperand = tokens.filter Token.isOperand ∧
    ∃ e, unfinishedSumBuilder.build.outcome = .ok e ∧
      ∀ stray, evaluateMixed ((e.items.map Token.item).map Token.entry) constants ≠
        .error (.stray stray) := by
  have formatted : (toPostfix unfinishedSumBuilder.fullLexicon
      unfinishedSumBuilder.text).toOption.map formatItems = some "1 2 + x *" := by decide +kernel
  have written : formatTokens ((Scanner.ofText unfinishedSumBuilder.text).run
      unfinishedSumBuilder.fullLexicon).1 = "( 1 , 2 + ) * x" := by decide +kernel
  cases converted : toPostfix unfinishedSumBuilder.fullLexicon unfinishedSumBuilder.text with
  | error error =>
    rw [converted] at formatted
    cases formatted
  | ok items =>
    rw [converted] at formatted
    have built := Builder.build_of_toPostfix (by decide +kernel) (by decide +kernel) converted
    obtain ⟨tokens, scanned, perm, order, _⟩ := conversion_conserves.1 _ _ items converted
    rw [scanned] at written
    exact ⟨items, tokens, ⟨rfl, Option.some.inj formatted⟩, ⟨scanned, written⟩, perm, order, _,
      built, (conversion_conserves.2 _ _ built constants).2⟩

end Formula
