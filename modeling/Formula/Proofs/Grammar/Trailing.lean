import Formula.Proofs.Conversion.Frame
import Formula.Proofs.Grammar.Chain

/-!
An operator behind the first operand of a chain. It has its operand, yet it waits until an operator
comes that releases it. So it is applied to this operand alone only if the first operator of the
chain releases it, and reaches over the operand behind that operator otherwise.
-/

set_option autoImplicit false

namespace Formula

open Yard

structure Trailing (lexicon : Lexicon) where
  symbol : String
  op : Operator
  known : lexicon.operator? .binary symbol = some op
  one : op.arity = .unary
  left : op.leftAssociative = true

variable {lexicon : Lexicon}

namespace Trailing

def word (q : Trailing lexicon) : Word := ⟨q.symbol, .operator q.op⟩

theorem reads_word {last : Option Token} (q : Trailing lexicon)
    (behind : arityBehind last = .binary) : q.word.Reads lexicon last :=
  Word.reads_operator (Token.isOperatorSymbol_of_operator? q.known) (behind ▸ q.known)

theorem arityBehind_word (q : Trailing lexicon) : arityBehind (some q.word.token) = .binary := by
  simp [word, Token.operator, arityBehind, q.one, q.left, Operator.isPrefixed]

/-- The first operator of a chain, if there is one, binds no stronger than the operator behind the
first operand; if both bind as strongly, it binds to the left. -/
def Outbinds (q : Trailing lexicon) (links : List (Link lexicon)) : Prop :=
  ∀ link ∈ links.head?, link.op.precedence < q.op.precedence ∨
    link.op.leftAssociative = true ∧ link.op.precedence = q.op.precedence

theorem outbinds_cons (q : Trailing lexicon) (link : Link lexicon) (links : List (Link lexicon)) :
    q.Outbinds (link :: links) ↔ releases link.op q.op = true := by
  simp only [Outbinds, List.head?_cons, Option.mem_def, Option.some.injEq, forall_eq', releases,
    Operator.isUnary, link.two]
  cases link.op.leftAssociative with
  | true => simp; omega
  | false => simp

end Trailing

/-! ### Items only -/

theorem not_needsBracket_of_isItem {token : Token} (item : token.isItem = true) :
    token.needsBracket = false ∧ token.isOpening = false ∧ token.isClosing = false := by
  cases token with
  | item i => exact ⟨rfl, rfl, rfl⟩
  | opening => cases item
  | closing => cases item
  | separator => cases item

theorem accepted_of_items {tokens : List Token} (someToken : tokens ≠ [])
    (allItems : ∀ token ∈ tokens, token.isItem = true) : Accepted tokens := by
  have noneOpens : openings tokens = 0 := by
    rw [openings, List.countP_eq_zero]
    intro token member
    simp [(not_needsBracket_of_isItem (allItems token member)).2.1]
  have noneCloses : closings tokens = 0 := by
    rw [closings, List.countP_eq_zero]
    intro token member
    simp [(not_needsBracket_of_isItem (allItems token member)).2.2]
  refine ⟨wellBracketed_iff_inside.2 ⟨?_, by rw [noneOpens, noneCloses]⟩, ?_⟩
  · rintro front token rest rfl needs
    rw [(not_needsBracket_of_isItem (allItems token (by simp))).1] at needs
    cases needs
  · obtain ⟨token, rest, rfl⟩ := List.exists_cons_of_ne_nil someToken
    exact ⟨token, List.mem_cons_self, allItems token List.mem_cons_self⟩

theorem exists_arranged (text : String) {words : List Word} (someWord : words ≠ [])
    (allItems : ∀ w ∈ words, w.token.isItem = true) :
    ∃ items, arrange text (words.map Word.token) none = .ok items := by
  obtain ⟨items, done, _⟩ | ⟨error, _, refused⟩ := arrange_cases text (words.map Word.token)
  · exact ⟨items, done⟩
  · have someToken : words.map Word.token ≠ [] := by simpa using someWord
    exact absurd (accepted_of_items someToken (List.forall_mem_map.2 allItems))
      refused.not_accepted

/-- What has been put out stays in front of what the tokens behind put out, and can be exchanged. -/
theorem exists_behind {text : String} (front tokens : List Token) {waiting : List Waiting}
    {output items : List Item} (done : arrange text (front ++ tokens) none = .ok items)
    (reached : pushAll text {} front = .ok ⟨waiting, output⟩) :
    ∃ rest, items = output.reverse ++ rest ∧ ∀ (text' : String) (front' : List Token)
      (output' : List Item), output' ≠ [] → pushAll text' {} front' = .ok ⟨waiting, output'⟩ →
        arrange text' (front' ++ tokens) none = .ok (output'.reverse ++ rest) := by
  obtain ⟨_, yard, pushed, drained⟩ := arrange_ok_iff.1 done
  rw [← pushAll, pushAll_append tokens reached] at pushed
  obtain ⟨waiting', added, rfl, framed⟩ := exists_added pushed
  rw [drain?_append, Option.map_eq_some_iff] at drained
  obtain ⟨rest, drained, rfl⟩ := drained
  refine ⟨rest, rfl, fun text' front' output' someItem reached' => ?_⟩
  refine arrange_ok_iff.2 ⟨by simp [someItem], ⟨waiting', added ++ output'⟩, ?_, ?_⟩
  · exact (pushAll_append tokens reached').trans (framed text' output')
  · rw [drain?_append, drained]
    rfl

namespace Chain

def wordsWith (q : Trailing lexicon) (chain : Chain lexicon) : List Word :=
  chain.first.word :: q.word :: chain.links.flatMap fun link => [link.word, link.operand.word]

def textWith (q : Trailing lexicon) (chain : Chain lexicon) : String :=
  spacedText (chain.wordsWith q)

theorem reads_wordsWith (q : Trailing lexicon) (chain : Chain lexicon) :
    ReadsAll lexicon none (chain.wordsWith q) := by
  obtain ⟨x, links⟩ := chain
  refine ⟨x.reads_word ⟨rfl, rfl⟩, q.reads_word x.arityBehind_word, ?_⟩
  cases links with
  | nil => exact trivial
  | cons link links =>
    have expects : ExpectsOperand (some link.word.token) := expectsOperand_operator (.inl link.two)
    exact ⟨link.reads_word q.arityBehind_word,
      (⟨link.operand, links⟩ : Chain lexicon).reads_words expects⟩

theorem isItem_of_mem_wordsWith (q : Trailing lexicon) (chain : Chain lexicon) {w : Word}
    (member : w ∈ chain.wordsWith q) : w.token.isItem = true := by
  simp only [wordsWith, List.mem_cons, List.mem_flatMap, List.not_mem_nil, or_false] at member
  obtain rfl | rfl | ⟨link, _, rfl | rfl⟩ := member <;> rfl

theorem words_subset_wordsWith (q : Trailing lexicon) (chain : Chain lexicon) :
    chain.words ⊆ chain.wordsWith q :=
  List.cons_subset_cons _ (List.subset_cons_self _ _)

/-- The operator is put out behind its operand if the first operator of the chain releases it, and
else the operand behind that operator is. -/
theorem exists_programs (q : Trailing lexicon) (chain : Chain lexicon) :
    ∃ rest items, toPostfix lexicon chain.text = .ok (chain.first.item :: rest) ∧
      toPostfix lexicon (chain.textWith q) = .ok items ∧
      (q.Outbinds chain.links → items = chain.first.item :: .operator q.op :: rest) ∧
      (¬q.Outbinds chain.links → ∃ link ∈ chain.links.head?, ∃ more,
        items = chain.first.item :: link.operand.item :: more) := by
  rw [textWith, toPostfix_spacedText (chain.reads_wordsWith q) (List.cons_ne_nil _ _), text,
    toPostfix_spacedText (chain.reads_words ⟨rfl, rfl⟩) (List.cons_ne_nil _ _)]
  obtain ⟨plain, converted⟩ := exists_arranged (spacedText chain.words) (List.cons_ne_nil _ _)
    fun w member => chain.isItem_of_mem_wordsWith q (chain.words_subset_wordsWith q member)
  obtain ⟨items, convertedWith⟩ := exists_arranged (spacedText (chain.wordsWith q))
    (List.cons_ne_nil _ _) fun w => chain.isItem_of_mem_wordsWith q
  obtain ⟨x, links⟩ := chain
  have first (text : String) (tokens : List Token) :
      pushAll text {} (x.word.token :: tokens) = pushAll text ⟨[], [x.item]⟩ tokens :=
    pushAll_cons tokens (x.push_item text [] [])
  have nothingWaits (coming : Operator) : Blocks coming [] := fun _ => nofun
  cases links with
  | nil =>
    have alone : items = [x.item, .operator q.op] :=
      Except.ok.inj (convertedWith.symm.trans
        (arrange_ok_iff.2 ⟨List.cons_ne_nil _ _, _, first _ _, rfl⟩))
    have without : plain = [x.item] :=
      Except.ok.inj (converted.symm.trans
        (arrange_ok_iff.2 ⟨List.cons_ne_nil _ _, _, first _ _, rfl⟩))
    exact ⟨[], items, without ▸ converted, convertedWith, fun _ => alone,
      fun notEmpty => absurd nofun notEmpty⟩
  | cons link links =>
    rw [q.outbinds_cons]
    -- The chain from the first operator on, and the yard before its operands come.
    let tail : Chain lexicon := ⟨link.operand, links⟩
    have alone (text : String) : pushAll text {} [x.word.token, .operator link.op] =
        .ok ⟨[.operator link.op], [x.item]⟩ := first _ _
    obtain ⟨rest, rfl, framed⟩ := exists_behind [x.word.token, .operator link.op]
      (tail.words.map Word.token) converted (alone _)
    refine ⟨rest, items, converted, convertedWith, fun released => ?_, fun kept => ?_⟩
    · have reached (text : String) :
          pushAll text {} [x.word.token, .operator q.op, .operator link.op] =
            .ok ⟨[.operator link.op], [.operator q.op, x.item]⟩ := by
        rw [first, pushAll_cons _ (push_operator_of_blocks (nothingWaits q.op))]
        have releasesAll : ∀ op ∈ [q.op], releases link.op op = true := by simpa using released
        exact pushAll_cons [] (push_operator releasesAll (nothingWaits link.op))
      exact Except.ok.inj (convertedWith.symm.trans
        (framed _ _ _ (List.cons_ne_nil _ _) (reached _)))
    · have reached (text : String) :
          pushAll text {} [x.word.token, .operator q.op, .operator link.op,
              link.operand.word.token] =
            .ok ⟨[.operator link.op, .operator q.op], [link.operand.item, x.item]⟩ := by
        have blocks : Blocks link.op [.operator q.op] := by
          intro op waits
          cases waits
          exact Bool.eq_false_iff.2 kept
        rw [first, pushAll_cons _ (push_operator_of_blocks (nothingWaits q.op)),
          pushAll_cons _ (push_operator_of_blocks blocks)]
        exact pushAll_cons [] (link.operand.push_item _ _ _)
      obtain ⟨more, rfl, _⟩ := exists_behind _
        (links.flatMap fun link => [link.word.token, link.operand.word.token])
        (by simpa [wordsWith, List.map_flatMap, Trailing.word, Link.word] using convertedWith)
        (reached _)
      exact ⟨link, rfl, more, rfl⟩

theorem toPostfix_pair (x : Operand lexicon) (link : Link lexicon) :
    toPostfix lexicon (text ⟨x, [link]⟩) =
      .ok [x.item, link.operand.item, .operator link.op] := by
  have done : pushAll (text ⟨x, [link]⟩) {} ((words ⟨x, [link]⟩).map Word.token) =
      .ok ⟨above [link.op] [], [link.operand.item, x.item]⟩ := by
    have coming : push (text ⟨x, [link]⟩) ⟨[], [x.item]⟩ link.word.token =
        .ok ⟨[.operator link.op], [x.item]⟩ := push_operator_of_blocks fun _ => nofun
    exact (pushAll_cons _ (x.push_item _ [] [])).trans ((pushAll_cons _ coming).trans
      (pushAll_cons [] (link.operand.push_item _ _ _)))
  exact toPostfix_of_pushAll (reads_words _ ⟨rfl, rfl⟩) (List.cons_ne_nil _ _) done rfl
    (List.cons_ne_nil _ _)

/-- An operator behind the first operand of a chain is put out directly behind it exactly if the
first operator of the chain binds no stronger, and binds to the left if it binds as strongly. The
program is then that of the chain with the operator put in behind the operand, where the program of
a chain of one operator is its two operands and the operator. -/
theorem toPostfix_textWith (q : Trailing lexicon) (chain : Chain lexicon) :
    ∃ rest items, toPostfix lexicon chain.text = .ok (chain.first.item :: rest) ∧
      toPostfix lexicon (chain.textWith q) = .ok items ∧
      ((∃ more, items = chain.first.item :: .operator q.op :: more) ↔ q.Outbinds chain.links) ∧
      (q.Outbinds chain.links → items = chain.first.item :: .operator q.op :: rest) ∧
      ∀ link, chain.links = [link] → rest = [link.operand.item, .operator link.op] := by
  obtain ⟨rest, items, converted, convertedWith, behind, beyond⟩ := chain.exists_programs q
  refine ⟨rest, items, converted, convertedWith, ⟨?_, fun outbinds => ⟨rest, behind outbinds⟩⟩,
    behind, ?_⟩
  · rintro ⟨more, same⟩
    by_contra notOutbinds
    obtain ⟨link, _, more', same'⟩ := beyond notOutbinds
    rw [same, List.cons.injEq, List.cons.injEq] at same'
    exact link.operand.item_ne_operator q.op same'.2.1.symm
  · obtain ⟨x, links⟩ := chain
    rintro link rfl
    exact (List.cons.inj (Except.ok.inj (converted.symm.trans (toPostfix_pair x link)))).2

/-- An operator behind its operand that binds weaker than a sum. -/
def hundredth : Operator where
  symbol := "§"
  arity := .unary
  leftAssociative := true
  precedence := 1
  apply := Rule.unary fun operand => Rule.lift (operand.divide (.ofNat 100))

def hundredthLexicon : Lexicon where
  variableNames := ["x", "y"]
  operators := [hundredth]

def trailingHundredth : Trailing hundredthLexicon := ⟨"§", hundredth, rfl, rfl, rfl⟩

def sumOfTwo : Chain hundredthLexicon :=
  ⟨.var "x" (by decide) (Eq.refl true),
    [⟨"+", .addition, rfl, rfl, .var "y" (by decide) (Eq.refl true)⟩]⟩

/-- An operator behind an operand is not always applied to this operand: a sum that comes behind it
and binds stronger does not release it, and it is applied to the sum. -/
theorem hundredth_not_behind_operand :
    sumOfTwo.textWith trailingHundredth = "x § + y" ∧
      toPostfix hundredthLexicon (sumOfTwo.textWith trailingHundredth) =
        .ok [.var "x", .var "y", .operator .addition, .operator hundredth] ∧
      ¬∀ (lexicon : Lexicon) (q : Trailing lexicon) (chain : Chain lexicon), ∃ more,
        toPostfix lexicon (chain.textWith q) =
          .ok (chain.first.item :: .operator q.op :: more) := by
  have converted : toPostfix hundredthLexicon (sumOfTwo.textWith trailingHundredth) =
      .ok [.var "x", .var "y", .operator .addition, .operator hundredth] :=
    toPostfix_spacedText (sumOfTwo.reads_wordsWith trailingHundredth) (List.cons_ne_nil _ _)
  refine ⟨by decide, converted, fun always => ?_⟩
  obtain ⟨more, same⟩ := always hundredthLexicon trailingHundredth sumOfTwo
  cases Except.ok.inj (same.symm.trans converted)

end Chain

end Formula
