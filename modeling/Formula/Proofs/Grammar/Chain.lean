import Formula.Proofs.Conversion.Pending
import Formula.Proofs.Grammar.Phrase
import Formula.Proofs.Program.Postorder
import Formula.Proofs.Token.Legible

/-!
Chains: operands with operators of two operands between them, whatever their precedences. A chain is
cut at an operator that binds weakest, and so are its parts; which of several such operators it is
depends on the side to which they bind. The conversion arranges it in the same way, as the operators
that wait never bind weaker than the ones below them.
-/

set_option autoImplicit false

namespace Formula

open Yard

inductive Operand (lexicon : Lexicon) where
  | number (l : Literal) (inRange : l.InRange)
  | var (name : String) (declared : name ∈ lexicon.variableNames)
      (lexable : isLexableName name = true)

structure Link (lexicon : Lexicon) where
  symbol : String
  op : Operator
  known : lexicon.operator? .binary symbol = some op
  two : op.arity = .binary
  operand : Operand lexicon

structure Chain (lexicon : Lexicon) where
  first : Operand lexicon
  links : List (Link lexicon)

variable {lexicon : Lexicon}

namespace Operand

def item : Operand lexicon → Item
  | number l _ => .number l.value
  | var name _ _ => .var name

def tree : Operand lexicon → Tree
  | number l _ => .number l.value
  | var name _ _ => .var name

def text : Operand lexicon → String
  | number l _ => String.ofList l.chars
  | var name _ _ => name

def word (x : Operand lexicon) : Word := ⟨x.text, .item x.item⟩

theorem postorder_tree (x : Operand lexicon) : x.tree.postorder = [x.item] := by cases x <;> rfl

theorem item_ne_operator (x : Operand lexicon) (op : Operator) : x.item ≠ .operator op := by
  cases x <;> exact nofun

theorem push_item (x : Operand lexicon) (text : String) (waiting : List Waiting)
    (output : List Item) :
    push text ⟨waiting, output⟩ x.word.token = .ok ⟨waiting, x.item :: output⟩ := by
  cases x <;> rfl

theorem reads_word {last : Option Token} (x : Operand lexicon) (expects : ExpectsOperand last) :
    x.word.Reads lexicon last := by
  cases x with
  | number l inRange =>
    exact Word.reads_literal inRange expects.no_number (expects.not_implied _)
  | var name declared lexable =>
    exact Word.reads_name lexable (name?_of_declared declared) (expects.not_implied _)

theorem arityBehind_word (x : Operand lexicon) : arityBehind (some x.word.token) = .binary := by
  cases x <;> rfl

end Operand

namespace Link

def word (link : Link lexicon) : Word := ⟨link.symbol, .operator link.op⟩

theorem reads_word {last : Option Token} (link : Link lexicon)
    (behind : arityBehind last = .binary) : link.word.Reads lexicon last :=
  Word.reads_operator (Token.isOperatorSymbol_of_operator? link.known) (behind ▸ link.known)

end Link

namespace Chain

def words (chain : Chain lexicon) : List Word :=
  chain.first.word :: chain.links.flatMap fun link => [link.word, link.operand.word]

def text (chain : Chain lexicon) : String := spacedText chain.words

/-- Operators of the same precedence bind to the same side. -/
def Coherent (links : List (Link lexicon)) : Prop :=
  ∀ link ∈ links, ∀ other ∈ links, link.op.precedence = other.op.precedence →
    link.op.leftAssociative = other.op.leftAssociative

instance (links : List (Link lexicon)) : Decidable (Coherent links) :=
  inferInstanceAs (Decidable (∀ _ ∈ links, ∀ _ ∈ links, _ → _))

/-- Where a chain is cut: at an operator of lowest precedence, the last such operator if it binds to
the left, and the first one otherwise. -/
structure Weakest (before : List (Link lexicon)) (link : Link lexicon)
    (after : List (Link lexicon)) : Prop where
  lowest : ∀ other ∈ before ++ after, link.op.precedence ≤ other.op.precedence
  last : link.op.leftAssociative = true →
    ∀ other ∈ after, link.op.precedence < other.op.precedence
  first : link.op.leftAssociative = false →
    ∀ other ∈ before, link.op.precedence < other.op.precedence

/-- The tree of a chain that is cut, and whose parts are cut, down to the operands. -/
inductive Cut : Chain lexicon → Tree → Prop where
  | operand (x : Operand lexicon) : Cut ⟨x, []⟩ x.tree
  | operator {x : Operand lexicon} {before after : List (Link lexicon)} {link : Link lexicon}
      {left right : Tree} (weakest : Weakest before link after) (cutLeft : Cut ⟨x, before⟩ left)
      (cutRight : Cut ⟨link.operand, after⟩ right) :
      Cut ⟨x, before ++ link :: after⟩ (Tree.binary link.op left right)

/-! ### Scanning -/

theorem words_append (x : Operand lexicon) (before : List (Link lexicon)) (link : Link lexicon)
    (after : List (Link lexicon)) : (⟨x, before ++ link :: after⟩ : Chain lexicon).words =
      (⟨x, before⟩ : Chain lexicon).words ++
        link.word :: (⟨link.operand, after⟩ : Chain lexicon).words := by
  simp [words]

theorem reads_words {last : Option Token} (chain : Chain lexicon) (expects : ExpectsOperand last) :
    ReadsAll lexicon last chain.words := by
  obtain ⟨x, links⟩ := chain
  induction links generalizing last x with
  | nil => exact ⟨x.reads_word expects, trivial⟩
  | cons link links ih =>
    have expects' : ExpectsOperand (some link.word.token) :=
      expectsOperand_operator (.inl link.two)
    exact ⟨x.reads_word expects, link.reads_word x.arityBehind_word, ih expects' link.operand⟩

/-! ### Cutting -/

theorem Coherent.sublist {links links' : List (Link lexicon)} (coherent : Coherent links)
    (sublist : links'.Sublist links) : Coherent links' :=
  fun link member other member' => coherent link (sublist.subset member) other
    (sublist.subset member')

section
variable {before after : List (Link lexicon)} {link : Link lexicon}

theorem Weakest.le (weakest : Weakest before link after) :
    ∀ other ∈ before ++ link :: after, link.op.precedence ≤ other.op.precedence := by
  intro other member
  rcases List.mem_append.1 member with inside | inside
  · exact weakest.lowest other (List.mem_append_left _ inside)
  · rcases List.mem_cons.1 inside with rfl | inside
    · exact Int.le_refl _
    · exact weakest.lowest other (List.mem_append_right _ inside)

theorem Weakest.cons (weakest : Weakest before link after) {l : Link lexicon}
    (le : link.op.precedence ≤ l.op.precedence)
    (lt : link.op.leftAssociative = false → link.op.precedence < l.op.precedence) :
    Weakest (l :: before) link after := by
  refine ⟨fun other member => ?_, weakest.last, fun right other member => ?_⟩
  · rcases List.mem_cons.1 member with rfl | inside
    · exact le
    · exact weakest.lowest other inside
  · rcases List.mem_cons.1 member with rfl | inside
    · exact lt right
    · exact weakest.first right other inside

theorem weakest_front {l : Link lexicon} {links : List (Link lexicon)}
    (le : ∀ other ∈ links, l.op.precedence ≤ other.op.precedence)
    (lt : l.op.leftAssociative = true →
      ∀ other ∈ links, l.op.precedence < other.op.precedence) : Weakest [] l links :=
  ⟨le, lt, fun _ => List.forall_mem_nil _⟩

theorem exists_weakest {links : List (Link lexicon)} (coherent : Coherent links)
    (someLink : links ≠ []) :
    ∃ before link after, links = before ++ link :: after ∧ Weakest before link after := by
  induction links with
  | nil => exact absurd rfl someLink
  | cons l links ih =>
    by_cases alone : links = []
    · subst alone
      exact ⟨[], l, [], rfl, weakest_front (List.forall_mem_nil _) fun _ => List.forall_mem_nil _⟩
    · obtain ⟨before, link, after, rfl, weakest⟩ :=
        ih (coherent.sublist (List.sublist_cons_self l _)) alone
      -- The link in front of the others becomes the place if it is weaker than the place of the
      -- others, or as weak and bound to the right.
      rcases Int.lt_trichotomy l.op.precedence link.op.precedence with lt | same | gt
      · have below : ∀ other ∈ before ++ link :: after, l.op.precedence < other.op.precedence :=
          fun other member => Int.lt_of_lt_of_le lt (weakest.le other member)
        refine ⟨[], l, _, rfl, weakest_front (fun other member => ?_) fun _ => below⟩
        exact Int.le_of_lt (below other member)
      · cases side : l.op.leftAssociative with
        | true =>
          have left : link.op.leftAssociative = true :=
            (coherent link (by simp) l (by simp) same.symm).trans side
          refine ⟨l :: before, link, after, rfl, weakest.cons (Int.le_of_eq same.symm) ?_⟩
          rw [left]
          nofun
        | false =>
          refine ⟨[], l, _, rfl, weakest_front (same ▸ weakest.le) ?_⟩
          rw [side]
          nofun
      · exact ⟨l :: before, link, after, rfl, weakest.cons (Int.le_of_lt gt) fun _ => gt⟩

theorem exists_cut (x : Operand lexicon) {links : List (Link lexicon)} (coherent : Coherent links) :
    ∃ t, Cut ⟨x, links⟩ t := by
  induction h : links.length using Nat.strongRecOn generalizing x links with
  | ind n ih =>
    by_cases alone : links = []
    · exact ⟨x.tree, alone ▸ .operand x⟩
    · obtain ⟨before, link, after, rfl, weakest⟩ := exists_weakest coherent alone
      have shorter : before.length < n ∧ after.length < n := by
        rw [← h, List.length_append, List.length_cons]
        omega
      obtain ⟨left, cutLeft⟩ := ih _ shorter.1 x
        (coherent.sublist (List.sublist_append_left before _)) rfl
      obtain ⟨right, cutRight⟩ := ih _ shorter.2 link.operand
        (coherent.sublist ((List.sublist_cons_self link after).trans
          (List.sublist_append_right before _))) rfl
      exact ⟨_, .operator weakest cutLeft cutRight⟩

/-! ### Arranging -/

/-- The operators behind the cut release nothing of what the cut leaves waiting. -/
theorem Weakest.blocks {waiting : List Waiting} (weakest : Weakest before link after)
    (coherent : Coherent (before ++ link :: after)) :
    ∀ other ∈ after, Blocks other.op (.operator link.op :: waiting) := by
  intro other member op first
  cases first
  have le := weakest.lowest other (List.mem_append_right _ member)
  cases side : link.op.leftAssociative with
  | true => exact not_releases_of_lt (weakest.last side other member)
  | false =>
    rcases Int.lt_or_eq_of_le le with lt | same
    · exact not_releases_of_lt lt
    · have right : other.op.leftAssociative = false :=
        (coherent other (by simp [member]) link (by simp) same.symm).trans side
      exact not_releases_of_le right le

theorem Weakest.releases (weakest : Weakest before link after) :
    ∀ other ∈ before, releases link.op other.op = true := by
  intro other member
  cases side : link.op.leftAssociative with
  | true =>
    exact releases_of_le link.two side (weakest.lowest other (List.mem_append_left _ member))
  | false => exact releases_of_lt link.two (weakest.first side other member)

end

/-- A chain is arranged into the postorder of its tree, on whatever its operators do not release,
and leaves some of its operators waiting. -/
theorem Cut.arranges {chain : Chain lexicon} {t : Tree} (cut : chain.Cut t)
    (coherent : Coherent chain.links) (text : String) (waiting : List Waiting)
    (output : List Item) (blocks : ∀ link ∈ chain.links, Blocks link.op waiting) :
    ∃ pending output',
      pushAll text ⟨waiting, output⟩ (chain.words.map Word.token) =
        .ok ⟨above pending waiting, output'⟩ ∧
      flush pending output' = t.postorder.reverse ++ output ∧
      ∀ op ∈ pending, ∃ link ∈ chain.links, link.op = op := by
  -- Induction on the cut. The part on the right is arranged on top of the operator at the cut, so
  -- what waits is arbitrary, as long as the operators of the part do not release it.
  induction cut generalizing waiting output with
  | operand x =>
    refine ⟨[], x.item :: output, ?_, ?_, nofun⟩
    · rw [words, List.map_cons, pushAll_cons _ (x.push_item text waiting output)]
      rfl
    · rw [x.postorder_tree]
      rfl
  | @operator x before after link left right weakest _ _ ihLeft ihRight =>
    obtain ⟨pending, output₁, doneLeft, flushedLeft, among⟩ := ihLeft
      (coherent.sublist (List.sublist_append_left before _)) waiting output
      fun other member => blocks other (List.mem_append_left _ member)
    have released : ∀ op ∈ pending, releases link.op op = true := by
      intro op member
      obtain ⟨other, inside, rfl⟩ := among op member
      exact weakest.releases other inside
    have coming : push text ⟨above pending waiting, output₁⟩ link.word.token =
        .ok ⟨.operator link.op :: waiting, flush pending output₁⟩ :=
      push_operator released (blocks link (by simp))
    obtain ⟨pending', output₂, doneRight, flushedRight, among'⟩ := ihRight
      (coherent.sublist ((List.sublist_cons_self link after).trans
        (List.sublist_append_right before _))) (.operator link.op :: waiting)
      (flush pending output₁) (weakest.blocks coherent)
    refine ⟨pending' ++ [link.op], output₂, ?_, ?_, ?_⟩
    · rw [words_append, List.map_append, List.map_cons, pushAll_append _ doneLeft,
        pushAll_cons _ coming, doneRight, above_append]
      rfl
    · rw [flush_append, flushedRight, flushedLeft, Tree.postorder_binary link.two]
      simp [flush]
    · intro op member
      rcases List.mem_append.1 member with later | last
      · obtain ⟨other, behind, rfl⟩ := among' op later
        exact ⟨other, List.mem_append_right _ (List.mem_cons_of_mem _ behind), rfl⟩
      · rw [List.mem_singleton.1 last]
        exact ⟨link, by simp, rfl⟩

theorem toPostfix_of_cut {chain : Chain lexicon} {t : Tree} (cut : chain.Cut t)
    (coherent : Coherent chain.links) : toPostfix lexicon chain.text = .ok t.postorder := by
  obtain ⟨pending, output, done, flushed, _⟩ := cut.arranges coherent chain.text [] []
    fun _ _ => nofun
  refine toPostfix_of_pushAll (chain.reads_words ⟨rfl, rfl⟩) (List.cons_ne_nil _ _) done ?_
    t.postorder_ne_nil
  rw [flushed, List.append_nil]

/-- A chain whose operators of the same precedence bind to the same side is cut into one tree only,
and converted into the postorder of this tree. -/
theorem toPostfix_chain (chain : Chain lexicon) (coherent : Coherent chain.links) :
    ∃ t, chain.Cut t ∧ (∀ t', chain.Cut t' → t' = t) ∧
      toPostfix lexicon chain.text = .ok t.postorder := by
  obtain ⟨t, cut⟩ := exists_cut chain.first coherent
  have converted := toPostfix_of_cut cut coherent
  refine ⟨t, cut, fun t' cut' => ?_, converted⟩
  have converted' := toPostfix_of_cut cut' coherent
  rw [converted, Except.ok.injEq] at converted'
  exact postorder_injective converted'.symm

def implication : Operator where
  symbol := "=>"
  arity := .binary
  leftAssociative := false
  precedence := -5
  apply := Rule.binary fun _ right => .ok right

def choice : Operator where
  symbol := "|"
  arity := .binary
  leftAssociative := true
  precedence := 500
  apply := Rule.binary fun left _ => .ok left

def logicLexicon : Lexicon where
  variableNames := ["p"]
  operators := [implication, choice]

def implications : Chain logicLexicon :=
  let p : Operand logicLexicon := .var "p" (by decide) (by decide)
  ⟨p, [⟨"=>", implication, rfl, rfl, p⟩, ⟨"-", .subtraction, rfl, rfl, p⟩,
    ⟨"|", choice, rfl, rfl, p⟩, ⟨"=>", implication, rfl, rfl, p⟩]⟩

theorem toPostfix_implications :
    implications.text = "p => p - p | p => p" ∧
      toPostfix logicLexicon implications.text =
        .ok [.var "p", .var "p", .var "p", .operator .subtraction, .var "p", .operator choice,
          .var "p", .operator implication, .operator implication] := by
  let p : Operand logicLexicon := .var "p" (by decide) (by decide)
  have sum : Cut ⟨p, [⟨"-", .subtraction, rfl, rfl, p⟩, ⟨"|", choice, rfl, rfl, p⟩]⟩
      (Tree.binary choice (Tree.binary .subtraction p.tree p.tree) p.tree) :=
    @Cut.operator _ p [_] [] _ _ _ ⟨by decide, by decide, by decide⟩
      (@Cut.operator _ p [] [] _ _ _ ⟨by decide, by decide, by decide⟩ (.operand p) (.operand p))
      (.operand p)
  have cut : implications.Cut (Tree.binary implication p.tree (Tree.binary implication
      (Tree.binary choice (Tree.binary .subtraction p.tree p.tree) p.tree) p.tree)) :=
    @Cut.operator _ p [] _ _ _ _ ⟨by decide, by decide, by decide⟩ (.operand p)
      (@Cut.operator _ p [_, _] [] _ _ _ ⟨by decide, by decide, by decide⟩ sum (.operand p))
  obtain ⟨t, _, unique, converted⟩ := toPostfix_chain implications (by decide)
  rw [← unique _ cut] at converted
  exact ⟨by decide, converted⟩

end Chain

end Formula
