import Formula.Proofs.Grammar.Phrase
import Formula.Proofs.Conversion.Pending

/-!
Phrases are arranged into the postorder of their trees. While a phrase is arranged, what waited
before it stays; of its own operators only such wait behind it as bind at least as strongly as the
category of the phrase.
-/

set_option autoImplicit false

namespace Formula

open Yard

namespace Category

/-- How strongly the operators that a phrase leaves waiting bind at least. -/
def floor : Category → Int
  | sum | arguments _ => 500
  | product => 1000
  | signed | power => 5000
  | atom => 10001

/-- The waiting operators that no operator of a phrase releases. -/
def Bears : Category → Operator → Prop
  | sum, _ | arguments _, _ => False
  | product, op => op.precedence < 1000
  | signed, op | power, op | atom, op =>
    op.precedence ≤ 10000 ∧ (op.arity = .unary → op.precedence ≤ 5000)

/-- What may wait in front of a phrase: no function, as that would take the brackets of the phrase
for its own, and in front of arguments a bracket. -/
structure Keeps (c : Category) (waiting : List Waiting) : Prop where
  operators : ∀ op, waiting.head? = some (.operator op) → c.Bears op
  functions : ∀ f, waiting.head? ≠ some (.function f)
  enclosed : ∀ count, c = arguments count → ∃ below, waiting = .bracket :: below

def program : (c : Category) → c.Meaning → List Item
  | sum, t | product, t | signed, t | power, t | atom, t => Tree.postorder t
  | arguments count, trees => (List.finRange count).flatMap fun k => (trees k).postorder

variable {c : Category} {waiting : List Waiting}

theorem keeps_nil : sum.Keeps [] := ⟨nofun, nofun, nofun⟩

theorem keeps_bracket (c : Category) (below : List Waiting) : c.Keeps (.bracket :: below) :=
  ⟨nofun, nofun, fun _ _ => ⟨below, rfl⟩⟩

theorem keeps_operator {op : Operator} (bears : c.Bears op) (below : List Waiting) :
    c.Keeps (.operator op :: below) := by
  refine ⟨fun op' first => ?_, nofun, fun count same => ?_⟩
  · cases first
    exact bears
  · rw [same] at bears
    exact bears.elim

theorem Keeps.mono {c' : Category} (keeps : c.Keeps waiting)
    (bears : ∀ op, c.Bears op → c'.Bears op) (operand : ∀ count, c' ≠ arguments count) :
    c'.Keeps waiting :=
  ⟨fun op first => bears op (keeps.operators op first), keeps.functions,
    fun count same => absurd same (operand count)⟩

theorem Keeps.blocks {coming : Operator} (keeps : c.Keeps waiting)
    (weaker : ∀ op, c.Bears op → releases coming op = false) : Blocks coming waiting :=
  fun op first => weaker op (keeps.operators op first)

end Category

/-- Whatever it is arranged on, the tokens put their items out except for some waiting operators. -/
def Arranges (c : Category) (tokens : List Token) (items : List Item) : Prop :=
  ∀ text waiting output, c.Keeps waiting → ∃ pending output',
    pushAll text ⟨waiting, output⟩ tokens = .ok ⟨above pending waiting, output'⟩ ∧
      flush pending output' = items.reverse ++ output ∧ ∀ op ∈ pending, c.floor ≤ op.precedence

namespace Arranges

variable {c c' c'' : Category} {tokens tokens' : List Token} {items items' : List Item}

-- The productions without a token of their own: what a phrase leaves waiting binds at least as
-- strongly as the weaker category asks.
theorem weaken (arranges : Arranges c tokens items) (keeps : ∀ w, c'.Keeps w → c.Keeps w)
    (floors : c'.floor ≤ c.floor) : Arranges c' tokens items := by
  intro text waiting output kept
  obtain ⟨pending, output', done, flushed, bound⟩ := arranges text waiting output (keeps _ kept)
  exact ⟨pending, output', done, flushed, fun op member => Int.le_trans floors (bound op member)⟩

theorem item {i : Item}
    (puts : ∀ text waiting output,
      push text ⟨waiting, output⟩ (.item i) = .ok ⟨waiting, i :: output⟩) :
    Arranges c [.item i] [i] := by
  intro text waiting output _
  refine ⟨[], i :: output, ?_, rfl, ?_⟩
  · rw [pushAll_cons _ (puts text waiting output)]
    rfl
  · intro op member
    cases member

-- The operator releases all that the first phrase left, as that binds at least as strongly as the
-- floor, and stops at what waited before. So the second phrase finds the operator directly below
-- it.
theorem infixed {op : Operator} (left : Arranges c tokens items)
    (right : Arranges c' tokens' items')
    (released : ∀ op', c.floor ≤ op'.precedence → releases op op' = true)
    (kept : ∀ w, c''.Keeps w → c.Keeps w ∧ Blocks op w ∧ c'.Keeps (.operator op :: w))
    (floors : c''.floor ≤ op.precedence ∧ c''.floor ≤ c'.floor) :
    Arranges c'' (tokens ++ .operator op :: tokens') (items ++ items' ++ [.operator op]) := by
  intro text waiting output keeps
  obtain ⟨keepsLeft, blocks, keepsRight⟩ := kept waiting keeps
  obtain ⟨pending, output₁, doneLeft, flushedLeft, bound⟩ := left text waiting output keepsLeft
  have coming : push text ⟨above pending waiting, output₁⟩ (.operator op) =
      .ok ⟨.operator op :: waiting, flush pending output₁⟩ :=
    push_operator (fun op' member => released op' (bound op' member)) blocks
  obtain ⟨pending', output₂, doneRight, flushedRight, bound'⟩ :=
    right text (.operator op :: waiting) (flush pending output₁) keepsRight
  refine ⟨pending' ++ [op], output₂, ?_, ?_, ?_⟩
  · rw [pushAll_append _ doneLeft, pushAll_cons _ coming, doneRight, above_append]
    rfl
  · rw [flush_append, flushedRight, flushedLeft]
    simp [flush]
  · intro op' member
    rcases List.mem_append.1 member with inside | last
    · exact Int.le_trans floors.2 (bound' op' inside)
    · rw [List.mem_singleton.1 last]
      exact floors.1

theorem prefixed {op : Operator} (operand : Arranges c tokens items)
    (kept : ∀ w, c'.Keeps w → Blocks op w ∧ c.Keeps (.operator op :: w))
    (floors : c'.floor ≤ op.precedence ∧ c'.floor ≤ c.floor) :
    Arranges c' (.operator op :: tokens) (items ++ [.operator op]) := by
  intro text waiting output keeps
  obtain ⟨blocks, keepsOperand⟩ := kept waiting keeps
  obtain ⟨pending, output', done, flushed, bound⟩ :=
    operand text (.operator op :: waiting) output keepsOperand
  refine ⟨pending ++ [op], output', ?_, ?_, ?_⟩
  · rw [pushAll_cons _ (push_operator_of_blocks blocks), done, above_append]
    rfl
  · rw [flush_append, flushed]
    simp [flush]
  · intro op' member
    rcases List.mem_append.1 member with inside | last
    · exact Int.le_trans floors.2 (bound op' inside)
    · rw [List.mem_singleton.1 last]
      exact floors.1

-- A bracket hides what waits below it, so any sum may stand behind it. Nothing but a function
-- directly below would take the closed brackets for its own, which is why phrases keep clear of
-- functions.
theorem bracketed (inner : Arranges .sum tokens items) :
    Arranges .atom (.opening :: (tokens ++ [.closing])) items := by
  intro text waiting output keeps
  have opened : push text ⟨waiting, output⟩ .opening = .ok ⟨.bracket :: waiting, output⟩ := rfl
  obtain ⟨pending, output', done, flushed, _⟩ :=
    inner text (.bracket :: waiting) output (Category.keeps_bracket _ _)
  refine ⟨[], flush pending output', ?_, flushed, fun op member => nomatch member⟩
  rw [pushAll_cons _ opened, pushAll_append _ done, pushAll_cons _ (push_closing keeps.functions)]
  rfl

theorem call {count : Nat} (f : Function) (inner : Arranges (.arguments count) tokens items) :
    Arranges .atom (.item (.function f) :: .opening :: (tokens ++ [.closing]))
      (items ++ [.function f]) := by
  intro text waiting output _
  have named : push text ⟨waiting, output⟩ (.item (.function f)) =
    .ok ⟨.function f :: waiting, output⟩ := rfl
  have opened : push text ⟨.function f :: waiting, output⟩ .opening =
    .ok ⟨.bracket :: .function f :: waiting, output⟩ := rfl
  obtain ⟨pending, output', done, flushed, _⟩ :=
    inner text (.bracket :: .function f :: waiting) output (Category.keeps_bracket _ _)
  refine ⟨[], .function f :: flush pending output', ?_, ?_, fun op member => nomatch member⟩
  · rw [pushAll_cons _ named, pushAll_cons _ opened, pushAll_append _ done,
      pushAll_cons _ push_closing_call]
    rfl
  · rw [flushed]
    simp [flush]

theorem noArgument : Arranges (.arguments 0) [] [] :=
  fun _ _ output _ => ⟨[], output, rfl, rfl, fun _ member => nomatch member⟩

theorem lastArgument (only : Arranges .sum tokens items) : Arranges (.arguments 1) tokens items :=
  only.weaken (fun _ keeps => keeps.mono (fun _ bears => bears) nofun) (Int.le_refl _)

theorem argument {count : Nat} (first : Arranges .sum tokens items)
    (others : Arranges (.arguments (count + 1)) tokens' items') :
    Arranges (.arguments (count + 2)) (tokens ++ .separator :: tokens') (items ++ items') := by
  intro text waiting output keeps
  obtain ⟨below, rfl⟩ := keeps.enclosed _ rfl
  obtain ⟨pending, output₁, doneFirst, flushedFirst, _⟩ :=
    first text (.bracket :: below) output (Category.keeps_bracket _ _)
  obtain ⟨pending', output₂, doneOthers, flushedOthers, bound⟩ :=
    others text (.bracket :: below) (flush pending output₁) (Category.keeps_bracket _ _)
  refine ⟨pending', output₂, ?_, ?_, bound⟩
  · rw [pushAll_append _ doneFirst, pushAll_cons _ push_separator, doneOthers]
  · rw [flushedOthers, flushedFirst]
    simp

end Arranges

/-! ### Phrases -/

theorem not_releases_of_sign (s : Sign) (op : Operator)
    (bears : Category.signed.Bears op) : releases s.prefixed op = false := by
  have right : s.prefixed.leftAssociative = false := by cases s <;> rfl
  have precedence : s.prefixed.precedence = 5000 := by cases s <;> rfl
  cases arity : op.arity with
  | unary => exact not_releases_of_le right (by rw [precedence]; exact bears.2 arity)
  | binary => exact not_releases_binary s.arity_prefixed arity

theorem Arranges.sum {tokens tokens' : List Token} {items items' : List Item} (s : Sign)
    (left : Arranges .sum tokens items) (right : Arranges .product tokens' items') :
    Arranges .sum (tokens ++ .operator s.infixed :: tokens')
      (items ++ items' ++ [.operator s.infixed]) := by
  have onLeft : s.infixed.leftAssociative = true := by cases s <;> rfl
  have precedence : s.infixed.precedence = 500 := by cases s <;> rfl
  refine left.infixed right ?_ ?_ ?_
  · intro op bound
    exact releases_of_le s.arity_infixed onLeft (by rw [precedence]; exact bound)
  · intro w keeps
    refine ⟨keeps, keeps.blocks fun op bears => bears.elim, Category.keeps_operator ?_ w⟩
    change s.infixed.precedence < 1000
    omega
  · rw [precedence]
    decide

theorem Arranges.product {tokens tokens' : List Token} {items items' : List Item} (s : ProductSign)
    (left : Arranges .product tokens items) (right : Arranges .signed tokens' items') :
    Arranges .product (tokens ++ .operator s.operator :: tokens')
      (items ++ items' ++ [.operator s.operator]) := by
  have onLeft : s.operator.leftAssociative = true := by cases s <;> rfl
  have precedence : s.operator.precedence = 1000 := by cases s <;> rfl
  refine left.infixed right ?_ ?_ ?_
  · intro op bound
    exact releases_of_le s.arity_operator onLeft (by rw [precedence]; exact bound)
  · intro w keeps
    refine ⟨keeps, keeps.blocks fun op bears => ?_, Category.keeps_operator ?_ w⟩
    · exact not_releases_of_lt (by rw [precedence]; exact bears)
    · exact ⟨by omega, fun one => nomatch s.arity_operator.symm.trans one⟩
  · rw [precedence]
    decide

theorem Arranges.sign {tokens : List Token} {items : List Item} (s : Sign)
    (operand : Arranges .signed tokens items) :
    Arranges .signed (.operator s.prefixed :: tokens) (items ++ [.operator s.prefixed]) := by
  have precedence : s.prefixed.precedence = 5000 := by cases s <;> rfl
  refine operand.prefixed ?_ ?_
  · intro w keeps
    refine ⟨keeps.blocks (not_releases_of_sign s), Category.keeps_operator ?_ w⟩
    exact ⟨by omega, fun _ => by omega⟩
  · rw [precedence]
    decide

theorem Arranges.power {tokens tokens' : List Token} {items items' : List Item}
    (base : Arranges .atom tokens items) (exponent : Arranges .signed tokens' items') :
    Arranges .power (tokens ++ .operator .exponentiation :: tokens')
      (items ++ items' ++ [.operator .exponentiation]) := by
  refine base.infixed exponent ?_ ?_ (by decide)
  · intro op bound
    have lt : (10000 : Int) < op.precedence := by
      have least : (10001 : Int) ≤ op.precedence := bound
      omega
    exact releases_of_lt rfl lt
  · intro w keeps
    refine ⟨keeps.mono (fun _ bears => bears) nofun,
      keeps.blocks fun op bears => not_releases_of_le rfl bears.1, Category.keeps_operator ?_ w⟩
    exact ⟨by decide, by decide⟩

/-- A phrase is arranged into the program of what it means. -/
theorem Phrase.arranges {lexicon : Lexicon} {c : Category} (d : Phrase lexicon c) :
    Arranges c (d.words.map Word.token) (c.program d.meaning) := by
  -- Induction on the derivation. What waits and what has been put out is arbitrary in `Arranges`,
  -- as every phrase but the first finds something there.
  induction d with
  | product p ih =>
    exact ih.weaken (fun w keeps => keeps.mono (fun op bears => bears.elim) nofun) (by decide)
  | signed u ih =>
    refine ih.weaken (fun w keeps => keeps.mono (fun op bears => ?_) nofun) (by decide)
    have weak : op.precedence < 1000 := bears
    exact ⟨by omega, fun _ => by omega⟩
  | power p ih =>
    exact ih.weaken (fun w keeps => keeps.mono (fun op bears => bears) nofun) (by decide)
  | atom a ih =>
    exact ih.weaken (fun w keeps => keeps.mono (fun op bears => bears) nofun) (by decide)
  | add left s right ihLeft ihRight =>
    rw [words, List.map_append, List.map_cons]
    change Arranges .sum _ (Tree.postorder (Tree.binary s.infixed left.meaning right.meaning))
    rw [Tree.postorder_binary s.arity_infixed]
    exact ihLeft.sum s ihRight
  | multiply left s right ihLeft ihRight =>
    rw [words, List.map_append, List.map_cons]
    change Arranges .product _ (Tree.postorder (Tree.binary s.operator left.meaning right.meaning))
    rw [Tree.postorder_binary s.arity_operator]
    exact ihLeft.product s ihRight
  | sign s operand ih =>
    change Arranges .signed _ (Tree.postorder (Tree.unary s.prefixed operand.meaning))
    rw [Tree.postorder_unary s.arity_prefixed]
    exact ih.sign s
  | raise base exponent ihBase ihExponent =>
    rw [words, List.map_append, List.map_cons]
    change Arranges .power _
      (Tree.postorder (Tree.binary .exponentiation base.meaning exponent.meaning))
    rw [Tree.postorder_binary rfl]
    exact ihBase.power ihExponent
  | number l inRange => exact Arranges.item fun _ _ _ => rfl
  | var name declared lexable => exact Arranges.item fun _ _ _ => rfl
  | bracketed b inner ih =>
    rw [words, List.map_cons, List.map_append]
    exact ih.bracketed
  | call f known visible b inner ih =>
    rw [words, List.map_cons, List.map_cons, List.map_append]
    exact ih.call f
  | noArgument => exact Arranges.noArgument
  | lastArgument a ih =>
    have same : (Category.arguments 1).program (lastArgument a).meaning =
        a.meaning.postorder := by
      simp [Category.program, meaning, List.finRange_succ]
    rw [same]
    exact ih.lastArgument
  | @argument count first others ihFirst ihOthers =>
    have same : (Category.arguments (count + 2)).program (argument first others).meaning =
        first.meaning.postorder ++ (Category.arguments (count + 1)).program others.meaning := by
      rw [Category.program, List.finRange_succ, List.flatMap_cons, List.flatMap_map]
      rfl
    rw [words, List.map_append, List.map_cons, same]
    exact ihFirst.argument ihOthers

/-- A phrase written with single spaces is converted into the postorder of its tree. -/
theorem toPostfix_phrase {lexicon : Lexicon} (plain : lexicon.operators = [])
    (d : Phrase lexicon .sum) : toPostfix lexicon d.text = .ok d.tree.postorder := by
  have expects : ExpectsOperand none := ⟨rfl, rfl⟩
  obtain ⟨reads, ends⟩ := d.reads_words plain expects
  obtain ⟨pending, output, done, flushed, _⟩ := d.arranges d.text [] [] Category.keeps_nil
  -- A phrase without words would end where an operand is still expected.
  have someWord : d.words ≠ [] := by
    intro nothing
    rw [nothing] at ends
    cases ends
  have finished : finish d.text ⟨above pending [], output⟩ = .ok d.tree.postorder := by
    refine finish_above ?_ d.tree.postorder_ne_nil
    rw [flushed, List.append_nil]
    rfl
  rw [Phrase.text, toPostfix_spacedText reads someWord, arrange]
  change (pushAll d.text ⟨[], []⟩ (d.words.map Word.token) >>= fun yard =>
    finish d.text yard) = _
  rw [done]
  exact finished

def oneVariable (name : String) : Lexicon := { variableNames := [name] }

def digitLiteral (c : Char) (digit : Text.isDigit c = true) : Literal where
  whole := [c]
  fraction := none
  exponent := none
  wholeValid := by simpa using digit
  fractionValid := nofun
  digits_ne_nil := nofun

def signedPower : Phrase (oneVariable "x") .sum :=
  let two := Phrase.number (digitLiteral '2' (by decide)) (by decide +kernel)
  let x := Phrase.var "x" (by decide) (by decide)
  .product (.multiply (.signed (.power (.atom two))) .star
    (.sign .minus (.power (.raise x (.sign .minus (.power (.atom two)))))))

theorem toPostfix_signedPower :
    signedPower.text = "2 * - x ^ - 2" ∧
      toPostfix (oneVariable "x") signedPower.text =
        .ok [.number (.finite false 2 0), .var "x", .number (.finite false 2 0),
          .operator .negation, .operator .exponentiation, .operator .negation,
          .operator .multiplication] :=
  ⟨by decide, toPostfix_phrase rfl signedPower⟩

end Formula
