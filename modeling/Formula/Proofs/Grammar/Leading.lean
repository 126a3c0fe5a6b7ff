import Formula.Proofs.Grammar.Chain

/-!
Operators in front of their operand, several in a row. An operator that comes is compared with the
one in front of it although that one still lacks its operand. So a row nests inwards only if no
operator in it binds weaker than the one in front of it. In every other row an operator is put out
before there is anything to apply it to.
-/

set_option autoImplicit false

namespace Formula

open Yard

structure Leading (lexicon : Lexicon) where
  symbol : String
  op : Operator
  known : lexicon.operator? .unary symbol = some op
  inFront : op.isPrefixed = true

structure Row (lexicon : Lexicon) where
  operators : List (Leading lexicon)
  operand : Operand lexicon

/-- No operator binds weaker than the one in front of it. -/
def Tightens (ops : List Operator) : Prop :=
  ops.IsChain fun op op' => op.precedence ≤ op'.precedence

instance (ops : List Operator) : Decidable (Tightens ops) :=
  inferInstanceAs (Decidable (ops.IsChain _))

variable {lexicon : Lexicon}

theorem arity_of_isPrefixed {op : Operator} (inFront : op.isPrefixed = true) :
    op.arity = .unary := by
  simp only [Operator.isPrefixed, Operator.isUnary, Bool.and_eq_true, beq_iff_eq] at inFront
  exact inFront.1

namespace Leading

def word (l : Leading lexicon) : Word := ⟨l.symbol, .operator l.op⟩

theorem reads_word {last : Option Token} (l : Leading lexicon) (expects : ExpectsOperand last) :
    l.word.Reads lexicon last :=
  Word.reads_operator (Token.isOperatorSymbol_of_operator? l.known) (expects.2 ▸ l.known)

end Leading

namespace Row

def ops (row : Row lexicon) : List Operator := row.operators.map Leading.op

def words (row : Row lexicon) : List Word :=
  row.operators.map Leading.word ++ [row.operand.word]

def text (row : Row lexicon) : String := spacedText row.words

/-- The operand and then the operators, from the innermost to the outermost. -/
def nested (row : Row lexicon) : List Item :=
  row.operand.item :: row.ops.reverse.map .operator

theorem reads_words {last : Option Token} (row : Row lexicon) (expects : ExpectsOperand last) :
    ReadsAll lexicon last row.words := by
  obtain ⟨operators, x⟩ := row
  induction operators generalizing last with
  | nil => exact ⟨x.reads_word expects, trivial⟩
  | cons l operators ih =>
    have expects' : ExpectsOperand (some l.word.token) :=
      expectsOperand_operator (.inr l.inFront)
    exact ⟨l.reads_word expects, ih expects'⟩

end Row

/-! ### Arranging -/

theorem releases_of_isPrefixed {coming op : Operator} (inFront : coming.isPrefixed = true)
    (one : op.arity = .unary) :
    releases coming op = decide (coming.precedence < op.precedence) := by
  simp only [Operator.isPrefixed, Bool.and_eq_true, Bool.not_eq_true'] at inFront
  simp [releases, inFront.2, Operator.isUnary, one]

theorem tightens_append (latest : Option Operator) (coming : Operator) (ops : List Operator) :
    Tightens (latest.toList ++ coming :: ops) ↔
      Tightens (latest.toList ++ [coming]) ∧ Tightens (coming :: ops) := by
  cases latest <;> simp [Tightens]

/-- What a coming operator releases are the latest of the waiting operators, and some are released
exactly if the very latest is. -/
theorem exists_released (coming : Operator) (pending : List Operator) (output : List Item) :
    ∃ popped kept, pending = popped ++ kept ∧
      release coming (above pending []) output = ⟨above kept [], flush popped output⟩ ∧
      (popped = [] ↔ Blocks coming (above pending [])) := by
  induction pending generalizing output with
  | nil => exact ⟨[], [], rfl, rfl, fun _ => nofun, fun _ => rfl⟩
  | cons op pending ih =>
    cases released : releases coming op with
    | false =>
      have blocks : Blocks coming (above (op :: pending) []) := by
        intro op' first
        cases first
        exact released
      exact ⟨[], op :: pending, rfl, release_of_blocks blocks, fun _ => blocks, fun _ => rfl⟩
    | true =>
      obtain ⟨popped, kept, rfl, done, _⟩ := ih (.operator op :: output)
      refine ⟨op :: popped, kept, rfl, ?_, nofun, fun blocks => ?_⟩
      · rw [above, List.map_cons, List.cons_append, release, if_pos released, flush_cons]
        exact done
      · rw [blocks op rfl] at released
        cases released

/-- Operators in front of their operand put out nothing as long as none binds weaker than the one in
front of it, and all wait then; what they put out otherwise is put out in front of any operand. -/
theorem pushAll_leading (text : String) {ops pending : List Operator} (released : List Operator)
    (ahead : ∀ op ∈ ops, op.isPrefixed = true) (one : ∀ op ∈ pending, op.arity = .unary) :
    ∃ pending' released', pushAll text ⟨above pending [], released.map .operator⟩
        (ops.map Token.operator) = .ok ⟨above pending' [], released'.map .operator⟩ ∧
      (released' = [] ↔ released = [] ∧ Tightens (pending.head?.toList ++ ops)) ∧
      (released' = [] → pending' = ops.reverse ++ pending) := by
  -- Induction on the operators with any that wait: a coming one cuts those into the ones that it
  -- releases and the ones that it leaves.
  induction ops generalizing pending released with
  | nil =>
    refine ⟨pending, released, rfl, ⟨fun none => ⟨none, ?_⟩, And.left⟩, fun _ => rfl⟩
    cases pending <;> simp [Tightens]
  | cons coming ops ih =>
    have inFront := ahead coming List.mem_cons_self
    obtain ⟨popped, kept, rfl, done, blocked⟩ :=
      exists_released coming pending (released.map .operator)
    have comingOne : ∀ op ∈ coming :: kept, op.arity = .unary := by
      rintro op (_ | ⟨_, member⟩)
      · exact arity_of_isPrefixed inFront
      · exact one op (List.mem_append_right popped member)
    obtain ⟨pending', released', run, noneIff, waiting⟩ := ih (popped.reverse ++ released)
      (fun op member => ahead op (List.mem_cons_of_mem coming member)) comingOne
    have taken : push text ⟨above (popped ++ kept) [], released.map .operator⟩
        (.operator coming) =
          .ok ⟨above (coming :: kept) [], (popped.reverse ++ released).map .operator⟩ := by
      simp only [push, Token.operator, done]
      simp [above, flush]
    -- Nothing is released exactly if the operator does not bind weaker than the latest one.
    have tightens : popped = [] ↔ Tightens ((popped ++ kept).head?.toList ++ [coming]) := by
      rw [blocked]
      cases latest : (popped ++ kept) with
      | nil => simp [Blocks, above, Tightens]
      | cons op pending =>
        have opOne := one op (latest ▸ List.mem_cons_self)
        simp [Blocks, above, Tightens, releases_of_isPrefixed inFront opOne]
    refine ⟨pending', released', ?_, ?_, fun none => ?_⟩
    · rw [List.map_cons, pushAll_cons _ taken, run]
    · rw [noneIff, tightens_append, ← tightens]
      simp only [List.append_eq_nil_iff, List.reverse_eq_nil_iff, List.head?_cons,
        Option.toList_some, List.singleton_append]
      rw [and_assoc, and_left_comm]
    · obtain ⟨nothing, _⟩ := noneIff.1 none
      rw [List.append_eq_nil_iff, List.reverse_eq_nil_iff] at nothing
      rw [waiting none, nothing.1]
      simp

theorem not_valid_of_operator_first (op : Operator) (items : List Item) (bindings : Bindings)
    (checkVariables : Bool) : validate (.operator op :: items) bindings checkVariables ≠ [] := by
  have few : (0 : Int) < (Item.operator op).count := by
    simp only [Item.count]
    cases op.arity <;> decide
  rw [Ne, validate_eq_nil_iff, inspect_cons_of_few few]
  simp

namespace Row

def tree (row : Row lexicon) : Tree := row.ops.foldr Tree.unary row.operand.tree

theorem isPrefixed_of_mem_ops {row : Row lexicon} {op : Operator} (member : op ∈ row.ops) :
    op.isPrefixed = true := by
  obtain ⟨l, _, rfl⟩ := List.mem_map.1 member
  exact l.inFront

theorem postorder_tree (row : Row lexicon) : row.tree.postorder = row.nested := by
  have one : ∀ op ∈ row.ops, op.arity = .unary := fun op member =>
    arity_of_isPrefixed (isPrefixed_of_mem_ops member)
  rw [tree, nested]
  revert one
  generalize row.ops = ops
  intro one
  induction ops with
  | nil => exact row.operand.postorder_tree
  | cons op ops ih =>
    rw [List.foldr_cons, Tree.postorder_unary (one op List.mem_cons_self),
      ih fun op' member => one op' (List.mem_cons_of_mem op member)]
    simp

theorem valid_nested (row : Row lexicon) (bindings : Bindings) :
    validate row.nested bindings false = [] := by
  rw [validate_eq_nil_iff, ← row.postorder_tree]
  exact inspect_postorder (fun _ => rfl) row.tree (Int.le_refl 0)

/-- The program of a row: what the operators have released before the operand, the operand, and what
waits behind it. -/
theorem exists_program (row : Row lexicon) :
    ∃ pending released : List Operator, toPostfix lexicon row.text =
        .ok (released.reverse.map .operator ++ row.operand.item :: pending.map .operator) ∧
      (released = [] ↔ Tightens row.ops) ∧ (released = [] → pending = row.ops.reverse) := by
  obtain ⟨pending, released, run, noneIff, waiting⟩ := pushAll_leading row.text []
    (fun _ => isPrefixed_of_mem_ops) (List.forall_mem_nil fun op : Operator => op.arity = .unary)
  refine ⟨pending, released, ?_, ?_, fun none => ?_⟩
  · have tokens : row.words.map Word.token = row.ops.map Token.operator ++
        [row.operand.word.token] := by
      simp [words, ops, Leading.word, Function.comp_def]
    have done : pushAll row.text {} (row.words.map Word.token) =
        .ok ⟨above pending [], row.operand.item :: released.map .operator⟩ := by
      rw [tokens]
      exact (pushAll_append _ run).trans (pushAll_cons [] (row.operand.push_item _ _ _))
    refine toPostfix_of_pushAll (row.reads_words ⟨rfl, rfl⟩) (by simp [words]) done ?_ (by simp)
    simp [flush]
  · rw [noneIff]
    simp
  · rw [waiting none, List.append_nil]

/-- A row of operators in front of an operand is converted, and the program is the operand with the
operators behind it, from the innermost to the outermost, exactly if no operator binds weaker than
the one in front of it. The program is valid in just this case. -/
theorem toPostfix_row (row : Row lexicon) (bindings : Bindings) :
    ∃ items, toPostfix lexicon row.text = .ok items ∧
      (items = row.operand.item :: row.ops.reverse.map .operator ↔ Tightens row.ops) ∧
      (validate items bindings false = [] ↔ Tightens row.ops) := by
  obtain ⟨pending, released, converted, noneIff, waiting⟩ := row.exists_program
  refine ⟨_, converted, ?_⟩
  rw [← noneIff]
  cases latest : released.reverse with
  | nil =>
    have none : released = [] := List.reverse_eq_nil_iff.1 latest
    have inwards : pending.map .operator = row.ops.reverse.map Item.operator := by
      rw [waiting none]
    rw [List.map_nil, List.nil_append, inwards]
    exact ⟨iff_of_true rfl none, iff_of_true (row.valid_nested bindings) none⟩
  | cons op more =>
    have someReleased : released ≠ [] := by
      rintro rfl
      cases latest
    refine ⟨iff_of_false (fun same => ?_) someReleased,
      iff_of_false (not_valid_of_operator_first op _ bindings false) someReleased⟩
    exact row.operand.item_ne_operator op (List.cons.inj same).1.symm

def complement : Operator where
  symbol := "~"
  arity := .unary
  leftAssociative := false
  precedence := 6000
  apply := Rule.unary fun operand => Rule.lift ((Decimal.ofNat 1).subtract operand)

def complementLexicon : Lexicon where
  variableNames := ["x"]
  operators := [complement]

def complementOfNegative : Row complementLexicon :=
  ⟨[⟨"~", complement, rfl, rfl⟩, ⟨"-", .negation, rfl, rfl⟩],
    .var "x" (by decide) (Eq.refl true)⟩

/-- Rows are not nested inwards whatever the operators: a sign puts out the operator in front of it,
which binds stronger, and the program is not valid. -/
theorem complementOfNegative_not_nested :
    complementOfNegative.text = "~ - x" ∧
      toPostfix complementLexicon complementOfNegative.text =
        .ok [.operator complement, .var "x", .operator .negation] ∧
      validate [.operator complement, .var "x", .operator .negation] {} false ≠ [] ∧
      ¬∀ (lexicon : Lexicon) (row : Row lexicon), toPostfix lexicon row.text = .ok row.nested := by
  have converted : toPostfix complementLexicon complementOfNegative.text =
      .ok [.operator complement, .var "x", .operator .negation] :=
    toPostfix_spacedText (complementOfNegative.reads_words ⟨rfl, rfl⟩) (List.cons_ne_nil _ _)
  refine ⟨by decide, converted, not_valid_of_operator_first _ _ _ _, fun nested => ?_⟩
  have same := (nested complementLexicon complementOfNegative).symm.trans converted
  cases Except.ok.inj same

end Row

end Formula
