import Formula.Conversion

/-!
Runs of waiting operators. What a token does to the operators that wait above a bracket, a function
or an operator that is not released is to put them all out, the latest first.
-/

set_option autoImplicit false

namespace Formula.Yard

variable {text : String} {pending : List Operator} {waiting : List Waiting} {output : List Item}

def above (pending : List Operator) (waiting : List Waiting) : List Waiting :=
  pending.map .operator ++ waiting

def flush (pending : List Operator) (output : List Item) : List Item :=
  (pending.map .operator).reverse ++ output

/-- The coming operator releases nothing. -/
def Blocks (coming : Operator) (waiting : List Waiting) : Prop :=
  ∀ op, waiting.head? = some (.operator op) → releases coming op = false

theorem flush_append (pending pending' : List Operator) (output : List Item) :
    flush (pending ++ pending') output = flush pending' (flush pending output) := by
  simp [flush]

theorem above_append (pending pending' : List Operator) (waiting : List Waiting) :
    above (pending ++ pending') waiting = above pending (above pending' waiting) := by
  simp [above]

theorem flush_cons (op : Operator) (pending : List Operator) (output : List Item) :
    flush (op :: pending) output = flush pending (.operator op :: output) :=
  flush_append [op] pending output

theorem release_of_blocks {coming : Operator} (blocks : Blocks coming waiting) :
    release coming waiting output = ⟨waiting, output⟩ := by
  unfold release
  split
  · rename_i op waiting
    rw [blocks op rfl, if_neg Bool.false_ne_true]
  · rfl

-- The released operators come off one by one, the latest first, up to the first that is not
-- released.
theorem release_above {coming : Operator} (released : ∀ op ∈ pending, releases coming op = true)
    (blocks : Blocks coming waiting) (output : List Item) :
    release coming (above pending waiting) output = ⟨waiting, flush pending output⟩ := by
  induction pending generalizing output with
  | nil => exact release_of_blocks blocks
  | cons op pending ih =>
    have first := released op List.mem_cons_self
    have others := ih fun op' member => released op' (List.mem_cons_of_mem op member)
    rw [above, List.map_cons, List.cons_append, release, if_pos first, flush_cons]
    exact others (.operator op :: output)

theorem toBracket?_above (pending : List Operator) (waiting : List Waiting) (output : List Item) :
    toBracket? (above pending (.bracket :: waiting)) output =
      some ⟨.bracket :: waiting, flush pending output⟩ := by
  induction pending generalizing output with
  | nil => rfl
  | cons op pending ih =>
    rw [above, List.map_cons, List.cons_append, toBracket?, flush_cons]
    exact ih (.operator op :: output)

theorem drain?_above (pending : List Operator) (output : List Item) :
    drain? (above pending []) output = some (flush pending output).reverse := by
  induction pending generalizing output with
  | nil => rfl
  | cons op pending ih =>
    rw [above, List.map_cons, List.cons_append, drain?, flush_cons]
    exact ih (.operator op :: output)

/-! ### Steps -/

theorem push_operator {coming : Operator}
    (released : ∀ op ∈ pending, releases coming op = true) (blocks : Blocks coming waiting) :
    push text ⟨above pending waiting, output⟩ (.operator coming) =
      .ok ⟨.operator coming :: waiting, flush pending output⟩ := by
  simp only [push, Token.operator, release_above released blocks]

theorem push_operator_of_blocks {coming : Operator} (blocks : Blocks coming waiting) :
    push text ⟨waiting, output⟩ (.operator coming) = .ok ⟨.operator coming :: waiting, output⟩ := by
  simp only [push, Token.operator, release_of_blocks blocks]

theorem push_separator : push text ⟨above pending (.bracket :: waiting), output⟩ .separator =
    .ok ⟨.bracket :: waiting, flush pending output⟩ := by
  simp only [push, toBracket?_above]

theorem push_closing (plain : ∀ f, waiting.head? ≠ some (.function f)) :
    push text ⟨above pending (.bracket :: waiting), output⟩ .closing =
      .ok ⟨waiting, flush pending output⟩ := by
  simp only [push, toBracket?_above, closeBracket]
  cases waiting with
  | nil => rfl
  | cons first rest =>
    cases first with
    | operator op => rfl
    | function f => exact absurd rfl (plain f)
    | bracket => rfl

theorem push_closing_call {f : Function} :
    push text ⟨above pending (.bracket :: .function f :: waiting), output⟩ .closing =
      .ok ⟨waiting, .function f :: flush pending output⟩ := by
  simp only [push, toBracket?_above, closeBracket]

theorem finish_above {items : List Item} (flushed : flush pending output = items.reverse)
    (someItem : items ≠ []) : finish text ⟨above pending [], output⟩ = .ok items := by
  simp only [finish, drain?_above, flushed, List.reverse_reverse]

/-! ### Runs -/

def pushAll (text : String) (yard : Yard) (tokens : List Token) : Except ConversionError Yard :=
  tokens.foldlM (push text) yard

theorem pushAll_cons {yard yard' : Yard} {token : Token} (tokens : List Token)
    (done : push text yard token = .ok yard') :
    pushAll text yard (token :: tokens) = pushAll text yard' tokens := by
  rw [pushAll, List.foldlM_cons, done]
  rfl

theorem pushAll_append {yard yard' : Yard} {tokens : List Token} (tokens' : List Token)
    (done : pushAll text yard tokens = .ok yard') :
    pushAll text yard (tokens ++ tokens') = pushAll text yard' tokens' := by
  rw [pushAll] at done
  rw [pushAll, List.foldlM_append, done]
  rfl

/-! ### What an operator releases -/

section
variable {coming op : Operator}

theorem releases_of_le (two : coming.arity = .binary) (left : coming.leftAssociative = true)
    (le : coming.precedence ≤ op.precedence) : releases coming op = true := by
  simp [releases, Operator.isUnary, two, left, le]

theorem releases_of_lt (two : coming.arity = .binary) (lt : coming.precedence < op.precedence) :
    releases coming op = true := by
  simp [releases, Operator.isUnary, two, lt]

theorem not_releases_of_lt (lt : op.precedence < coming.precedence) :
    releases coming op = false := by
  have notLe : ¬coming.precedence ≤ op.precedence := by omega
  have notLt : ¬coming.precedence < op.precedence := by omega
  simp [releases, notLe, notLt]

theorem not_releases_of_le (right : coming.leftAssociative = false)
    (le : op.precedence ≤ coming.precedence) : releases coming op = false := by
  have notLt : ¬coming.precedence < op.precedence := by omega
  simp [releases, right, notLt]

theorem not_releases_binary (one : coming.arity = .unary) (two : op.arity = .binary) :
    releases coming op = false := by
  simp [releases, Operator.isUnary, one, two]

end

end Formula.Yard
