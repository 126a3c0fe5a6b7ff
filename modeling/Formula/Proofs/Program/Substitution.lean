import Formula.Proofs.Program.Agreement

/-!
A program in place of a variable. A program that has a value puts it on top of whatever lies below,
and takes nothing from there; so it may stand wherever a variable with that value does, also in a
list of items that is no valid program.
-/

set_option autoImplicit false

namespace Formula

def Item.replaced (name : String) (inner : List Item) : Item → List Item
  | .var name' => if name' = name then inner else [.var name']
  | .number value => [.number value]
  | .operator op => [.operator op]
  | .function f => [.function f]

def substitute (name : String) (inner items : List Item) : List Item :=
  items.flatMap (Item.replaced name inner)

section
variable {bindings : Bindings} {values values' : List Decimal}

/-! ### Values below -/

theorem stepOn_append {i : Item} (enough : i.count ≤ values.length) (below : List Decimal) :
    stepOn bindings (values ++ below) i = (stepOn bindings values i).map (· ++ below) := by
  have room : ¬values.length < i.count := by omega
  have room' : ¬(values ++ below).length < i.count := by
    rw [List.length_append]
    omega
  rw [stepOn, if_neg room', stepOn, if_neg room, List.take_append_of_le_length enough,
    List.drop_append_of_le_length enough]
  cases i.value bindings (values.take i.count).reverse <;> rfl

theorem enough_of_stepOn {i : Item} (stepped : stepOn bindings values i = .ok values') :
    i.count ≤ values.length := by
  have outcome := stepOn_outcome bindings values i
  rw [stepped] at outcome
  cases outcome with
  | value _ enough _ => exact enough

/-- Items that run to their end do so above any other values as well. -/
theorem runOn_append_below {items : List Item} (runs : runOn bindings values items = .ok values')
    (below : List Decimal) : runOn bindings (values ++ below) items = .ok (values' ++ below) := by
  induction items generalizing values with
  | nil =>
    cases runs
    rfl
  | cons i items ih =>
    rw [runOn_cons] at runs ⊢
    cases stepped : stepOn bindings values i with
    | error error =>
      rw [stepped] at runs
      cases runs
    | ok next =>
      rw [stepped] at runs
      rw [stepOn_append (enough_of_stepOn stepped), stepped]
      exact ih runs

theorem runOn_of_evaluate_above {items : List Item} {value : Decimal}
    (computed : evaluate items bindings = .ok value) (below : List Decimal) :
    runOn bindings below items = .ok (value :: below) :=
  runOn_append_below (runOn_of_evaluate computed) below

/-! ### Other items -/

section
variable {name : String} {value : Decimal}

theorem value_set_of_ne {i : Item} (other : i ≠ .var name) (arguments : List Decimal) :
    i.value (bindings.set name value) arguments = i.value bindings arguments := by
  cases i with
  | number value' => rfl
  | var name' =>
    have apart : name' ≠ name := fun same => other (same ▸ rfl)
    rw [Item.value, Item.value, Bindings.get?_set, if_neg apart]
  | operator op => rfl
  | function f => rfl

theorem stepOn_set_of_ne {i : Item} (other : i ≠ .var name) (values : List Decimal) :
    stepOn (bindings.set name value) values i = stepOn bindings values i := by
  rw [stepOn, stepOn, value_set_of_ne other]

theorem stepOn_set_var (bindings : Bindings) (name : String) (value : Decimal)
    (values : List Decimal) :
    stepOn (bindings.set name value) values (.var name) = .ok (value :: values) := by
  simp only [stepOn, Item.count, Item.value, Bindings.get?_set, Nat.not_lt_zero, if_false, if_true]
  rfl

theorem replaced_of_ne {i : Item} (other : i ≠ .var name) (inner : List Item) :
    i.replaced name inner = [i] := by
  cases i with
  | number value' => rfl
  | var name' =>
    have apart : name' ≠ name := fun same => other (same ▸ rfl)
    rw [Item.replaced, if_neg apart]
  | operator op => rfl
  | function f => rfl

theorem replaced_var (name : String) (inner : List Item) :
    (Item.var name).replaced name inner = inner := by
  rw [Item.replaced, if_pos rfl]

/-! ### Runs in lock step -/

/-- Behind every item the run with the program stands at the values at which the run with the
variable stands, and both stop at the same item. -/
theorem runOn_substitute {inner : List Item} (computed : evaluate inner bindings = .ok value)
    (items : List Item) (values : List Decimal) :
    runOn bindings values (substitute name inner items) =
      runOn (bindings.set name value) values items := by
  induction items generalizing values with
  | nil => rfl
  | cons i items ih =>
    by_cases isVar : i = .var name
    · rw [isVar, substitute, List.flatMap_cons, replaced_var, runOn_append,
        runOn_of_evaluate_above computed, runOn_cons, stepOn_set_var]
      exact ih (value :: values)
    · rw [substitute, List.flatMap_cons, replaced_of_ne isVar, List.singleton_append, runOn_cons,
        runOn_cons, stepOn_set_of_ne isVar]
      exact congrArg (stepOn bindings values i >>= ·) (funext ih)

end

end

/-- Where a program has a value, it may stand in place of a variable with this value: the whole has
the same value, or ends with the same error, whether it is a valid program or not. -/
theorem evaluate_substitute {inner : List Item} {bindings : Bindings} {value : Decimal}
    (computed : evaluate inner bindings = .ok value) (name : String) (items : List Item) :
    evaluate (substitute name inner items) bindings =
      evaluate items (bindings.set name value) := by
  rw [evaluate_eq_runOn, evaluate_eq_runOn, runOn_substitute computed]

theorem evaluate_substitute_selfReference :
    let bindings := Bindings.ofList [("x", .ofNat 3)]
    let inner : List Item := [.var "x", .operator .negation]
    let product : List Item := [.var "x", .var "x", .operator .multiplication]
    let unfinished : List Item := [.var "x", .operator .addition]
    evaluate inner bindings = .ok (Decimal.ofNat 3).negate ∧
      (evaluate (substitute "x" inner product) bindings =
          evaluate product (bindings.set "x" (Decimal.ofNat 3).negate) ∧
        (evaluate (substitute "x" inner product) bindings).toOption = some (.ofNat 9)) ∧
      evaluate (substitute "x" inner unfinished) bindings =
          evaluate unfinished (bindings.set "x" (Decimal.ofNat 3).negate) ∧
        evaluate (substitute "x" inner unfinished) bindings = .error (.missingOperands "+") := by
  intro bindings inner product unfinished
  have computed : evaluate inner bindings = .ok (Decimal.ofNat 3).negate := rfl
  exact ⟨computed, ⟨evaluate_substitute computed "x" product, by decide +kernel⟩,
    evaluate_substitute computed "x" unfinished, rfl⟩

end Formula
