import Formula.Program.Evaluation
import Formula.Proofs.Program.Stack

/-!
Programs run on plain lists of values. The run on the array-backed stack goes through the same
values and ends in the same way, so that what programs do can be told from the lists alone.
-/

set_option autoImplicit false

namespace Formula

def Item.count : Item → Nat
  | .number _ | .var _ => 0
  | .operator op => op.arity.count
  | .function f => f.argumentCount

def Item.rule? : Item → Option (Use × Rule)
  | .number _ | .var _ => none
  | .operator op => some (.operator op.symbol, op.apply)
  | .function f => some (.function f.name, f.apply)

/-- How a fault of a rule is reported: a failed computation as lying outside the domain of what was
applied, and any other fault as it is. -/
def Fault.reported (use : Use) (fault : Fault) : EvaluationError :=
  if fault.isComputational then .failed use fault else .raised fault

def Item.value (bindings : Bindings) (arguments : List Decimal) :
    Item → Except EvaluationError Decimal
  | .number value => .ok value
  | .var name => match bindings.get? name with
    | some value => .ok value
    | none => .error (.unset name)
  | .operator op => (op.apply arguments).mapError (Fault.reported (.operator op.symbol))
  | .function f => (f.apply arguments).mapError (Fault.reported (.function f.name))

theorem Item.value_of_rule? (bindings : Bindings) {i : Item} {use : Use} {rule : Rule}
    (applies : i.rule? = some (use, rule)) (arguments : List Decimal) :
    i.value bindings arguments = (rule arguments).mapError (Fault.reported use) := by
  cases i with
  | number value => cases applies
  | var name => cases applies
  | operator op => cases applies; rfl
  | function f => cases applies; rfl

theorem Item.eq_of_rule?_eq_none {i : Item} (noneApplied : i.rule? = none) :
    (∃ value, i = .number value) ∨ ∃ name, i = .var name := by
  cases i with
  | number value => exact .inl ⟨value, rfl⟩
  | var name => exact .inr ⟨name, rfl⟩
  | operator op => cases noneApplied
  | function f => cases noneApplied

/-- What an item reports that finds too few values. Numbers and variables take none. -/
def Item.shortage : Item → EvaluationError
  | .number _ | .var _ => .noValue
  | .operator op => .missingOperands op.symbol
  | .function f => .missingArguments f.name

section
variable (bindings : Bindings)

def stepOn (values : List Decimal) (i : Item) : Except EvaluationError (List Decimal) :=
  if values.length < i.count then .error i.shortage
  else (i.value bindings (values.take i.count).reverse).map (· :: values.drop i.count)

def runOn (values : List Decimal) (items : List Item) : Except EvaluationError (List Decimal) :=
  items.foldlM (stepOn bindings) values

def resultOn : List Decimal → Except EvaluationError Decimal
  | [] => .error .noValue
  | [value] => .ok value
  | _ :: _ :: _ => .error .leftover

/-- A run on a stack and a run on a list that stand at the same values or ended in the same way. -/
def Agrees : Except EvaluationError ValueStack → Except EvaluationError (List Decimal) → Prop
  | .ok s, .ok values => s.Holds values
  | .error error, .error error' => error = error'
  | _, _ => False

theorem applyToTop_agrees {s : ValueStack} {values : List Decimal} (holds : s.Holds values)
    (missing : EvaluationError) (use : Use) (count : Nat) (rule : Rule) :
    Agrees (applyToTop missing use count rule s)
      (if values.length < count then .error missing
        else ((rule (values.take count).reverse).mapError (Fault.reported use)).map
          (· :: values.drop count)) := by
  simp only [applyToTop, holds.size_eq]
  split
  · rfl
  · rename_i enough
    obtain ⟨below, popped, holds'⟩ := holds.popOnto (Nat.le_of_not_lt enough) []
    simp only [popped, List.append_nil, applyRule]
    cases rule (values.take count).reverse with
    | error fault => rfl
    | ok value => exact holds'.push value

theorem step_agrees {s : ValueStack} {values : List Decimal} (holds : s.Holds values) (i : Item) :
    Agrees (step bindings s i) (stepOn bindings values i) := by
  cases i with
  | number value => exact holds.push value
  | var name =>
    simp only [step, stepOn, Item.count, Item.value, Nat.not_lt_zero, if_false]
    cases bindings.get? name with
    | none => rfl
    | some value => exact holds.push value
  | operator op => exact applyToTop_agrees holds _ _ _ _
  | function f => exact applyToTop_agrees holds _ _ _ _

theorem run_agrees {s : ValueStack} {values : List Decimal} (holds : s.Holds values)
    (items : List Item) : Agrees (run bindings s items) (runOn bindings values items) := by
  induction items generalizing s values with
  | nil => exact holds
  | cons i items ih =>
    have first := step_agrees bindings holds i
    simp only [run, runOn, List.foldlM_cons] at ih ⊢
    revert first
    cases step bindings s i <;> cases stepOn bindings values i <;> intro first
    · exact first
    · exact first.elim
    · exact first.elim
    · exact ih first

theorem result_eq_resultOn {s : ValueStack} {values : List Decimal} (holds : s.Holds values) :
    result s = resultOn values := by
  simp only [result, holds.size_eq]
  match values with
  | [] => simp [holds.pop?_nil, resultOn]
  | [value] =>
    obtain ⟨s', popped, _⟩ := holds.pop?_cons
    simp [popped, resultOn]
  | _ :: _ :: _ => simp [resultOn]

/-- The value of a program is the one that it leaves on a list. -/
theorem evaluate_eq_runOn (items : List Item) :
    evaluate items bindings = runOn bindings [] items >>= resultOn := by
  have agrees := run_agrees bindings ValueStack.holds_empty items
  simp only [evaluate]
  revert agrees
  cases run bindings .empty items <;> cases runOn bindings [] items <;> intro agrees
  · exact congrArg Except.error agrees
  · exact agrees.elim
  · exact agrees.elim
  · exact result_eq_resultOn agrees

end

theorem run_of_runOn {bindings : Bindings} {items : List Item} {values : List Decimal}
    (runs : runOn bindings [] items = .ok values) :
    ∃ s : ValueStack, run bindings .empty items = .ok s ∧ s.Holds values := by
  have agrees := run_agrees bindings ValueStack.holds_empty items
  rw [runs] at agrees
  cases ran : run bindings .empty items with
  | error error => rw [ran] at agrees; exact agrees.elim
  | ok s => rw [ran] at agrees; exact ⟨s, rfl, agrees⟩

theorem runOn_of_run {bindings : Bindings} {items : List Item} {s : ValueStack}
    (ran : run bindings .empty items = .ok s) :
    ∃ values, runOn bindings [] items = .ok values ∧ s.Holds values := by
  have agrees := run_agrees bindings ValueStack.holds_empty items
  rw [ran] at agrees
  cases runs : runOn bindings [] items with
  | error error => rw [runs] at agrees; exact agrees.elim
  | ok values => rw [runs] at agrees; exact ⟨values, rfl, agrees⟩

@[simp] theorem runOn_cons (bindings : Bindings) (values : List Decimal) (i : Item)
    (items : List Item) :
    runOn bindings values (i :: items) =
      stepOn bindings values i >>= fun values' => runOn bindings values' items := by
  simp [runOn]

theorem runOn_append (bindings : Bindings) (values : List Decimal) (items items' : List Item) :
    runOn bindings values (items ++ items') =
      runOn bindings values items >>= fun values' => runOn bindings values' items' := by
  simp [runOn]

inductive Outcome (bindings : Bindings) (values : List Decimal) (i : Item) :
    Except EvaluationError (List Decimal) → Prop where
  | shortage (few : values.length < i.count) : Outcome bindings values i (.error i.shortage)
  | unset (name : String) (is : i = .var name) (unbound : bindings.get? name = none) :
      Outcome bindings values i (.error (.unset name))
  | raised (use : Use) (rule : Rule) (fault : Fault) (enough : i.count ≤ values.length)
      (applies : i.rule? = some (use, rule))
      (raises : rule (values.take i.count).reverse = .error fault) :
      Outcome bindings values i (.error (fault.reported use))
  | value (value : Decimal) (enough : i.count ≤ values.length)
      (computed : i.value bindings (values.take i.count).reverse = .ok value) :
      Outcome bindings values i (.ok (value :: values.drop i.count))

theorem stepOn_outcome (bindings : Bindings) (values : List Decimal) (i : Item) :
    Outcome bindings values i (stepOn bindings values i) := by
  unfold stepOn
  split
  · exact .shortage ‹_›
  · rename_i enough
    have enough := Nat.le_of_not_lt enough
    cases computed : i.value bindings (values.take i.count).reverse with
    | ok value => exact .value value enough computed
    | error error =>
      cases applies : i.rule? with
      | some applied =>
        obtain ⟨use, rule⟩ := applied
        rw [Item.value_of_rule? bindings applies] at computed
        cases raises : rule (values.take i.count).reverse with
        | ok value => rw [raises] at computed; cases computed
        | error fault =>
          rw [raises] at computed
          cases computed
          exact .raised use rule fault enough applies raises
      | none =>
        -- What applies no rule is a number, which has its value, or a variable.
        obtain ⟨value, rfl⟩ | ⟨name, rfl⟩ := Item.eq_of_rule?_eq_none applies
        · cases computed
        · simp only [Item.value] at computed
          split at computed
          · cases computed
          · cases computed
            exact .unset name rfl ‹_›

/-- An item takes the latest values, in the order in which they came. -/
theorem stepOn_reverse_append (bindings : Bindings) {i : Item} {arguments : List Decimal}
    (enough : arguments.length = i.count) (below : List Decimal) :
    stepOn bindings (arguments.reverse ++ below) i =
      (i.value bindings arguments).map (· :: below) := by
  have taken : i.count = arguments.reverse.length := by simp [enough]
  have room : ¬(arguments.reverse ++ below).length < i.count := by
    simp only [List.length_append, ← taken]
    omega
  rw [stepOn, if_neg room, taken, List.take_left, List.drop_left, List.reverse_reverse]

end Formula
