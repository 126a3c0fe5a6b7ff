import Formula.Proofs.Names

/-!
Values of variables that a program does not refer to do not matter. Two tables that agree on the
variables of a program take its run through the same values and its check through the same
complaints, up to the same end. So two expressions of one program that agree on its variables can
not be told apart by anything that is done with both of them later.
-/

set_option autoImplicit false

namespace Formula

/-- Each variable that the items refer to has the same value in both, or a value in neither. -/
def AgreeOn (items : List Item) (bindings bindings' : Bindings) : Prop :=
  ∀ name, .var name ∈ items → bindings.get? name = bindings'.get? name

section
variable {items : List Item} {i : Item} {bindings bindings' : Bindings}

theorem AgreeOn.mono {items' : List Item} (agree : AgreeOn items bindings bindings')
    (among : ∀ i ∈ items', i ∈ items) : AgreeOn items' bindings bindings' :=
  fun name member => agree name (among _ member)

theorem AgreeOn.head (agree : AgreeOn (i :: items) bindings bindings') :
    AgreeOn [i] bindings bindings' :=
  agree.mono fun _ member => List.mem_singleton.1 member ▸ List.mem_cons_self

theorem AgreeOn.tail (agree : AgreeOn (i :: items) bindings bindings') :
    AgreeOn items bindings bindings' :=
  agree.mono fun _ member => List.mem_cons_of_mem i member

theorem AgreeOn.set (agree : AgreeOn items bindings bindings') (name : String) (value : Decimal) :
    AgreeOn items (bindings.set name value) (bindings'.set name value) := by
  intro name' member
  rw [Bindings.get?_set, Bindings.get?_set, agree name' member]

/-! ### Running -/

theorem Item.value_congr (agree : AgreeOn [i] bindings bindings') (arguments : List Decimal) :
    i.value bindings arguments = i.value bindings' arguments := by
  cases i with
  | number value => rfl
  | var name => rw [value, value, agree name List.mem_cons_self]
  | operator op => rfl
  | function f => rfl

theorem stepOn_congr (agree : AgreeOn [i] bindings bindings') (values : List Decimal) :
    stepOn bindings values i = stepOn bindings' values i := by
  rw [stepOn, stepOn, Item.value_congr agree]

theorem runOn_congr (agree : AgreeOn items bindings bindings') (values : List Decimal) :
    runOn bindings values items = runOn bindings' values items := by
  induction items generalizing values with
  | nil => rfl
  | cons i items ih =>
    rw [runOn_cons, runOn_cons, stepOn_congr agree.head]
    cases stepOn bindings' values i with
    | error error => rfl
    | ok values' => exact ih agree.tail values'

theorem evaluate_congr (agree : AgreeOn items bindings bindings') :
    evaluate items bindings = evaluate items bindings' := by
  rw [evaluate_eq_runOn, evaluate_eq_runOn, runOn_congr agree]

/-! ### Checking -/

theorem countsAsBound_congr (agree : AgreeOn items bindings bindings') (checkVariables : Bool) :
    ∀ name, .var name ∈ items →
      countsAsBound bindings checkVariables name = countsAsBound bindings' checkVariables name := by
  intro name member
  rw [countsAsBound, countsAsBound, Bindings.contains, Bindings.contains, agree name member]

theorem Item.complaints_congr {isBound isBound' : String → Bool}
    (same : ∀ name, .var name ∈ [i] → isBound name = isBound' name) (depth : Int) :
    i.complaints isBound depth = i.complaints isBound' depth := by
  cases i with
  | number value => rfl
  | var name => rw [complaints, complaints, same name List.mem_cons_self]
  | operator op => rfl
  | function f => rfl

theorem inspect_congr {isBound isBound' : String → Bool}
    (same : ∀ name, .var name ∈ items → isBound name = isBound' name) (depth : Int) :
    inspect isBound depth items = inspect isBound' depth items := by
  induction items generalizing depth with
  | nil => rfl
  | cons i items ih =>
    have first := Item.complaints_congr (i := i) (fun name member =>
      same name (List.mem_singleton.1 member ▸ List.mem_cons_self)) depth
    have later := ih (fun name member => same name (List.mem_cons_of_mem i member))
      (i.depthBehind depth)
    rw [inspect, inspect, first, later]

theorem validate_congr (agree : AgreeOn items bindings bindings') (checkVariables : Bool) :
    validate items bindings checkVariables = validate items bindings' checkVariables := by
  rw [validate, validate, inspect_congr (countsAsBound_congr agree checkVariables)]

end

/-! ### Expressions -/

namespace Expression

structure Alike (e e' : Expression) : Prop extends SameProgram e e' where
  agree : ∀ name ∈ e.variableNames, e.bindings.get? name = e'.bindings.get? name

def Spares (e : Expression) : BindingStep → Prop
  | .set name _ => name ∉ e.variableNames
  | .setMany entries => ∀ entry ∈ entries, entry.1 ∉ e.variableNames
  | .clear => ∀ name ∈ e.variableNames, e.bindings.get? name = none
  | .copy => True

section
variable {e e' : Expression}

theorem Alike.agreeOn (alike : Alike e e') : AgreeOn e.items e.bindings e'.bindings :=
  fun name member => alike.agree name (mem_variableNames.2 member)

theorem Alike.evaluate_eq (alike : Alike e e') : e.evaluate = e'.evaluate := by
  rw [evaluate, evaluate, alike.items, evaluate_congr alike.agreeOn]

theorem Alike.validate_eq (alike : Alike e e') (checkVariables : Bool) :
    e.validate checkVariables = e'.validate checkVariables := by
  rw [validate, validate, alike.items, validate_congr alike.agreeOn]

theorem Alike.set (alike : Alike e e') (name : String) (value : Decimal) :
    Alike { e with bindings := e.bindings.set name value }
      { e' with bindings := e'.bindings.set name value } := by
  refine ⟨⟨alike.items, alike.functionNames⟩, fun name' member => ?_⟩
  exact alike.agreeOn.set name value name' (mem_variableNames.1 member)

/-- Whether a name can be bound, and to what, does not depend on what is bound. -/
theorem Alike.setVariable (alike : Alike e e') (name : String) (value : Datum) :
    (∃ error, e.setVariable name value = .error error ∧ e'.setVariable name value = .error error) ∨
      ∃ next next', e.setVariable name value = .ok next ∧ e'.setVariable name value = .ok next' ∧
        Alike next next' := by
  rw [Expression.setVariable, Expression.setVariable, alike.isFunctionName]
  split
  · exact .inl ⟨_, rfl, rfl⟩
  · cases value.toDecimal with
    | error error => exact .inl ⟨_, rfl, rfl⟩
    | ok number => exact .inr ⟨_, _, rfl, rfl, alike.set name number⟩

theorem Alike.setVariables (alike : Alike e e') (entries : List (String × Datum)) :
    Alike (e.setVariables entries).1 (e'.setVariables entries).1 := by
  induction entries generalizing e e' with
  | nil => exact alike
  | cons entry rest ih =>
    obtain ⟨name, value⟩ := entry
    rw [Expression.setVariables, Expression.setVariables]
    obtain ⟨error, failed, failed'⟩ | ⟨next, next', done, done', later⟩ :=
      alike.setVariable name value
    · rw [failed, failed']
      exact alike
    · rw [done, done']
      exact ih later

theorem Alike.perform (alike : Alike e e') (step : BindingStep) :
    Alike (e.perform step) (e'.perform step) := by
  cases step with
  | set name value => exact alike.setVariables _
  | setMany entries => exact alike.setVariables entries
  | clear => exact ⟨⟨alike.items, alike.functionNames⟩, fun _ _ => rfl⟩
  | copy => exact alike

theorem Alike.performAll (alike : Alike e e') (steps : List BindingStep) :
    Alike (e.performAll steps) (e'.performAll steps) := by
  induction steps generalizing e e' with
  | nil => exact alike
  | cons step steps ih => exact ih (alike.perform step)

/-! ### Steps that spare a program -/

theorem get?_of_setVariable {next : Expression} {name name' : String} {value : Datum}
    (done : e.setVariable name value = .ok next) (other : name' ≠ name) :
    next.bindings.get? name' = e.bindings.get? name' := by
  obtain ⟨number, -, rfl⟩ := setVariable_ok done
  rw [Bindings.get?_set, if_neg other]

theorem get?_setVariables {name : String} {entries : List (String × Datum)}
    (others : ∀ entry ∈ entries, name ≠ entry.1) :
    (e.setVariables entries).1.bindings.get? name = e.bindings.get? name := by
  induction entries generalizing e with
  | nil => rfl
  | cons entry rest ih =>
    rw [setVariables]
    split
    · rename_i next done
      rw [ih fun entry' member => others entry' (List.mem_cons_of_mem entry member)]
      exact get?_of_setVariable done (others entry List.mem_cons_self)
    · rfl

theorem Spares.alike {step : BindingStep} (spares : e.Spares step) : Alike e (e.perform step) := by
  refine ⟨sameProgram_perform e step, fun name refers => ?_⟩
  cases step with
  | set name' value =>
    refine (get?_setVariables fun entry member same => spares ?_).symm
    obtain rfl := List.mem_singleton.1 member
    obtain rfl : name = name' := same
    exact refers
  | setMany entries =>
    exact (get?_setVariables fun entry member same => spares entry member (same ▸ refers)).symm
  | clear => exact spares name refers
  | copy => rfl

end

end Expression

/-- Only the variables that a program refers to matter. Where two tables agree on these, the program
has the same value or fails in the same way with both, and gives rise to the same complaints. So two
histories of bindings that leave the variables of an expression with the same values can not be told
apart by evaluating or checking it, whatever is done afterwards; and a step that leaves them alone
can be left out of any history. -/
theorem evaluation_of_agreement :
    (∀ (items : List Item) (bindings bindings' : Bindings),
      (∀ name, .var name ∈ items → bindings.get? name = bindings'.get? name) →
        evaluate items bindings = evaluate items bindings' ∧
          ∀ checkVariables,
            validate items bindings checkVariables = validate items bindings' checkVariables) ∧
    ∀ e : Expression,
      (∀ history history' : List BindingStep,
        (∀ name ∈ e.variableNames, (e.performAll history).bindings.get? name =
          (e.performAll history').bindings.get? name) →
        ∀ after : List BindingStep,
          (e.performAll (history ++ after)).evaluate =
              (e.performAll (history' ++ after)).evaluate ∧
            ∀ checkVariables, (e.performAll (history ++ after)).validate checkVariables =
              (e.performAll (history' ++ after)).validate checkVariables) ∧
      ∀ (before after : List BindingStep) (step : BindingStep),
        (e.performAll before).Spares step →
          (e.performAll (before ++ step :: after)).evaluate =
              (e.performAll (before ++ after)).evaluate ∧
            ∀ checkVariables, (e.performAll (before ++ step :: after)).validate checkVariables =
              (e.performAll (before ++ after)).validate checkVariables := by
  refine ⟨fun items bindings bindings' agree => ⟨evaluate_congr agree, validate_congr agree⟩,
    fun e => ⟨fun history history' agree after => ?_, fun before after step spares => ?_⟩⟩
  · have same := Expression.sameProgram_performAll e history
    have same' := Expression.sameProgram_performAll e history'
    -- Behind the histories the expressions differ in variables only that the program does not refer
    -- to.
    have alike : Expression.Alike (e.performAll history) (e.performAll history') :=
      ⟨⟨same'.items.trans same.items.symm, same'.functionNames.trans same.functionNames.symm⟩,
        same.variableNames ▸ agree⟩
    rw [Expression.performAll_append, Expression.performAll_append]
    exact ⟨(alike.performAll after).evaluate_eq, (alike.performAll after).validate_eq⟩
  · rw [Expression.performAll_append, Expression.performAll_append]
    have alike := spares.alike.performAll after
    exact ⟨alike.evaluate_eq.symm, fun checkVariables => (alike.validate_eq checkVariables).symm⟩

def doubled : Expression :=
  .ofItems [.number (.ofNat 2), .var "x", .operator .multiplication] []

theorem evaluation_of_agreement_doubled :
    let set name value : BindingStep := .set name (.decimal (.ofNat value))
    (∀ name, .var name ∈ doubled.items →
      (constants.set "x" (.ofNat 3)).get? name = (Bindings.set {} "x" (.ofNat 3)).get? name) ∧
    evaluate doubled.items (constants.set "x" (.ofNat 3)) =
      evaluate doubled.items (Bindings.set {} "x" (.ofNat 3)) ∧
    (doubled.performAll [set "x" 3, .copy]).evaluate =
      (doubled.performAll [set "x" 5, .clear, set "y" 1, set "x" 3, .copy]).evaluate ∧
    (doubled.performAll [set "x" 3, set "pi" 7, .copy]).evaluate =
      (doubled.performAll [set "x" 3, .copy]).evaluate := by
  intro set
  obtain ⟨tables, histories⟩ := evaluation_of_agreement
  obtain ⟨rebound, spared⟩ := histories doubled
  have agree : ∀ name, .var name ∈ doubled.items →
      (constants.set "x" (.ofNat 3)).get? name = (Bindings.set {} "x" (.ofNat 3)).get? name := by
    intro name member
    have refers : name ∈ doubled.variableNames := Expression.mem_variableNames.2 member
    rw [Expression.variableNames, List.mem_mergeSort, List.mem_eraseDups] at refers
    obtain rfl : name = "x" := List.mem_singleton.1 refers
    decide
  have sameValues : ∀ name ∈ doubled.variableNames,
      (doubled.performAll [set "x" 3]).bindings.get? name =
        (doubled.performAll [set "x" 5, .clear, set "y" 1, set "x" 3]).bindings.get? name := by
    decide +kernel
  have spares : (doubled.performAll [set "x" 3]).Spares (set "pi" 7) := by
    change "pi" ∉ doubled.variableNames
    decide +kernel
  exact ⟨agree, (tables _ _ _ agree).1, (rebound _ _ sameValues [.copy]).1,
    (spared [set "x" 3] [.copy] _ spares).1⟩

end Formula
