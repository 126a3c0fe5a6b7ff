import Formula.Proofs.Builder
import Formula.Proofs.Program.Unset

/-!
Names from building to evaluation. What a program refers to as a variable has been declared or is a
constant, and no function is named alike; so it can be bound, at any time and on any copy, and once
all of it is bound nothing is missing when the program is checked or evaluated.
-/

set_option autoImplicit false

namespace Formula

/-! ### Builds -/

theorem Expression.mem_variableNames {e : Expression} {name : String} :
    name ∈ e.variableNames ↔ .var name ∈ e.items := by
  rw [variableNames, List.mem_mergeSort, List.mem_eraseDups, occurrences, List.mem_filterMap]
  constructor
  · rintro ⟨i, member, found⟩
    cases i <;> cases found
    exact member
  · intro member
    exact ⟨_, member, rfl⟩

namespace Builder

variable {b : Builder} {e : Expression}

theorem mem_fullLexicon {name : String} : name ∈ b.fullLexicon.variableNames ↔
    name ∈ b.lexicon.variableNames ∨ name ∈ constants.names := by
  rw [fullLexicon, List.mem_eraseDups, List.mem_append]

theorem function?_of_build (built : b.build.outcome = .ok e) {name : String}
    (declared : name ∈ b.fullLexicon.variableNames) : b.fullLexicon.function? name = none := by
  have noClash := (build_inversion built).2.1
  rw [nameClash?, List.find?_eq_none] at noClash
  simpa using noClash name (mem_sortNames.2 declared)

theorem not_function_of_build (built : b.build.outcome = .ok e) {name : String}
    (declared : name ∈ b.fullLexicon.variableNames) :
    name ∉ b.functionNames ∧ Function.standard? name = none := by
  have apart := function?_of_build built declared
  rw [Lexicon.function?, Option.or_eq_none_iff, Lexicon.ownFunction?_eq_none_iff] at apart
  refine ⟨fun member => ?_, apart.2⟩
  obtain ⟨f, among, rfl⟩ := List.mem_map.1 member
  exact apart.1 f among rfl

theorem declared_of_build (built : b.build.outcome = .ok e) {name : String}
    (refers : name ∈ e.variableNames) : name ∈ b.fullLexicon.variableNames := by
  obtain ⟨items, converted, rfl⟩ := build_ok built
  exact known_of_toPostfix converted (.var name) (Expression.mem_variableNames.1 refers)

end Builder

/-! ### Binding -/

/-- What may be done with an expression besides asking for its value. -/
inductive BindingStep where
  | set (name : String) (value : Datum)
  | setMany (entries : List (String × Datum))
  | clear
  | copy

namespace Expression

/-- The expression behind a step; behind a copy, the copy. A binding that fails changes nothing. -/
def perform (e : Expression) : BindingStep → Expression
  | .set name value => (e.setVariables [(name, value)]).1
  | .setMany entries => (e.setVariables entries).1
  | .clear => e.clearVariables
  | .copy => e

def performAll (e : Expression) (steps : List BindingStep) : Expression := steps.foldl perform e

theorem performAll_append (e : Expression) (steps more : List BindingStep) :
    e.performAll (steps ++ more) = (e.performAll steps).performAll more := List.foldl_append

/-- The names that are bound in turn, up to the first that can not be. -/
def namesSet (e : Expression) : List (String × Datum) → List String
  | [] => []
  | (name, value) :: rest =>
    match e.setVariable name value with
    | .ok e' => name :: namesSet e' rest
    | .error _ => []

/-- The names bound since all were cleared last, the given ones being bound at the start. -/
def boundSince (e : Expression) (bound : List String) : List BindingStep → List String
  | [] => bound
  | .set name value :: steps =>
    boundSince (e.perform (.set name value)) (e.namesSet [(name, value)] ++ bound) steps
  | .setMany entries :: steps =>
    boundSince (e.perform (.setMany entries)) (e.namesSet entries ++ bound) steps
  | .clear :: steps => boundSince e.clearVariables [] steps
  | .copy :: steps => boundSince e bound steps

/-! What binding one variable and removing all values keep is kept by every step. -/

section
variable {motive : Expression → Prop}
  (set : ∀ {e e' : Expression} {name : String} {value : Datum},
    motive e → e.setVariable name value = .ok e' → motive e')
  (clear : ∀ {e : Expression}, motive e → motive e.clearVariables)
include set

theorem setVariables_induction {e : Expression} (start : motive e)
    (entries : List (String × Datum)) : motive (e.setVariables entries).1 := by
  induction entries generalizing e with
  | nil => exact start
  | cons entry rest ih =>
    rw [setVariables]
    split
    · rename_i e' done
      exact ih (set start done)
    · exact start

include clear

theorem perform_induction {e : Expression} (start : motive e) (step : BindingStep) :
    motive (e.perform step) := by
  cases step with
  | set name value => exact setVariables_induction set start _
  | setMany entries => exact setVariables_induction set start entries
  | clear => exact clear start
  | copy => exact start

theorem performAll_induction {e : Expression} (start : motive e) (steps : List BindingStep) :
    motive (e.performAll steps) := by
  induction steps generalizing e with
  | nil => exact start
  | cons step steps ih => exact ih (perform_induction set clear start step)

end

section
variable {e e' : Expression} {name : String}

/-- Nothing but the bindings of an expression ever changes. -/
structure SameProgram (e e' : Expression) : Prop where
  items : e'.items = e.items
  functionNames : e'.functionNames = e.functionNames

theorem SameProgram.refl (e : Expression) : SameProgram e e := ⟨rfl, rfl⟩

inductive Refuses (e : Expression) (name : String) (value : Datum) : BindError → Prop where
  | functionName (taken : e.isFunctionName name = true) : Refuses e name value (.functionName name)
  | value {error : DatumError} (free : e.isFunctionName name = false)
      (noNumber : value.toDecimal = .error error) : Refuses e name value (.value error)

theorem setVariable_cases (e : Expression) (name : String) (value : Datum) :
    (∃ number, e.isFunctionName name = false ∧ value.toDecimal = .ok number ∧
        e.setVariable name value = .ok { e with bindings := e.bindings.set name number }) ∨
      ∃ error, e.Refuses name value error ∧ e.setVariable name value = .error error := by
  unfold setVariable
  cases taken : e.isFunctionName name with
  | true => exact .inr ⟨_, .functionName taken, rfl⟩
  | false =>
    cases converted : value.toDecimal with
    | ok number => exact .inl ⟨number, rfl, rfl, rfl⟩
    | error error => exact .inr ⟨_, .value taken converted, rfl⟩

theorem setVariable_ok {value : Datum} (done : e.setVariable name value = .ok e') :
    ∃ number, e.isFunctionName name = false ∧
      e' = { e with bindings := e.bindings.set name number } := by
  obtain ⟨number, free, -, step⟩ | ⟨error, -, step⟩ := setVariable_cases e name value
  · exact ⟨number, free, Except.ok.inj (done.symm.trans step)⟩
  · cases done.symm.trans step

theorem SameProgram.variableNames (same : SameProgram e e') :
    e'.variableNames = e.variableNames := by
  rw [Expression.variableNames, Expression.variableNames, same.items]

theorem SameProgram.isFunctionName (same : SameProgram e e') (name : String) :
    e'.isFunctionName name = e.isFunctionName name := by
  rw [Expression.isFunctionName, Expression.isFunctionName, same.functionNames]

theorem isFunctionName_eq_false_iff :
    e.isFunctionName name = false ↔ name ∉ e.functionNames ∧ Function.standard? name = none := by
  rw [isFunctionName, Bool.or_eq_false_iff, Bool.eq_false_iff, ne_eq, List.contains_iff_mem,
    Option.isSome_eq_false_iff, Option.isNone_iff_eq_none]

theorem SameProgram.setVariable {e'' : Expression} {value : Datum} (same : SameProgram e e')
    (done : e'.setVariable name value = .ok e'') : SameProgram e e'' := by
  obtain ⟨number, -, rfl⟩ := setVariable_ok done
  exact ⟨same.items, same.functionNames⟩

theorem sameProgram_perform (e : Expression) (step : BindingStep) :
    SameProgram e (e.perform step) :=
  perform_induction .setVariable (fun same => ⟨same.items, same.functionNames⟩) (.refl e) step

theorem sameProgram_performAll (e : Expression) (steps : List BindingStep) :
    SameProgram e (e.performAll steps) :=
  performAll_induction .setVariable (fun same => ⟨same.items, same.functionNames⟩) (.refl e) steps

theorem setVariable_decimal (e : Expression) (free : e.isFunctionName name = false)
    (value : Decimal) : ∃ e', e.setVariable name (.decimal value) = .ok e' ∧
      e'.bindings.get? name = some value := by
  refine ⟨{ e with bindings := e.bindings.set name value }, ?_, ?_⟩
  · rw [setVariable, free, if_neg Bool.false_ne_true]
    rfl
  · rw [Bindings.get?_set, if_pos rfl]

/-! ### What is bound -/

def Binds (e : Expression) (bound : List String) : Prop :=
  ∀ name ∈ bound, (e.bindings.get? name).isSome = true

theorem binds_set {bound : List String} (binds : e.Binds bound) (name : String)
    (number : Decimal) :
    Binds { e with bindings := e.bindings.set name number } (name :: bound) := by
  intro name' member
  rw [Bindings.get?_set]
  by_cases same : name' = name
  · rw [if_pos same]
    rfl
  · rw [if_neg same]
    exact binds name' ((List.mem_cons.1 member).resolve_left same)

theorem binds_setVariables {bound : List String} (binds : e.Binds bound)
    (entries : List (String × Datum)) :
    (e.setVariables entries).1.Binds (e.namesSet entries ++ bound) := by
  induction entries generalizing e bound with
  | nil => exact binds
  | cons entry rest ih =>
    obtain ⟨name, value⟩ := entry
    cases done : e.setVariable name value with
    | error error =>
      simp only [setVariables, namesSet, done]
      exact binds
    | ok e' =>
      obtain ⟨number, -, rfl⟩ := setVariable_ok done
      simp only [setVariables, namesSet, done]
      intro name' member
      refine ih (binds_set binds name number) name' ?_
      simp only [List.cons_append, List.mem_cons, List.mem_append] at member ⊢
      exact or_left_comm.1 member

theorem binds_performAll {bound : List String} (binds : e.Binds bound)
    (steps : List BindingStep) : (e.performAll steps).Binds (e.boundSince bound steps) := by
  induction steps generalizing e bound with
  | nil => exact binds
  | cons step steps ih =>
    cases step with
    | set name value => exact ih (binds_setVariables binds _)
    | setMany entries => exact ih (binds_setVariables binds entries)
    | clear => exact ih nofun
    | copy => exact ih binds

theorem binds_ofItems (items : List Item) (functionNames : List String) :
    (ofItems items functionNames).Binds constants.names := by
  change ∀ name ∈ constants.names, (constants.get? name).isSome = true
  decide

end

end Expression

namespace Builder

variable {b : Builder} {e : Expression}

theorem free_of_build (built : b.build.outcome = .ok e) {name : String}
    (declared : name ∈ b.fullLexicon.variableNames) : e.isFunctionName name = false := by
  have apart := not_function_of_build built declared
  obtain ⟨items, _, rfl⟩ := build_ok built
  exact Expression.isFunctionName_eq_false_iff.2 apart

theorem bound_of_build (built : b.build.outcome = .ok e) (steps : List BindingStep) :
    (e.performAll steps).Binds (e.boundSince constants.names steps) := by
  obtain ⟨items, _, rfl⟩ := build_ok built
  exact Expression.binds_performAll (Expression.binds_ofItems items b.functionNames) steps

end Builder

/-! ### Names and runs -/

/-- Whatever is built, its program refers to declared variables and constants only, none of them
named like a function. Whatever has been bound and cleared since, each declared name and each name
that the program refers to can be bound to any number; and once all that the program refers to is
bound, neither checking nor evaluating it misses a variable. The constants are bound at the start. -/
theorem names_of_build {b : Builder} {e : Expression} (built : b.build.outcome = .ok e) :
    (∀ name ∈ e.variableNames,
      (name ∈ b.lexicon.variableNames ∨ name ∈ constants.names) ∧
        name ∉ b.functionNames ∧ Function.standard? name = none) ∧
    ∀ steps : List BindingStep,
      (∀ name, name ∈ b.lexicon.variableNames ∨ name ∈ (e.performAll steps).variableNames →
        ∀ value, ∃ e', (e.performAll steps).setVariable name (.decimal value) = .ok e' ∧
          e'.bindings.get? name = some value) ∧
      ((∀ name ∈ (e.performAll steps).variableNames, name ∈ e.boundSince constants.names steps) →
        ∀ name, (∀ checkVariables, .unset name ∉ (e.performAll steps).validate checkVariables) ∧
          (e.performAll steps).evaluate ≠ .error (.unset name)) := by
  refine ⟨fun name refers => ?_, fun steps => ?_⟩
  · have declared := Builder.declared_of_build built refers
    exact ⟨Builder.mem_fullLexicon.1 declared, Builder.not_function_of_build built declared⟩
  have same := Expression.sameProgram_performAll e steps
  refine ⟨fun name known value => ?_, fun allBound name => ?_⟩
  · have declared : name ∈ b.fullLexicon.variableNames := by
      rcases known with declared | refers
      · exact Builder.mem_fullLexicon.2 (.inl declared)
      · rw [same.variableNames] at refers
        exact Builder.declared_of_build built refers
    refine (e.performAll steps).setVariable_decimal ?_ value
    rw [same.isFunctionName, Builder.free_of_build built declared]
  -- A complaint and an error alike name a variable of the program that has no value.
  · have notUnset (missing : .var name ∈ (e.performAll steps).items ∧
        (e.performAll steps).bindings.get? name = none) : False := by
      have bound := Builder.bound_of_build built steps name
        (allBound name (Expression.mem_variableNames.2 missing.1))
      rw [missing.2] at bound
      cases bound
    exact ⟨fun checkVariables complains => notUnset (unset_of_validate complains),
      fun failed => notUnset (unset_of_evaluate failed)⟩

def halfSineBuilder : Builder where
  text := "2pi x + half(sin(x))"
  lexicon := {
    variableNames := ["x"]
    functions := [{
      name := "half"
      argumentCount := 1
      apply := Rule.unary fun argument => Rule.lift (argument.divide (.ofNat 2)) }] }

theorem halfSineBuilder_build : ∃ items,
    halfSineBuilder.build.outcome = .ok (.ofItems items halfSineBuilder.functionNames) ∧
    formatItems items = "2 pi * x * x sin half +" ∧
    Expression.occurrences items = ["pi", "x", "x"] := by
  have facts : (toPostfix halfSineBuilder.fullLexicon halfSineBuilder.text).toOption.map
      (fun items => (formatItems items, Expression.occurrences items)) =
        some ("2 pi * x * x sin half +", ["pi", "x", "x"]) := by decide +kernel
  obtain ⟨items, converted, facts⟩ := ok_of_toOption facts
  obtain ⟨formatted, refers⟩ := Prod.mk.inj facts
  have built := Builder.build_of_toPostfix (by decide +kernel) (by decide +kernel) converted
  exact ⟨items, built, formatted, refers⟩

theorem names_of_build_halfSine :
    let steps : List BindingStep :=
      [.set "x" (.decimal (.ofNat 1)), .clear, .copy,
        .setMany [("pi", .decimal (.ofNat 3)), ("x", .decimal (.ofNat 2))]]
    ∃ e, halfSineBuilder.build.outcome = .ok e ∧ formatItems e.items = "2 pi * x * x sin half +" ∧
      (∀ name ∈ e.variableNames, Function.standard? name = none) ∧
      (∀ value, ∃ e', (e.performAll steps).setVariable "x" (.decimal value) = .ok e' ∧
        e'.bindings.get? "x" = some value) ∧
      ∀ name, (e.performAll steps).evaluate ≠ .error (.unset name) := by
  intro steps
  obtain ⟨items, built, formatted, occurring⟩ := halfSineBuilder_build
  obtain ⟨declared, reached⟩ := names_of_build built
  obtain ⟨settable, complete⟩ := reached steps
  refine ⟨_, built, formatted, fun name refers => (declared name refers).2.2,
    settable "x" (.inl (by decide)), fun name => (complete ?_ name).2⟩
  have bound : (Expression.ofItems items halfSineBuilder.functionNames).boundSince constants.names
    steps = ["pi", "x"] := rfl
  intro name refers
  rw [(Expression.sameProgram_performAll _ steps).variableNames, Expression.variableNames,
    List.mem_mergeSort, List.mem_eraseDups] at refers
  replace refers : name ∈ Expression.occurrences items := refers
  rw [occurring] at refers
  rw [bound]
  simpa using refers

end Formula
