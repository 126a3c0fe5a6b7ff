import Mathlib.Data.List.Permutation
import Formula.Proofs.Builder.Warnings
import Formula.Proofs.Lexicon
import Formula.Proofs.Names

/-!
The order in which a builder is told what a formula may use. As long as nothing that is told replaces
something told before, the order makes no difference: the same notices are given, and what is built
is the same but for the order of its function names.
-/

set_option autoImplicit false

namespace Formula

/-! ### Telling a builder -/

inductive BuilderStep where
  | addFunctions (functions : List Function)
  | addOperators (operators : List Operator)
  | addVariables (names : List String)
  | implyProducts (enabled : Bool)
  | setPolicy (policy : Option WarningPolicy)

inductive Setting where
  | addFunction (f : Function)
  | addOperator (op : Operator)
  | addVariable (name : String)
  | implyProducts (enabled : Bool)
  | setPolicy (policy : Option WarningPolicy)

/-- What a setting is about, where a later setting about the same would replace it. -/
inductive Subject where
  | function (name : String)
  | operator (symbol : String)
  | impliedProducts
  | policy
  deriving DecidableEq

def BuilderStep.settings : BuilderStep → List Setting
  | addFunctions functions => functions.map .addFunction
  | addOperators operators => operators.map .addOperator
  | addVariables names => names.map .addVariable
  | implyProducts enabled => [.implyProducts enabled]
  | setPolicy policy => [.setPolicy policy]

def Setting.subject? : Setting → Option Subject
  | addFunction f => some (.function f.name)
  | addOperator op => some (.operator op.symbol)
  | addVariable _ => none
  | implyProducts _ => some .impliedProducts
  | setPolicy _ => some .policy

namespace Builder

def perform (b : Builder) : BuilderStep → Builder
  | .addFunctions functions => b.addFunctions functions
  | .addOperators operators => b.addOperators operators
  | .addVariables names => b.addVariables names
  | .implyProducts enabled => b.implyProducts enabled
  | .setPolicy policy => b.setPolicy policy

def performAll (b : Builder) (steps : List BuilderStep) : Builder := steps.foldl perform b

def settle (b : Builder) : Setting → Builder
  | .addFunction f => { b with lexicon := b.lexicon.addFunction f }
  | .addOperator op => { b with lexicon := b.lexicon.addOperator op }
  | .addVariable name => { b with lexicon := b.lexicon.addVariable name }
  | .implyProducts enabled => b.implyProducts enabled
  | .setPolicy policy => b.setPolicy policy

def settleAll (b : Builder) (settings : List Setting) : Builder := settings.foldl settle b

theorem settleAll_append (b : Builder) (settings settings' : List Setting) :
    b.settleAll (settings ++ settings') = (b.settleAll settings).settleAll settings' :=
  List.foldl_append

theorem settleAll_map {α : Type} {add : Lexicon → α → Lexicon} {setting : α → Setting}
    (settled : ∀ (b : Builder) x, b.settle (setting x) = { b with lexicon := add b.lexicon x })
    (b : Builder) (entries : List α) :
    b.settleAll (entries.map setting) = { b with lexicon := entries.foldl add b.lexicon } := by
  induction entries generalizing b with
  | nil => rfl
  | cons x entries ih =>
    have first := ih (b.settle (setting x))
    rw [settled] at first
    rw [List.map_cons, settleAll, List.foldl_cons, settled]
    exact first

theorem perform_eq (b : Builder) (step : BuilderStep) :
    b.perform step = b.settleAll step.settings := by
  cases step with
  | addFunctions functions => exact (settleAll_map (fun _ _ => rfl) b functions).symm
  | addOperators operators => exact (settleAll_map (fun _ _ => rfl) b operators).symm
  | addVariables names => exact (settleAll_map (fun _ _ => rfl) b names).symm
  | implyProducts enabled => rfl
  | setPolicy policy => rfl

theorem performAll_eq (b : Builder) (steps : List BuilderStep) :
    b.performAll steps = b.settleAll (steps.flatMap BuilderStep.settings) := by
  induction steps generalizing b with
  | nil => rfl
  | cons step steps ih =>
    rw [List.flatMap_cons, settleAll_append, ← perform_eq]
    exact ih (b.perform step)

/-! ### Settings in another order -/

/-- Builders that differ in the order of the entries of their lexicons at most. -/
structure SameUpToOrder (b b' : Builder) : Prop where
  text : b'.text = b.text
  lexicon : b.lexicon.SameEntries b'.lexicon
  policy : b'.policy = b.policy

section
variable {b b' b'' : Builder}

theorem SameUpToOrder.refl (b : Builder) : SameUpToOrder b b := ⟨rfl, .refl _, rfl⟩

theorem SameUpToOrder.trans (first : SameUpToOrder b b') (second : SameUpToOrder b' b'') :
    SameUpToOrder b b'' :=
  ⟨second.text.trans first.text, first.lexicon.trans second.lexicon,
    second.policy.trans first.policy⟩

theorem addVariable_eq (lexicon : Lexicon) (name : String) :
    lexicon.addVariable name =
      { lexicon with variableNames := lexicon.variableNames.insert name } := by
  unfold Lexicon.addVariable List.insert
  rw [← List.elem_eq_contains]
  split <;> rfl

theorem SameUpToOrder.settle (same : SameUpToOrder b b') (setting : Setting) :
    SameUpToOrder (b.settle setting) (b'.settle setting) := by
  obtain ⟨text, ⟨functions, operators, variableNames, impliedProducts⟩, policy⟩ := same
  cases setting with
  | addFunction f =>
    exact ⟨text, ⟨Lexicon.put_perm functions f, operators, variableNames, impliedProducts⟩, policy⟩
  | addOperator op =>
    exact ⟨text, ⟨functions, Lexicon.put_perm operators op, variableNames, impliedProducts⟩, policy⟩
  | addVariable name =>
    simp only [Builder.settle, addVariable_eq]
    exact ⟨text, ⟨functions, operators, variableNames.insert name, impliedProducts⟩, policy⟩
  | implyProducts enabled => exact ⟨text, ⟨functions, operators, variableNames, rfl⟩, policy⟩
  | setPolicy policy' => exact ⟨text, ⟨functions, operators, variableNames, impliedProducts⟩, rfl⟩

theorem SameUpToOrder.settleAll (same : SameUpToOrder b b') (settings : List Setting) :
    SameUpToOrder (b.settleAll settings) (b'.settleAll settings) := by
  induction settings generalizing b b' with
  | nil => exact same
  | cons setting settings ih => exact ih (same.settle setting)

theorem settle_comm (b : Builder) {setting setting' : Setting}
    (apart : ∀ subject ∈ setting.subject?, subject ∉ setting'.subject?) :
    SameUpToOrder ((b.settle setting).settle setting') ((b.settle setting').settle setting) := by
  -- Settings of different kinds touch different parts of the builder.
  cases setting <;> cases setting' <;> simp only [Builder.settle, addVariable_eq] <;>
    try exact .refl _
  case addFunction.addFunction f g =>
    have apart' : g.name ≠ f.name := fun same => apart _ rfl (same ▸ rfl)
    exact ⟨rfl, ⟨Lexicon.put_comm apart' _, .refl _, .refl _, rfl⟩, rfl⟩
  case addOperator.addOperator op op' =>
    have apart' : op'.symbol ≠ op.symbol := fun same => apart _ rfl (same ▸ rfl)
    exact ⟨rfl, ⟨.refl _, Lexicon.put_comm apart' _, .refl _, rfl⟩, rfl⟩
  case addVariable.addVariable name name' =>
    exact ⟨rfl, ⟨.refl _, .refl _, List.perm_insert_swap _ _ _, rfl⟩, rfl⟩
  case implyProducts.implyProducts => exact absurd rfl (apart _ rfl)
  case setPolicy.setPolicy => exact absurd rfl (apart _ rfl)

end

/-- Settings of which no two are about the same subject may be told in any order. -/
theorem settleAll_perm (b : Builder) {settings settings' : List Setting}
    (reordered : settings'.Perm settings) (single : (settings'.filterMap Setting.subject?).Nodup) :
    SameUpToOrder (b.settleAll settings) (b.settleAll settings') := by
  induction reordered generalizing b with
  | nil => exact .refl b
  | cons setting _ ih =>
    exact ih (b.settle setting) (single.sublist ((List.sublist_cons_self _ _).filterMap _))
  | swap setting setting' settings =>
    -- A subject of both settings would be there twice.
    refine (settle_comm b fun subject found found' => ?_).settleAll settings
    rw [List.filterMap_cons_some found', List.filterMap_cons_some found] at single
    exact (List.nodup_cons.1 single).1 List.mem_cons_self
  | trans first _ ih ih' =>
    exact (ih' b ((first.filterMap _).nodup_iff.1 single)).trans (ih b single)

theorem distinct_settle {b : Builder} (distinct : b.lexicon.Distinct) (setting : Setting) :
    (b.settle setting).lexicon.Distinct := by
  cases setting with
  | addFunction f => exact ⟨Lexicon.nodup_put distinct.functions f, distinct.operators⟩
  | addOperator op => exact ⟨distinct.functions, Lexicon.nodup_put distinct.operators op⟩
  | addVariable name =>
    simp only [settle, addVariable_eq]
    exact ⟨distinct.functions, distinct.operators⟩
  | implyProducts enabled => exact ⟨distinct.functions, distinct.operators⟩
  | setPolicy policy => exact distinct

theorem distinct_settleAll {b : Builder} (distinct : b.lexicon.Distinct)
    (settings : List Setting) : (b.settleAll settings).lexicon.Distinct := by
  induction settings generalizing b with
  | nil => exact distinct
  | cons setting settings ih => exact ih (distinct_settle distinct setting)

/-! ### Building -/

section
variable {b b' : Builder}

theorem SameUpToOrder.functionNames (same : SameUpToOrder b b') :
    b'.functionNames.Perm b.functionNames := same.lexicon.functions.map _

theorem SameUpToOrder.warnings (same : SameUpToOrder b b') : b'.warnings = b.warnings := by
  rw [Builder.warnings, Builder.warnings, sortNames_perm same.functionNames,
    sortNames_perm (same.lexicon.operators.map _), sortNames_perm same.lexicon.variableNames]

theorem SameUpToOrder.fullLexicon (same : SameUpToOrder b b') :
    b.fullLexicon.SameEntries b'.fullLexicon where
  functions := same.lexicon.functions
  operators := same.lexicon.operators
  impliedProducts := same.lexicon.impliedProducts
  variableNames := by
    refine (List.perm_ext_iff_of_nodup (nodup_eraseDups _) (nodup_eraseDups _)).2 fun name => ?_
    rw [List.mem_eraseDups, List.mem_eraseDups,
      (same.lexicon.variableNames.append_right _).mem_iff]

/-- The order of entries shows in nothing but the order of an expression's function names. -/
theorem SameUpToOrder.build (same : SameUpToOrder b b') (distinct : b'.lexicon.Distinct) :
    b'.build = {
      notices := b.build.notices
      outcome := b.build.outcome.map fun e => { e with functionNames := b'.functionNames } } := by
  have full := same.fullLexicon
  have distinct' : b'.fullLexicon.Distinct := ⟨distinct.functions, distinct.operators⟩
  -- Names are sorted before one is looked for that is a function's, so the same one is found.
  have clash : nameClash? b'.fullLexicon = nameClash? b.fullLexicon := by
    rw [nameClash?, nameClash?, sortNames_perm full.variableNames, full.function?_eq distinct']
  simp only [Builder.build, same.warnings, same.policy, same.text, clash,
    (full.alike distinct').toPostfix, full.functions.length_eq, full.operators.length_eq,
    full.variableNames.length_eq]
  cases (applyPolicy b.policy b.warnings).2 with
  | some w => rfl
  | none =>
    cases nameClash? b.fullLexicon with
    | some name => rfl
    | none => cases toPostfix b.fullLexicon b.text <;> rfl

end

end Builder

/-! ### Binding -/

namespace Expression

section
variable {e : Expression} {names : List String} (reordered : names.Perm e.functionNames)
include reordered

theorem setVariable_reordered (name : String) (value : Datum) :
    { e with functionNames := names }.setVariable name value =
      (e.setVariable name value).map fun e' => { e' with functionNames := names } := by
  have forbidden :
      { e with functionNames := names }.isFunctionName name = e.isFunctionName name := by
    rw [isFunctionName, isFunctionName, reordered.contains_eq]
  rw [setVariable, setVariable, forbidden]
  split
  · rfl
  · cases value.toDecimal <;> rfl

theorem setVariables_reordered (entries : List (String × Datum)) :
    { e with functionNames := names }.setVariables entries =
      ({ (e.setVariables entries).1 with functionNames := names }, (e.setVariables entries).2) := by
  induction entries generalizing e with
  | nil => rfl
  | cons entry rest ih =>
    rw [setVariables, setVariables, setVariable_reordered reordered]
    cases done : e.setVariable entry.1 entry.2 with
    | error error => rfl
    | ok e' =>
      obtain ⟨number, -, rfl⟩ := setVariable_ok done
      exact ih reordered

theorem performAll_reordered (steps : List BindingStep) :
    { e with functionNames := names }.performAll steps =
      { e.performAll steps with functionNames := names } := by
  induction steps generalizing e with
  | nil => rfl
  | cons step steps ih =>
    have first : { e with functionNames := names }.perform step =
        { e.perform step with functionNames := names } := by
      cases step with
      | set name value => exact congrArg Prod.fst (setVariables_reordered reordered _)
      | setMany entries => exact congrArg Prod.fst (setVariables_reordered reordered entries)
      | clear => rfl
      | copy => rfl
    have reordered' : names.Perm (e.perform step).functionNames :=
      (sameProgram_perform e step).functionNames ▸ reordered
    rw [performAll, performAll, List.foldl_cons, List.foldl_cons, first]
    exact ih reordered'

end

end Expression

/-- If two lists of steps tell a builder the same in different orders or groups, each function,
operator and option once, the same notices are given in building, and either the same error occurs
or expressions of the same program are built in which any variable can be bound to the same effect,
whatever has been bound before. -/
theorem build_reordered {text : String} {b : Builder} (fresh : Builder.create? text = some b)
    {steps steps' : List BuilderStep}
    (reordered :
      (steps'.flatMap BuilderStep.settings).Perm (steps.flatMap BuilderStep.settings))
    (single : ((steps.flatMap BuilderStep.settings).filterMap Setting.subject?).Nodup) :
    (b.performAll steps').build.notices = (b.performAll steps).build.notices ∧
    match (b.performAll steps).build.outcome, (b.performAll steps').build.outcome with
    | .ok e, .ok e' =>
      e'.items = e.items ∧ ∀ (before : List BindingStep) (name : String) (value : Datum),
        ((e'.performAll before).setVariable name value).map (·.bindings) =
          ((e.performAll before).setVariable name value).map (·.bindings)
    | .error error, .error error' => error' = error
    | _, _ => False := by
  have distinct : b.lexicon.Distinct := by
    unfold Builder.create? at fresh
    split at fresh
    · cases fresh
    · cases fresh
      exact ⟨List.nodup_nil, List.nodup_nil⟩
  have same := Builder.settleAll_perm b reordered ((reordered.filterMap _).nodup_iff.2 single)
  have built := same.build (Builder.distinct_settleAll distinct _)
  have names := same.functionNames
  rw [← Builder.performAll_eq, ← Builder.performAll_eq] at built names
  rw [built]
  refine ⟨rfl, ?_⟩
  cases outcome : (b.performAll steps).build.outcome with
  | error error => rfl
  | ok e =>
    refine ⟨rfl, fun before name value => ?_⟩
    -- The expressions list the same function names, in different orders.
    have known : e.functionNames = (b.performAll steps).functionNames := by
      obtain ⟨items, _, rfl⟩ := Builder.build_ok outcome
      rfl
    rw [← known] at names
    rw [Expression.performAll_reordered names, Expression.setVariable_reordered
      ((Expression.sameProgram_performAll e before).functionNames ▸ names)]
    cases (e.performAll before).setVariable name value <;> rfl

def halfAndSine : List Function := [
  { name := "half"
    argumentCount := 1
    apply := Rule.unary fun argument => Rule.lift (argument.divide (.ofNat 2))
    nameValid := Eq.refl true },
  { name := "sin", argumentCount := 1, apply := Rule.unary .ok, nameValid := Eq.refl true }]

/-- Functions and variables told in reverse, the variables one by one. -/
theorem build_reordered_halfAndSine :
    let steps : List BuilderStep := [.addFunctions halfAndSine, .addVariables ["x", "pi"]]
    let steps' : List BuilderStep :=
      [.addVariables ["pi"], .addVariables ["x"], .addFunctions halfAndSine.reverse]
    ∃ b, Builder.create? "half(x) + sin(pi)" = some b ∧
      (steps'.flatMap BuilderStep.settings).Perm (steps.flatMap BuilderStep.settings) ∧
      ((steps.flatMap BuilderStep.settings).filterMap Setting.subject?).Nodup ∧
      (b.performAll steps').build.notices = (b.performAll steps).build.notices ∧
      (b.performAll steps).build.warnings = [⟨"W01", "sin"⟩, ⟨"W03", "pi"⟩] := by
  intro steps steps'
  have fresh : Builder.create? "half(x) + sin(pi)" = some { text := "half(x) + sin(pi)" } :=
    if_neg (by decide +kernel)
  have reordered :
      (steps'.flatMap BuilderStep.settings).Perm (steps.flatMap BuilderStep.settings) :=
    List.reverse_perm (steps.flatMap BuilderStep.settings)
  have single : ((steps.flatMap BuilderStep.settings).filterMap Setting.subject?).Nodup := by
    decide
  exact ⟨_, fresh, reordered, single, (build_reordered fresh reordered single).1,
    (Builder.warnings_build _).trans (by cbv)⟩

end Formula
