import Mathlib.Data.List.Forall2
import Formula.Proofs.Names
import Formula.Session

/-!
Expressions of one session side by side. Each is what its lineage yields: what the builder was when
the first of its ancestors was built, and the binding steps of the ancestors, up to the copies that
were made of them, and of its own. Nothing else that is done in a session has a part in it.
-/

set_option autoImplicit false

namespace Formula

/-! ### Names that are bound -/

namespace Expression

def AvoidsFunctions (e : Expression) : Prop :=
  ∀ name ∈ e.bindings.names, e.isFunctionName name = false

theorem AvoidsFunctions.setVariable {e e' : Expression} {name : String} {value : Datum}
    (avoids : e.AvoidsFunctions) (done : e.setVariable name value = .ok e') :
    e'.AvoidsFunctions := by
  obtain ⟨number, free, rfl⟩ := setVariable_ok done
  intro name' bound
  obtain ⟨entry, among, rfl⟩ := List.mem_map.1 bound
  rcases Bindings.mem_entries_set among with rfl | old
  · exact free
  · exact avoids entry.1 (List.mem_map_of_mem old)

theorem AvoidsFunctions.performAll {e : Expression} (avoids : e.AvoidsFunctions)
    (steps : List BindingStep) : (e.performAll steps).AvoidsFunctions :=
  performAll_induction .setVariable (fun _ => nofun) avoids steps

end Expression

theorem Builder.avoidsFunctions_of_build {b : Builder} {e : Expression}
    (built : b.build.outcome = .ok e) : e.AvoidsFunctions := by
  intro name bound
  refine free_of_build built (mem_fullLexicon.2 (.inr ?_))
  obtain ⟨items, _, rfl⟩ := build_ok built
  exact bound

/-! ### Lineages -/

/-- Where an expression comes from: the builder as it was when the first ancestor was built, and
the binding steps since, those of ancestors included. -/
structure Lineage where
  builder : Builder
  steps : List BindingStep := []

namespace Lineage

/-- Replaying a lineage, from the default constants on, leads to an expression. -/
def Yields (l : Lineage) (e : Expression) : Prop :=
  ∃ items, l.builder.build.outcome = .ok (.ofItems items l.builder.functionNames) ∧
    e = (Expression.ofItems items l.builder.functionNames).performAll l.steps

def extend (l : Lineage) (steps : List BindingStep) : Lineage :=
  { l with steps := l.steps ++ steps }

variable {l : Lineage} {e : Expression}

theorem Yields.extend (yields : l.Yields e) (steps : List BindingStep) :
    (l.extend steps).Yields (e.performAll steps) := by
  obtain ⟨items, built, rfl⟩ := yields
  exact ⟨items, built, (Expression.performAll_append _ l.steps steps).symm⟩

theorem yields_of_build {b : Builder} (built : b.build.outcome = .ok e) :
    Yields { builder := b } e := by
  obtain ⟨items, _, rfl⟩ := Builder.build_ok built
  exact ⟨items, built, rfl⟩

theorem Yields.not_function (yields : l.Yields e) {name : String}
    (bound : name ∈ e.bindings.names) :
    name ∉ l.builder.functionNames ∧ Function.standard? name = none := by
  obtain ⟨items, built, rfl⟩ := yields
  have avoids := (Builder.avoidsFunctions_of_build built).performAll l.steps name bound
  rw [(Expression.sameProgram_performAll _ l.steps).isFunctionName] at avoids
  exact Expression.isFunctionName_eq_false_iff.1 avoids

end Lineage

/-! ### Steps of a session -/

def SessionStep.bindingSteps : SessionStep → List BindingStep
  | .set name value => [.set name value]
  | .setMany entries => [.setMany entries]
  | .clear => [.clear]
  | _ => []

namespace Session

def performAll (s : Session) (steps : List SessionStep) : Session :=
  steps.foldl (fun s step => (s.perform step).1) s

/-- The binding steps that an expression undergoes while others are done: those at which it is the
current one. -/
def ownSteps (index : Nat) (s : Session) : List SessionStep → List BindingStep
  | [] => []
  | step :: steps =>
    (if s.current = some index then step.bindingSteps else [])
      ++ ownSteps index (s.perform step).1 steps

section
variable {α : Type}

def changeCurrent (s : Session) (f : α → α) (entries : List α) : List α :=
  match s.current with
  | some index => entries.modify index f
  | none => entries

def current? (s : Session) (entries : List α) : Option α := do entries[(← s.current)]?

end

def additions (s : Session) : SessionStep → List Expression
  | .build => s.builder.build.outcome.toOption.toList
  | .copy => s.currentExpression?.toList
  | _ => []

/-- The lineages of what a step adds. What is built begins one; a copy has that of its original. -/
def lineageAdditions (s : Session) (known : List Lineage) : SessionStep → List Lineage
  | .build => s.builder.build.outcome.toOption.toList.map fun _ => { builder := s.builder }
  | .copy => (s.current? known).toList
  | _ => []

def recordLineages (s : Session) (known : List Lineage) (step : SessionStep) : List Lineage :=
  s.changeCurrent (·.extend step.bindingSteps) known ++ s.lineageAdditions known step

def lineages (s : Session) (known : List Lineage) : List SessionStep → List Lineage
  | [] => known
  | step :: steps => lineages (s.perform step).1 (s.recordLineages known step) steps

/-! ### What a step changes -/

section
variable {α β : Type} {s : Session}

theorem getElem?_changeCurrent (f : α → α) (entries : List α) (index : Nat) :
    (s.changeCurrent f entries)[index]? =
      entries[index]?.map fun x => if s.current = some index then f x else x := by
  unfold changeCurrent
  cases s.current with
  | none => simp
  | some i => simp [List.getElem?_modify]

theorem changeCurrent_id (entries : List α) : s.changeCurrent (fun x => x) entries = entries := by
  refine List.ext_getElem? fun index => ?_
  simp [getElem?_changeCurrent]

theorem forall₂_modify {R : α → β → Prop} {entries : List α} {entries' : List β}
    (related : List.Forall₂ R entries entries') {f : α → α} {g : β → β}
    (keeps : ∀ x y, R x y → R (f x) (g y)) (index : Nat) :
    List.Forall₂ R (entries.modify index f) (entries'.modify index g) := by
  induction related generalizing index with
  | nil => simp
  | cons first rest ih =>
    cases index with
    | zero => simpa using ⟨keeps _ _ first, rest⟩
    | succ index => simpa using ⟨first, ih index⟩

theorem forall₂_changeCurrent {R : α → β → Prop} {entries : List α} {entries' : List β}
    (related : List.Forall₂ R entries entries') {f : α → α} {g : β → β}
    (keeps : ∀ x y, R x y → R (f x) (g y)) :
    List.Forall₂ R (s.changeCurrent f entries) (s.changeCurrent g entries') := by
  unfold changeCurrent
  cases s.current with
  | none => exact related
  | some index => exact forall₂_modify related keeps index

theorem forall₂_current? {R : α → β → Prop} {entries : List α} {entries' : List β}
    (related : List.Forall₂ R entries entries') :
    List.Forall₂ R (s.current? entries).toList (s.current? entries').toList := by
  unfold current?
  cases s.current with
  | none => exact .nil
  | some index =>
    change List.Forall₂ R entries[index]?.toList entries'[index]?.toList
    induction related generalizing index with
    | nil => exact .nil
    | cons first rest ih =>
      cases index with
      | zero => exact .cons first .nil
      | succ index => exact ih index

end

variable {s : Session}

theorem expressions_bind (f : Expression → Expression × Option BindError) :
    (s.bind f).1.expressions = s.changeCurrent (fun e => (f e).1) s.expressions := by
  unfold bind changeCurrent currentExpression?
  cases current : s.current with
  | none => rfl
  | some index =>
    cases there : s.expressions[index]? with
    | none =>
      -- No expression is there to be changed, in either reading.
      have beyond : s.expressions.length ≤ index := List.getElem?_eq_none_iff.1 there
      simp [there, List.modify_eq_self beyond]
    | some e =>
      obtain ⟨within, isE⟩ := List.getElem?_eq_some_iff.1 there
      have replaced : s.expressions.set index (f e).1 =
          s.expressions.modify index fun e => (f e).1 := by
        rw [List.modify_eq_take_cons_drop within, List.set_eq_take_cons_drop _ within, isE]
      simpa [there, replaceCurrent, current] using replaced

/-- The current expression is changed by a binding step, and an expression may be added; nothing
else is done to the expressions. -/
theorem expressions_perform (s : Session) (step : SessionStep) :
    (s.perform step).1.expressions =
      s.changeCurrent (·.performAll step.bindingSteps) s.expressions ++ s.additions step := by
  -- Steps that bind nothing leave the current expression as it is.
  have unchanged (idle : step.bindingSteps = []) :
      s.changeCurrent (·.performAll step.bindingSteps) s.expressions = s.expressions := by
    rw [idle]
    exact changeCurrent_id s.expressions
  cases step with
  | build =>
    rw [unchanged rfl, perform, additions]
    cases s.builder.build.outcome with
    | ok e => rfl
    | error error => exact (List.append_nil _).symm
  | set name value => exact (expressions_bind _).trans (List.append_nil _).symm
  | setMany entries => exact (expressions_bind _).trans (List.append_nil _).symm
  | clear => exact (expressions_bind _).trans (List.append_nil _).symm
  | copy =>
    rw [unchanged rfl, perform, additions]
    cases s.currentExpression? with
    | some e => rfl
    | none => exact (List.append_nil _).symm
  | _ =>
    rw [unchanged rfl]
    exact (List.append_nil _).symm

theorem getElem?_perform {index : Nat} {e : Expression} (there : s.expressions[index]? = some e)
    (step : SessionStep) : (s.perform step).1.expressions[index]? =
      some (e.performAll (if s.current = some index then step.bindingSteps else [])) := by
  have changed : (s.changeCurrent (·.performAll step.bindingSteps) s.expressions)[index]? =
      some (e.performAll (if s.current = some index then step.bindingSteps else [])) := by
    rw [getElem?_changeCurrent, there]
    split <;> rfl
  obtain ⟨within, _⟩ := List.getElem?_eq_some_iff.1 changed
  rw [expressions_perform, List.getElem?_append_left within, changed]

theorem getElem?_performAll {index : Nat} {e : Expression}
    (there : s.expressions[index]? = some e) (steps : List SessionStep) :
    (s.performAll steps).expressions[index]? = some (e.performAll (s.ownSteps index steps)) := by
  induction steps generalizing s e with
  | nil => exact there
  | cons step steps ih =>
    rw [ownSteps, Expression.performAll_append]
    exact ih (getElem?_perform there step)

/-! ### Lineages of a session -/

theorem yields_perform {known : List Lineage}
    (yields : List.Forall₂ Lineage.Yields known s.expressions) (step : SessionStep) :
    List.Forall₂ Lineage.Yields (s.recordLineages known step) (s.perform step).1.expressions := by
  have changed := forall₂_changeCurrent (s := s) yields fun l e (fromL : l.Yields e) =>
    fromL.extend step.bindingSteps
  rw [expressions_perform, recordLineages]
  -- Both lists are changed in the same place and grow by the same number of entries.
  refine List.rel_append changed ?_
  cases step with
  | build =>
    rw [additions, lineageAdditions]
    cases built : s.builder.build.outcome with
    | ok e => exact .cons (Lineage.yields_of_build built) .nil
    | error error => exact .nil
  | copy => exact forall₂_current? yields
  | _ => exact .nil

theorem yields_performAll {known : List Lineage}
    (yields : List.Forall₂ Lineage.Yields known s.expressions) (steps : List SessionStep) :
    List.Forall₂ Lineage.Yields (s.lineages known steps) (s.performAll steps).expressions := by
  -- The invariant is that lineages and expressions correspond place by place.
  induction steps generalizing s known with
  | nil => exact yields
  | cons step steps ih => exact ih (yields_perform yields step)

end Session

/-- Every expression of a session is what its lineage yields, and none of its variables that are
bound is named like a standard function or a function of the builder it descends from. Whatever is
done after that, it keeps its program and its function names, and its bindings are changed by its
own binding steps only. -/
theorem Session.expressions_apart (b : Builder) (steps : List SessionStep) :
    let start : Session := { builder := b }
    let s := start.performAll steps
    List.Forall₂ (fun l e => l.Yields e ∧ ∀ name ∈ e.bindings.names,
      name ∉ l.builder.functionNames ∧ Function.standard? name = none)
      (start.lineages [] steps) s.expressions ∧
    ∀ (index : Nat) (e : Expression), s.expressions[index]? = some e →
      ∀ more : List SessionStep, ∃ e', (s.performAll more).expressions[index]? = some e' ∧
        e'.items = e.items ∧ e'.functionNames = e.functionNames ∧
        e'.bindings = (e.performAll (s.ownSteps index more)).bindings := by
  intro start s
  have yields : List.Forall₂ Lineage.Yields (start.lineages [] steps) s.expressions :=
    yields_performAll .nil steps
  refine ⟨yields.imp fun l e fromL => ⟨fromL, fun name => fromL.not_function⟩, ?_⟩
  intro index e there more
  have same := Expression.sameProgram_performAll e (s.ownSteps index more)
  exact ⟨_, getElem?_performAll there more, same.items, same.functionNames, rfl⟩

theorem Session.expressions_apart_halfSine :
    let shadow : Function :=
      { name := "x", argumentCount := 1, apply := Rule.unary fun argument => .ok argument }
    let start : Session := { builder := halfSineBuilder }
    let s := start.performAll [.build, .set "x" (.decimal (.ofNat 1)), .copy]
    let more : List SessionStep := [.addFunctions [shadow], .set "x" (.decimal (.ofNat 2)),
      .set "half" (.decimal (.ofNat 2)), .use 0, .clear, .build]
    ∃ e, s.expressions[1]? = some e ∧ e.bindings.get? "x" = some (.ofNat 1) ∧
      ∃ e', (s.performAll more).expressions[1]? = some e' ∧ e'.items = e.items ∧
        e'.functionNames = ["half"] ∧ e'.bindings.get? "x" = some (.ofNat 2) ∧
        e'.bindings.get? "half" = none := by
  intro shadow start s more
  obtain ⟨items, built, _⟩ := halfSineBuilder_build
  have begun : (start.perform .build).1 = start.add (.ofItems items ["half"]) := by
    rw [perform, built]
    rfl
  have copied : s = (start.add (.ofItems items ["half"])).performAll
      [.set "x" (.decimal (.ofNat 1)), .copy] := by
    rw [← begun]
    rfl
  have there : s.expressions[1]? =
      some ((Expression.ofItems items ["half"]).performAll [.set "x" (.decimal (.ofNat 1))]) := by
    rw [copied]
    rfl
  obtain ⟨_, stays⟩ := expressions_apart halfSineBuilder
    [.build, .set "x" (.decimal (.ofNat 1)), .copy]
  obtain ⟨e', there', sameItems, sameNames, bindings⟩ := stays 1 _ there more
  have own : s.ownSteps 1 more =
      [.set "x" (.decimal (.ofNat 2)), .set "half" (.decimal (.ofNat 2))] := by
    rw [copied]
    rfl
  replace bindings :
      e'.bindings = (Expression.performAll _ (s.ownSteps 1 more)).bindings := bindings
  rw [own] at bindings
  refine ⟨_, there, rfl, e', there', sameItems, sameNames.trans rfl, ?_⟩
  rw [bindings]
  exact ⟨rfl, rfl⟩

end Formula
