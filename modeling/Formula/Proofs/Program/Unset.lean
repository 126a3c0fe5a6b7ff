import Formula.Proofs.Program.Closed
import Formula.Proofs.Program.Inspection

/-!
Variables without a value. Where checking or evaluating a program misses the value of a variable,
the program refers to the variable and it has none.
-/

set_option autoImplicit false

namespace Formula

section
variable {name : String} {items : List Item} {bindings : Bindings}

/-- If the error is about a variable without a value, the items have it and it has none. -/
def TellsUnset (bindings : Bindings) (items : List Item) (error : EvaluationError) : Prop :=
  ∀ name, error = .unset name → .var name ∈ items ∧ bindings.get? name = none

theorem tellsUnset_cons {i : Item} {error : EvaluationError}
    (tells : TellsUnset bindings items error) : TellsUnset bindings (i :: items) error := by
  intro name same
  obtain ⟨member, unbound⟩ := tells name same
  exact ⟨List.mem_cons_of_mem i member, unbound⟩

theorem stepOn_tellsUnset (bindings : Bindings) (values : List Decimal) (i : Item)
    (items : List Item) : Ends (fun _ => True) (TellsUnset bindings (i :: items))
      (stepOn bindings values i) := by
  have outcome := stepOn_outcome bindings values i
  revert outcome
  generalize stepOn bindings values i = result
  intro outcome
  cases outcome with
  | shortage _ =>
    intro name same
    cases i <;> cases same
  | unset name is unbound =>
    intro name' same
    cases same
    exact ⟨is ▸ List.mem_cons_self, unbound⟩
  | raised use rule fault _ _ _ =>
    intro name same
    rw [Fault.reported] at same
    split at same <;> cases same
  | value _ _ _ => trivial

theorem runOn_tellsUnset (bindings : Bindings) (values : List Decimal) (items : List Item) :
    Ends (fun _ => True) (TellsUnset bindings items) (runOn bindings values items) := by
  induction items generalizing values with
  | nil => trivial
  | cons i items ih =>
    rw [runOn_cons]
    refine (stepOn_tellsUnset bindings values i items).bind fun values' _ => ?_
    have later := ih values'
    cases ran : runOn bindings values' items with
    | ok _ => trivial
    | error error =>
      rw [ran] at later
      exact tellsUnset_cons later

theorem unset_of_evaluate (failed : evaluate items bindings = .error (.unset name)) :
    .var name ∈ items ∧ bindings.get? name = none := by
  rw [evaluate_eq_runOn] at failed
  have tells := runOn_tellsUnset bindings [] items
  cases ran : runOn bindings [] items with
  | error error =>
    rw [ran] at failed tells
    cases failed
    exact tells name rfl
  | ok values =>
    rw [ran] at failed
    match values with
    | [] => cases failed
    | [_] => cases failed
    | _ :: _ :: _ => cases failed

theorem Item.eq_var_of_complaints {isBound : String → Bool} {depth : Int} {i : Item}
    (complains : .unset name ∈ i.complaints isBound depth) :
    i = .var name ∧ isBound name = false := by
  cases i with
  | number value => cases complains
  | operator op => cases complains
  | function f =>
    rw [complaints] at complains
    split at complains <;> simp at complains
  | var name' =>
    rw [complaints] at complains
    split at complains
    · cases complains
    · rename_i unbound
      cases List.mem_singleton.1 complains
      exact ⟨rfl, Bool.eq_false_iff.2 unbound⟩

theorem unset_of_inspect {isBound : String → Bool} {depth : Int}
    (complains : .unset name ∈ (inspect isBound depth items).1) :
    .var name ∈ items ∧ isBound name = false := by
  induction items generalizing depth with
  | nil => cases complains
  | cons i items ih =>
    have here {depth : Int} (first : .unset name ∈ i.complaints isBound depth) :
        .var name ∈ i :: items ∧ isBound name = false := by
      obtain ⟨rfl, unbound⟩ := Item.eq_var_of_complaints first
      exact ⟨List.mem_cons_self, unbound⟩
    by_cases enough : i.count ≤ depth
    · rw [inspect_cons_of_enough enough, List.mem_append] at complains
      rcases complains with first | later
      · exact here first
      · exact (ih later).imp_left (List.mem_cons_of_mem i)
    -- The complaint that ends the checking is not about a variable.
    · rw [inspect_cons_of_few (by omega), List.mem_append] at complains
      rcases complains with first | later
      · exact here first
      · simp at later

theorem unset_of_validate {checkVariables : Bool}
    (complains : .unset name ∈ validate items bindings checkVariables) :
    .var name ∈ items ∧ bindings.get? name = none := by
  have inspected : .unset name ∈ (inspect (countsAsBound bindings checkVariables) 0 items).1 := by
    rw [validate] at complains
    split at complains
    · rename_i found depth same
      rw [same]
      refine (List.mem_append.1 complains).resolve_right fun ends => ?_
      rw [endComplaints] at ends
      split at ends
      · simp at ends
      · split at ends <;> simp at ends
    · rename_i found same
      rw [same]
      exact complains
  obtain ⟨member, unbound⟩ := unset_of_inspect inspected
  rw [countsAsBound, Bool.or_eq_false_iff, Bindings.contains, Option.isSome_eq_false_iff,
    Option.isNone_iff_eq_none] at unbound
  exact ⟨member, unbound.2⟩

end

end Formula
