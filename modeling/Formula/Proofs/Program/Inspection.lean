import Formula.Program.Validation
import Formula.Proofs.Program.Run

/-!
Checking programs, one item at a time. An item is fine by its number of values exactly if there are
as many as it takes; checking goes on behind an item in that case only.
-/

set_option autoImplicit false

namespace Formula

theorem Item.depthBehind_eq (i : Item) (depth : Int) :
    i.depthBehind depth = depth + 1 - i.count := by
  cases i <;> simp [Item.depthBehind, Item.count]

theorem Item.depthBehind_lt_one (i : Item) (depth : Int) :
    i.depthBehind depth < 1 ↔ depth < i.count := by
  rw [i.depthBehind_eq]
  omega

section
variable {isBound : String → Bool}

theorem inspect_cons_of_few {i : Item} {depth : Int} (few : depth < i.count) (items : List Item) :
    inspect isBound depth (i :: items) =
      (i.complaints isBound depth ++ [.tooManyOperators], none) := by
  rw [inspect, if_pos ((i.depthBehind_lt_one depth).2 few)]

theorem inspect_cons_of_enough {i : Item} {depth : Int} (enough : i.count ≤ depth)
    (items : List Item) :
    inspect isBound depth (i :: items) =
      (i.complaints isBound depth ++ (inspect isBound (i.depthBehind depth) items).1,
        (inspect isBound (i.depthBehind depth) items).2) := by
  have goesOn : ¬i.depthBehind depth < 1 := by
    rw [i.depthBehind_lt_one]
    omega
  rw [inspect, if_neg goesOn]

theorem inspect_append {depth depth' : Int} {items : List Item} {found : List Complaint}
    (fine : inspect isBound depth items = (found, some depth')) (more : List Item) :
    inspect isBound depth (items ++ more) =
      (found ++ (inspect isBound depth' more).1, (inspect isBound depth' more).2) := by
  induction items generalizing depth found with
  | nil => cases fine; rfl
  | cons i items ih =>
    by_cases enough : i.count ≤ depth
    · rw [inspect_cons_of_enough enough, Prod.mk.injEq] at fine
      obtain ⟨rfl, final⟩ := fine
      rw [List.cons_append, inspect_cons_of_enough enough, ih (Prod.ext rfl final),
        List.append_assoc]
    · rw [inspect_cons_of_few (by omega)] at fine
      cases fine

/-- An item complains of too few values, if at all, where checking stops. -/
theorem Item.complaints_of_enough {i : Item} {depth : Int} (isBound : String → Bool)
    (enough : i.count ≤ depth) :
    i.complaints isBound depth = [] ∨ ∃ name, i = .var name ∧ isBound name = false ∧
      i.complaints isBound depth = [.unset name] := by
  cases i with
  | number value => exact .inl rfl
  | operator op => exact .inl rfl
  | function f => exact .inl (if_neg (Int.not_lt.2 enough))
  | var name =>
    cases bound : isBound name with
    | false => exact .inr ⟨name, rfl, bound, by simp [Item.complaints, bound]⟩
    | true => exact .inl (by simp [Item.complaints, bound])

theorem enough_of_inspect {i : Item} {items : List Item} {depth depth' : Int}
    {found : List Complaint} (fine : inspect isBound depth (i :: items) = (found, some depth')) :
    i.count ≤ depth := by
  by_cases enough : i.count ≤ depth
  · exact enough
  · rw [inspect_cons_of_few (by omega)] at fine
    cases fine

theorem one_le_of_inspect {items : List Item} {depth depth' : Int} {found : List Complaint}
    (fine : inspect isBound depth items = (found, some depth')) (someItem : items ≠ []) :
    1 ≤ depth' := by
  induction items generalizing depth found with
  | nil => exact absurd rfl someItem
  | cons i items ih =>
    have enough := enough_of_inspect fine
    rw [inspect_cons_of_enough enough, Prod.mk.injEq] at fine
    by_cases last : items = []
    · rw [last] at fine
      cases fine.2
      rw [i.depthBehind_eq]
      omega
    · exact ih (Prod.ext rfl fine.2) last

theorem inspect_none {items : List Item} {depth : Int} {found : List Complaint}
    (stopped : inspect isBound depth items = (found, none)) : found ≠ [] := by
  induction items generalizing depth found with
  | nil => cases stopped
  | cons i items ih =>
    by_cases enough : i.count ≤ depth
    · rw [inspect_cons_of_enough enough, Prod.mk.injEq] at stopped
      obtain ⟨rfl, final⟩ := stopped
      have behind := ih (Prod.ext rfl final)
      simp [behind]
    · rw [inspect_cons_of_few (by omega)] at stopped
      cases stopped
      simp

end

/-- A program is valid if its items are fine and leave a single value. -/
theorem validate_eq_nil_iff {items : List Item} {bindings : Bindings} {checkVariables : Bool} :
    validate items bindings checkVariables = [] ↔
      inspect (countsAsBound bindings checkVariables) 0 items = ([], some 1) := by
  rcases inspected : inspect (countsAsBound bindings checkVariables) 0 items with ⟨found, final⟩
  simp only [validate, inspected]
  cases final with
  | none => simp [inspect_none inspected]
  | some depth =>
    simp only [List.append_eq_nil_iff, endComplaints, Prod.mk.injEq, Option.some.injEq]
    constructor
    · rintro ⟨rfl, fine⟩
      split at fine
      · cases fine
      · split at fine
        · cases fine
        · exact ⟨rfl, by omega⟩
    · rintro ⟨rfl, rfl⟩
      exact ⟨rfl, rfl⟩

/-- The first complaint about the items is the first about the program. -/
theorem head?_validate {items : List Item} {bindings : Bindings} {checkVariables : Bool}
    {complaint : Complaint}
    (first : (inspect (countsAsBound bindings checkVariables) 0 items).1.head? = some complaint) :
    (validate items bindings checkVariables).head? = some complaint := by
  rcases inspected : inspect (countsAsBound bindings checkVariables) 0 items with ⟨found, final⟩
  rw [inspected] at first
  simp only [validate, inspected]
  cases final with
  | none => exact first
  | some depth => rw [List.head?_append, first]; rfl

end Formula
