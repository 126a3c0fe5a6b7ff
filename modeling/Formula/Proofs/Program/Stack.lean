import Formula.Program.ValueStack

/-!
The array-backed stack as a list of values, the topmost first. The filled slots hold the list from
its end, and the slots above them are empty.
-/

set_option autoImplicit false

namespace Formula.ValueStack

structure Holds (s : ValueStack) (values : List Decimal) : Prop where
  size_eq : s.size = values.length
  slots_eq : ∃ free, s.slots.toList = values.reverse.map some ++ List.replicate free none

theorem holds_ofCapacity (capacity : Nat) : (ofCapacity capacity).Holds [] :=
  ⟨rfl, capacity, by simp [ofCapacity]⟩

theorem holds_empty : empty.Holds [] := holds_ofCapacity defaultCapacity

theorem toList_grow (slots : Array (Option Decimal)) :
    (grow slots).toList =
      slots.toList ++ List.replicate (grownCapacity slots.size - slots.size) none := by
  simp [grow]

theorem lt_grownCapacity (capacity : Nat) : capacity < grownCapacity capacity := by
  simp only [grownCapacity]
  omega

theorem Holds.exists_free {s : ValueStack} {values : List Decimal} (holds : s.Holds values) :
    ∃ free, s.slots.toList = values.reverse.map some ++ List.replicate free none ∧
      s.capacity = s.size + free := by
  obtain ⟨size, free, slots⟩ := holds
  refine ⟨free, slots, ?_⟩
  rw [capacity, ← Array.length_toList, slots, size]
  simp

theorem Holds.room {s : ValueStack} {values : List Decimal} (holds : s.Holds values) :
    ∃ free, (if s.size = s.slots.size then grow s.slots else s.slots).toList =
      values.reverse.map some ++ List.replicate (free + 1) none := by
  obtain ⟨free, slots, total⟩ := holds.exists_free
  rw [capacity] at total
  split
  · have noneFree : free = 0 := by omega
    have grown := lt_grownCapacity s.slots.size
    refine ⟨grownCapacity s.slots.size - s.slots.size - 1, ?_⟩
    rw [toList_grow, slots, noneFree, Nat.sub_add_cancel (by omega)]
    simp
  · refine ⟨free - 1, ?_⟩
    rw [slots, Nat.sub_add_cancel (by omega)]

theorem Holds.push {s : ValueStack} {values : List Decimal} (holds : s.Holds values)
    (value : Decimal) : (s.push value).Holds (value :: values) := by
  obtain ⟨free, room⟩ := holds.room
  have place : s.size = (values.reverse.map some).length := by simp [holds.size_eq]
  refine ⟨by simp [ValueStack.push, holds.size_eq], free, ?_⟩
  simp only [ValueStack.push, Array.toList_setIfInBounds, room, List.replicate_succ]
  rw [place, List.set_append_right _ _ (Nat.le_refl _)]
  simp

theorem Holds.pop?_nil {s : ValueStack} (holds : s.Holds []) : s.pop? = none := by
  have empty : s.size = 0 := holds.size_eq
  unfold pop?
  split
  · rfl
  · simp_all

theorem Holds.pop?_cons {s : ValueStack} {value : Decimal} {values : List Decimal}
    (holds : s.Holds (value :: values)) :
    ∃ s' : ValueStack, s.pop? = some (value, s') ∧ s'.Holds values := by
  obtain ⟨size, free, slots⟩ := holds
  -- The filled slots hold the values in reverse, so the latest value lies in the last of them.
  have place : values.length = (values.reverse.map (some : Decimal → Option Decimal)).length := by
    simp
  simp only [List.reverse_cons, List.map_append, List.append_assoc, List.map_cons, List.map_nil,
    List.singleton_append] at slots
  have found : s.slots[values.length]? = some (some value) := by
    rw [← Array.getElem?_toList, slots, place, List.getElem?_append_right (Nat.le_refl _)]
    simp
  refine ⟨{ slots := s.slots.setIfInBounds values.length none, size := values.length }, ?_,
    rfl, free + 1, ?_⟩
  · simp only [List.length_cons] at size
    simp [pop?, size, found]
  · simp only [Array.toList_setIfInBounds, slots]
    conv => lhs; rw [place, List.set_append_right _ _ (Nat.le_refl _)]
    simp [List.replicate_succ]

/-- Popping takes the values off in turn, so that they come out in the order they were put on. -/
theorem Holds.popOnto {s : ValueStack} {values : List Decimal} (holds : s.Holds values)
    {count : Nat} (enough : count ≤ values.length) (above : List Decimal) :
    ∃ s' : ValueStack, s.popOnto above count = some ((values.take count).reverse ++ above, s') ∧
      s'.Holds (values.drop count) := by
  -- Each pop puts its value in front of those popped before it, which turns their order around.
  induction count generalizing s values above with
  | zero => exact ⟨s, by simp [ValueStack.popOnto], by simpa using holds⟩
  | succ count ih =>
    cases values with
    | nil => simp at enough
    | cons value values =>
      obtain ⟨s₁, popped, holds₁⟩ := holds.pop?_cons
      obtain ⟨s', rest, holds'⟩ := ih holds₁ (by simpa using enough) (value :: above)
      refine ⟨s', ?_, by simpa using holds'⟩
      simp [ValueStack.popOnto, popped, rest]

end Formula.ValueStack
