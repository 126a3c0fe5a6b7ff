import Formula.Proofs.Program.Stack

/-!
Calls on a stack in any order. The array-backed stack answers like a list that values are put in
front of and taken from, and holds as many of them. Its slots never become fewer, and they become
more only where a value is pushed that there is no slot for.
-/

set_option autoImplicit false

namespace Formula.ValueStack

inductive Call where
  | push (value : Decimal)
  | pop
  deriving DecidableEq, Repr

inductive Answer where
  | pushed
  | popped (value : Decimal)
  | failed
  deriving DecidableEq, Repr

def call (s : ValueStack) : Call → Answer × ValueStack
  | .push value => (.pushed, s.push value)
  | .pop =>
    match s.pop? with
    | some (value, s') => (.popped value, s')
    | none => (.failed, s)

def callOn : List Decimal → Call → Answer × List Decimal
  | values, .push value => (.pushed, value :: values)
  | value :: values, .pop => (.popped value, values)
  | [], .pop => (.failed, [])

section
variable {State : Type} (act : State → Call → Answer × State)

def answersOf (state : State) : List Call → List Answer
  | [] => []
  | c :: calls => (act state c).1 :: answersOf (act state c).2 calls

def stateAfter (state : State) (calls : List Call) : State :=
  calls.foldl (fun state c => (act state c).2) state

end

/-! ### Answers -/

section
variable {s : ValueStack} {values : List Decimal}

/-- A call on the stack and on the list that it holds come to the same. -/
theorem Holds.call (holds : s.Holds values) (c : Call) :
    (s.call c).1 = (callOn values c).1 ∧ (s.call c).2.Holds (callOn values c).2 := by
  cases c with
  | push value => exact ⟨rfl, holds.push value⟩
  | pop =>
    cases values with
    | nil =>
      rw [ValueStack.call, holds.pop?_nil]
      exact ⟨rfl, holds⟩
    | cons value values =>
      obtain ⟨s', popped, holds'⟩ := holds.pop?_cons
      rw [ValueStack.call, popped]
      exact ⟨rfl, holds'⟩

theorem Holds.calls (holds : s.Holds values) (calls : List Call) :
    answersOf ValueStack.call s calls = answersOf callOn values calls ∧
      (stateAfter ValueStack.call s calls).Holds (stateAfter callOn values calls) := by
  induction calls generalizing s values with
  | nil => exact ⟨rfl, holds⟩
  | cons c calls ih =>
    obtain ⟨same, holds'⟩ := holds.call c
    obtain ⟨answers, final⟩ := ih holds'
    refine ⟨?_, final⟩
    simp only [answersOf, same, answers]

/-! ### Slots -/

theorem Holds.size_le_capacity (holds : s.Holds values) : s.size ≤ s.capacity := by
  obtain ⟨free, _, total⟩ := holds.exists_free
  omega

theorem Holds.getElem?_of_size_le (holds : s.Holds values) {k : Nat} (above : s.size ≤ k)
    (inside : k < s.capacity) : s.slots[k]? = some none := by
  obtain ⟨free, slots, total⟩ := holds.exists_free
  have filled : (values.reverse.map (some : Decimal → Option Decimal)).length = s.size := by
    simp [holds.size_eq]
  rw [← Array.getElem?_toList, slots, List.getElem?_append_right (by omega), filled,
    List.getElem?_replicate_of_lt (by omega)]

theorem size_grow (slots : Array (Option Decimal)) :
    (grow slots).size = grownCapacity slots.size := by
  have grown := lt_grownCapacity slots.size
  simp only [grow, Array.size_append, Array.size_replicate]
  omega

theorem capacity_push (s : ValueStack) (value : Decimal) : (s.push value).capacity =
    if s.size = s.capacity then grownCapacity s.capacity else s.capacity := by
  calc (s.push value).capacity
      = (if s.size = s.slots.size then grow s.slots else s.slots).size := Array.size_setIfInBounds
    _ = if s.size = s.slots.size then grownCapacity s.slots.size else s.slots.size := by
        rw [← size_grow, apply_ite Array.size]

theorem capacity_of_pop? {s' : ValueStack} {value : Decimal}
    (popped : s.pop? = some (value, s')) : s'.capacity = s.capacity := by
  unfold pop? at popped
  split at popped
  · cases popped
  · obtain ⟨_, _, same⟩ := Option.map_eq_some_iff.1 popped
    cases same
    simp [capacity]

theorem capacity_pop (s : ValueStack) : (s.call .pop).2.capacity = s.capacity := by
  unfold call
  cases popped : s.pop? with
  | none => rfl
  | some result => exact capacity_of_pop? popped

theorem capacity_le_call (s : ValueStack) (c : Call) : s.capacity ≤ (s.call c).2.capacity := by
  cases c with
  | push value =>
    have grown := lt_grownCapacity s.capacity
    simp only [call, capacity_push]
    split <;> omega
  | pop => exact Nat.le_of_eq (capacity_pop s).symm

end

theorem create?_of_pos {capacity : Int} (positive : 1 ≤ capacity) :
    create? capacity = some (ofCapacity capacity.toNat) := if_neg (by omega)

/-- From a new stack of any positive capacity on, and for any calls in any order, the answers are
those of a list that starts empty, and behind any of the calls the stack has as many values as the
list. They are not more than there are slots, and the slots above them are empty. A further call
never makes the slots fewer: popping leaves them, and so does pushing unless all of them are taken,
in which case a fifth of them and one more are added. Popping from an empty stack fails and changes
nothing. -/
theorem calls_refine_list {capacity : Int} (positive : 1 ≤ capacity) :
    ∃ new, create? capacity = some new ∧ (new.capacity : Int) = capacity ∧ ∀ calls : List Call,
      let s := stateAfter call new calls
      answersOf call new calls = answersOf callOn [] calls ∧
      s.size = (stateAfter callOn [] calls).length ∧ s.size ≤ s.capacity ∧
      (∀ k, s.size ≤ k → k < s.capacity → s.slots[k]? = some none) ∧
      (∀ c, s.capacity ≤ (s.call c).2.capacity) ∧
      (∀ value, (s.push value).capacity =
        if s.size = s.capacity then 6 * s.capacity / 5 + 1 else s.capacity) ∧
      s.capacity < 6 * s.capacity / 5 + 1 ∧ (s.call .pop).2.capacity = s.capacity ∧
      (s.size = 0 → s.call .pop = (.failed, s)) := by
  refine ⟨_, create?_of_pos positive, ?_, fun calls => ?_⟩
  · simp only [ValueStack.capacity, ofCapacity, Array.size_replicate]
    omega
  · obtain ⟨answers, holds⟩ := (holds_ofCapacity capacity.toNat).calls calls
    refine ⟨answers, holds.size_eq, holds.size_le_capacity,
      fun k above inside => holds.getElem?_of_size_le above inside, capacity_le_call _,
      capacity_push _, lt_grownCapacity _, capacity_pop _, fun empty => ?_⟩
    rw [holds.size_eq, List.length_eq_zero_iff] at empty
    rw [empty] at holds
    rw [call, holds.pop?_nil]

def growingCalls : List Call :=
  [.pop, .push (.ofNat 1), .push (.ofNat 2), .push (.ofNat 3), .push (.ofNat 4), .pop, .pop]

theorem calls_refine_list_growing : (1 : Int) ≤ 1 ∧ ∃ new, create? 1 = some new ∧
    answersOf call new growingCalls =
      [.failed, .pushed, .pushed, .pushed, .pushed, .popped (.ofNat 4), .popped (.ofNat 3)] ∧
    (stateAfter call new growingCalls).size = 2 ∧
    (stateAfter call new (growingCalls.take 2)).capacity = 1 ∧
    ∀ value, ((stateAfter call new (growingCalls.take 2)).push value).capacity = 2 := by
  obtain ⟨new, created, one, each⟩ := calls_refine_list (Int.le_refl 1)
  obtain ⟨answers, size, _⟩ := each growingCalls
  obtain ⟨_, _, _, _, _, full, _⟩ := each (growingCalls.take 2)
  obtain rfl : ofCapacity 1 = new := Option.some.inj created
  exact ⟨Int.le_refl 1, _, created, answers, size, by decide, full⟩

end Formula.ValueStack
