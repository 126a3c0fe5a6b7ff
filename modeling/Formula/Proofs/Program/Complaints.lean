import Formula.Operator.Standard
import Formula.Proofs.Program.Inspection

/-!
What checking a program reports. The values that the items take and leave are counted as on a stack;
checking goes as far as every item finds the values that it takes. It reports each use of a variable
without a value on the way, and behind these what stopped it, or how many values are left.
-/

set_option autoImplicit false

namespace Formula

/-! ### Counting values -/

def Item.heightBehind? (height : Nat) (i : Item) : Option Nat :=
  if height < i.count then none else some (height - i.count + 1)

/-- How many values items leave on a stack of the given height; nothing if one finds too few. -/
def height? (height : Nat) (items : List Item) : Option Nat :=
  items.foldlM Item.heightBehind? height

/-- The items in front of one of a program's items find the values that they take on a stack that is
empty at first, and this one does not. -/
def FindsTooFew (items before : List Item) (i : Item) (after : List Item) : Prop :=
  items = before ++ i :: after ∧ ∃ height, height? 0 before = some height ∧ height < i.count

section
variable {height height' : Nat} {i : Item} {items before after scanned rest : List Item}

theorem height?_cons_of_enough (enough : i.count ≤ height) (items : List Item) :
    height? height (i :: items) = height? (height - i.count + 1) items := by
  simp [height?, Item.heightBehind?, Nat.not_lt.2 enough]

theorem height?_cons_of_few (few : height < i.count) (items : List Item) :
    height? height (i :: items) = none := by
  simp [height?, Item.heightBehind?, few]

theorem height?_append (height : Nat) (items items' : List Item) :
    height? height (items ++ items') = (height? height items).bind (height? · items') := by
  simp [height?]

theorem height?_cons_eq_some_iff : height? height (i :: items) = some height' ↔
    i.count ≤ height ∧ height? (height - i.count + 1) items = some height' := by
  by_cases enough : i.count ≤ height
  · simp [height?_cons_of_enough enough, enough]
  · simp [height?_cons_of_few (Nat.lt_of_not_le enough), enough]

/-- Either every item finds the values that it takes, or there is a first one that does not. -/
theorem exists_height? (height : Nat) (items : List Item) :
    (∃ height', height? height items = some height') ∨ ∃ before i after height',
      items = before ++ i :: after ∧ height? height before = some height' ∧ height' < i.count := by
  induction items generalizing height with
  | nil => exact .inl ⟨height, rfl⟩
  | cons i items ih =>
    by_cases enough : i.count ≤ height
    · obtain ⟨height', counted⟩ | ⟨before, j, after, height', rfl, counted, few⟩ :=
        ih (height - i.count + 1)
      · exact .inl ⟨height', height?_cons_eq_some_iff.2 ⟨enough, counted⟩⟩
      · exact .inr ⟨i :: before, j, after, height', rfl,
          height?_cons_eq_some_iff.2 ⟨enough, counted⟩, few⟩
    · exact .inr ⟨[], i, items, height, rfl, rfl, Nat.lt_of_not_le enough⟩

namespace FindsTooFew

theorem height?_eq_none (short : FindsTooFew items before i after) : height? 0 items = none := by
  obtain ⟨rfl, height, counted, few⟩ := short
  rw [height?_append, counted, Option.bind_some, height?_cons_of_few few]

theorem length_le (short : FindsTooFew items before i after) (split : items = scanned ++ rest)
    (counted : height? 0 scanned = some height) : scanned.length ≤ before.length := by
  refine Nat.le_of_not_lt fun longer => ?_
  obtain ⟨split', height', counted', few⟩ := short
  -- Items that go on beyond the place would find too few values there.
  have whole : before ++ [i] <+: items :=
    ⟨after, by rw [split', List.append_assoc, List.singleton_append]⟩
  obtain ⟨more, rfl⟩ :=
    List.prefix_of_prefix_length_le whole ⟨rest, split.symm⟩ (by simp; omega)
  have stopped : FindsTooFew (before ++ [i] ++ more) before i more :=
    ⟨by rw [List.append_assoc, List.singleton_append], height', counted', few⟩
  rw [stopped.height?_eq_none] at counted
  cases counted

theorem item_eq {before' after' : List Item} {j : Item}
    (short : FindsTooFew items before i after) (short' : FindsTooFew items before' j after') :
    i = j := by
  obtain ⟨split, _, counted, _⟩ := id short
  obtain ⟨split', _, counted', _⟩ := id short'
  have samePlace : before.length = before'.length :=
    Nat.le_antisymm (short'.length_le split counted) (short.length_le split' counted')
  have parts := List.append_inj_right (split.symm.trans split') samePlace
  exact (List.cons.inj parts).1

end FindsTooFew

end

/-! ### Complaints -/

def Item.variable? : Item → Option String
  | .var name => some name
  | .number _ | .operator _ | .function _ => none

/-- The variables without a value, once for each time that an item refers to one. -/
def unboundIn (isBound : String → Bool) (items : List Item) : List String :=
  (items.filterMap Item.variable?).filter fun name => !isBound name

def Complaint.isUnset : Complaint → Bool
  | .unset _ => true
  | .missingArguments _ | .tooManyOperators | .tooManyOperands => false

/-- The items that checking goes over, and what it reports about the number of values: in the end,
or where an item finds too few of them. -/
inductive Ending (items : List Item) : List Item → List Complaint → Prop where
  | whole {height : Nat} (counted : height? 0 items = some height) :
      Ending items items (endComplaints height)
  | function {before after : List Item} {f : Function}
      (short : FindsTooFew items before (.function f) after) :
      Ending items before [.missingArguments f.name, .tooManyOperators]
  | operator {before after : List Item} {op : Operator}
      (short : FindsTooFew items before (.operator op) after) :
      Ending items before [.tooManyOperators]

section
variable {isBound : String → Bool} {height height' : Nat} {items scanned : List Item}
  {structural : List Complaint}

theorem unboundIn_cons (i : Item) (items : List Item) :
    unboundIn isBound (i :: items) = unboundIn isBound [i] ++ unboundIn isBound items := by
  simp only [unboundIn, ← List.filter_append, ← List.filterMap_append, List.singleton_append]

theorem unboundIn_of_bound (bound : ∀ name, isBound name = true) (items : List Item) :
    unboundIn isBound items = [] := by
  simp [unboundIn, bound]

theorem complaints_of_enough {i : Item} (enough : i.count ≤ height) :
    i.complaints isBound height = (unboundIn isBound [i]).map .unset := by
  cases i with
  | number value => rfl
  | var name =>
    cases bound : isBound name <;> simp [Item.complaints, unboundIn, Item.variable?, bound]
  | operator op => rfl
  | function f => exact if_neg (Int.not_lt.2 (Int.ofNat_le.2 enough))

theorem inspect_of_height? (isBound : String → Bool)
    (counted : height? height items = some height') :
    inspect isBound height items =
      ((unboundIn isBound items).map .unset, some (height' : Int)) := by
  induction items generalizing height with
  | nil =>
    cases counted
    rfl
  | cons i items ih =>
    obtain ⟨enough, later⟩ := height?_cons_eq_some_iff.1 counted
    have left : i.depthBehind height = ((height - i.count + 1 : Nat) : Int) := by
      rw [i.depthBehind_eq]
      omega
    rw [inspect_cons_of_enough (Int.ofNat_le.2 enough), left, ih later,
      complaints_of_enough enough, unboundIn_cons i items, List.map_append]

theorem inspect_of_findsTooFew (isBound : String → Bool) {before after : List Item} {i : Item}
    (short : FindsTooFew items before i after) :
    ∃ height : Nat, height < i.count ∧ inspect isBound 0 items =
      ((unboundIn isBound before).map .unset ++
        (i.complaints isBound height ++ [.tooManyOperators]), none) := by
  obtain ⟨rfl, height, counted, few⟩ := short
  refine ⟨height, few, ?_⟩
  rw [← Int.natCast_zero, inspect_append (inspect_of_height? isBound counted),
    inspect_cons_of_few (Int.ofNat_lt.2 few)]

theorem exists_ending (items : List Item) :
    ∃ scanned structural, Ending items scanned structural := by
  obtain ⟨height, counted⟩ | ⟨before, i, after, height, split, counted, few⟩ :=
    exists_height? 0 items
  · exact ⟨_, _, .whole counted⟩
  · have short : FindsTooFew items before i after := ⟨split, height, counted, few⟩
    cases i with
    | number value => exact absurd few (Nat.not_lt_zero height)
    | var name => exact absurd few (Nat.not_lt_zero height)
    | operator op => exact ⟨_, _, .operator short⟩
    | function f => exact ⟨_, _, .function short⟩

/-- Checking reports the variables without a value in the items that it goes over, and behind them
what it has to say about the number of values. -/
theorem validate_of_ending (ending : Ending items scanned structural) (bindings : Bindings)
    (checkVariables : Bool) : validate items bindings checkVariables =
      (unboundIn (countsAsBound bindings checkVariables) scanned).map .unset ++ structural := by
  -- One case for each way in which checking ends, with the complaints of the item where it stops.
  cases ending with
  | whole counted =>
    have inspected := inspect_of_height? (countsAsBound bindings checkVariables) counted
    rw [Int.natCast_zero] at inspected
    rw [validate, inspected]
  | @function _ _ f short =>
    obtain ⟨height, few, inspected⟩ :=
      inspect_of_findsTooFew (countsAsBound bindings checkVariables) short
    have complaints : (Item.function f).complaints (countsAsBound bindings checkVariables) height =
      [.missingArguments f.name] := if_pos (Int.ofNat_lt.2 few)
    rw [validate, inspected, complaints]
    rfl
  | operator short =>
    obtain ⟨height, few, inspected⟩ :=
      inspect_of_findsTooFew (countsAsBound bindings checkVariables) short
    rw [validate, inspected]
    rfl

theorem Ending.structural_cases (ending : Ending items scanned structural) :
    structural = [] ∨ structural = [.tooManyOperands] ∨ structural = [.tooManyOperators] ∨
      ∃ name, structural = [.missingArguments name, .tooManyOperators] := by
  cases ending with
  | whole counted =>
    unfold endComplaints
    split
    · exact .inr (.inr (.inl rfl))
    · split
      · exact .inr (.inl rfl)
      · exact .inl rfl
  | function short => exact .inr (.inr (.inr ⟨_, rfl⟩))
  | operator short => exact .inr (.inr (.inl rfl))

theorem Ending.not_isUnset (ending : Ending items scanned structural) :
    ∀ c ∈ structural, c.isUnset = false := by
  rcases ending.structural_cases with rfl | rfl | rfl | ⟨name, rfl⟩ <;> simp [Complaint.isUnset]

/-- Checking goes over all items, or stops at one that finds too few values. -/
theorem Ending.exists_rest (ending : Ending items scanned structural) : ∃ rest height,
    items = scanned ++ rest ∧ height? 0 scanned = some height ∧
      ∀ i ∈ rest.head?, height < i.count := by
  have stopped {before after : List Item} {i : Item} (short : FindsTooFew items before i after) :
      ∃ rest height, items = before ++ rest ∧ height? 0 before = some height ∧
        ∀ j ∈ rest.head?, height < j.count := by
    obtain ⟨split, height, counted, few⟩ := short
    refine ⟨i :: after, height, split, counted, fun j first => ?_⟩
    cases first
    exact few
  cases ending with
  | @whole height counted => exact ⟨[], height, (List.append_nil items).symm, counted, nofun⟩
  | function short => exact stopped short
  | operator short => exact stopped short

theorem Ending.function_iff (ending : Ending items scanned structural) (name : String) :
    structural = [.missingArguments name, .tooManyOperators] ↔
      ∃ before f after, FindsTooFew items before (.function f) after ∧ f.name = name := by
  constructor
  · rintro rfl
    generalize same : [Complaint.missingArguments name, .tooManyOperators] = structural at ending
    cases ending with
    | whole counted =>
      unfold endComplaints at same
      split at same
      · cases same
      · split at same <;> cases same
    | function short =>
      cases same
      exact ⟨_, _, _, short, rfl⟩
    | operator short => cases same
  · rintro ⟨before, f, after, short, rfl⟩
    cases ending with
    | whole counted =>
      rw [short.height?_eq_none] at counted
      cases counted
    | function short' =>
      cases short.item_eq short'
      rfl
    | operator short' => cases short.item_eq short'

theorem Ending.mem_iff (ending : Ending items scanned structural) :
    .tooManyOperators ∈ structural ↔
      items = [] ∨ ∃ before i after, FindsTooFew items before i after := by
  cases ending with
  | @whole height counted =>
    -- Where all items find their values there are too few in the end only if there was no item.
    have noItem : .tooManyOperators ∈ endComplaints height ↔ items = [] := by
      unfold endComplaints
      constructor
      · intro reported
        refine Decidable.byContradiction fun someItem => ?_
        have inspected := inspect_of_height? (fun _ => true) counted
        have someValue := one_le_of_inspect inspected someItem
        rw [if_neg (by omega)] at reported
        split at reported <;> simp at reported
      · rintro rfl
        cases counted
        simp
    refine noItem.trans ⟨.inl, fun ends => ends.resolve_right ?_⟩
    rintro ⟨before, i, after, short⟩
    rw [short.height?_eq_none] at counted
    cases counted
  | function short => exact iff_of_true (by simp) (.inr ⟨_, _, _, short⟩)
  | operator short => exact iff_of_true (by simp) (.inr ⟨_, _, _, short⟩)

end

/-- Checking goes over the items up to the first that finds fewer values than it takes. With the
variables it reports each use of one without a value among these items, in order, and behind them
the same as without the variables. That is at most that values are left over, or that there are too
many operators; this second, after the arguments missing for a function, exactly if this function is
the first to find too few values. There are too many operators exactly if there are no items, or
executing them comes to one that finds too few values. -/
theorem validate_reports (items : List Item) (bindings : Bindings) :
    validate items bindings false = (validate items bindings true).filter (fun c => !c.isUnset) ∧
    (∃ scanned rest height, items = scanned ++ rest ∧ height? 0 scanned = some height ∧
      (∀ i ∈ rest.head?, height < i.count) ∧
      validate items bindings true =
        (unboundIn bindings.contains scanned).map .unset ++ validate items bindings false) ∧
    (validate items bindings false = [] ∨ validate items bindings false = [.tooManyOperands] ∨
      validate items bindings false = [.tooManyOperators] ∨
      ∃ name, validate items bindings false = [.missingArguments name, .tooManyOperators]) ∧
    (∀ name, validate items bindings false = [.missingArguments name, .tooManyOperators] ↔
      ∃ before f after, FindsTooFew items before (.function f) after ∧ f.name = name) ∧
    ∀ checkVariables, .tooManyOperators ∈ validate items bindings checkVariables ↔
      items = [] ∨ ∃ before i after, FindsTooFew items before i after := by
  obtain ⟨scanned, structural, ending⟩ := exists_ending items
  have unchecked : validate items bindings false = structural := by
    have nothing : unboundIn (countsAsBound bindings false) scanned = [] :=
      unboundIn_of_bound (fun _ => rfl) scanned
    rw [validate_of_ending ending, nothing]
    rfl
  have checked : validate items bindings true =
      (unboundIn bindings.contains scanned).map .unset ++ structural :=
    validate_of_ending ending bindings true
  rw [unchecked]
  refine ⟨?_, ?_, ending.structural_cases, ending.function_iff, fun checkVariables => ?_⟩
  · have kept : structural.filter (fun c => !c.isUnset) = structural :=
      List.filter_eq_self.2 fun c member => by rw [ending.not_isUnset c member]; rfl
    rw [checked, List.filter_append, kept]
    simp [Complaint.isUnset]
  · obtain ⟨rest, height, split, counted, stops⟩ := ending.exists_rest
    exact ⟨scanned, rest, height, split, counted, stops, checked⟩
  · rw [validate_of_ending ending, List.mem_append, ← ending.mem_iff]
    simp

/-- The second variable is not gone over, as the operator in front of it finds one value only. -/
example : validate [.var "x", .operator .addition, .var "y"] {} true =
    [.unset "x", .tooManyOperators] := by decide

end Formula
