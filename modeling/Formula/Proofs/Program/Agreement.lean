import Formula.Operator.Standard
import Formula.Proofs.Program.Inspection

/-!
Checking and running agree. A valid program fails only where one of its rules does; an invalid one
has no value; and where no rule fails, running ends with the first thing that checking complains of.
-/

set_option autoImplicit false

namespace Formula

section
variable (bindings : Bindings)

/-- The error is the fault of a rule on the values that a run has taken off the stack for it. -/
def ComesFromRule (items : List Item) (error : EvaluationError) : Prop :=
  ∃ before i after stack arguments below use rule fault,
    items = before ++ i :: after ∧ run bindings .empty before = .ok stack ∧
    stack.popOnto [] i.count = some (arguments, below) ∧ i.rule? = some (use, rule) ∧
    rule arguments = .error fault ∧ error = fault.reported use

/-- No run of items up to some place pops an empty stack, and neither does taking the result. -/
def PopsFind (items : List Item) : Prop :=
  (∀ before i after stack, items = before ++ i :: after →
    run bindings .empty before = .ok stack → (stack.popOnto [] i.count).isSome) ∧
  ∀ stack, run bindings .empty items = .ok stack → stack.pop?.isSome

end

def StopsAt (isBound : String → Bool) (depth : Int) (items : List Item) (op : Operator) : Prop :=
  ∃ before after depth', items = before ++ .operator op :: after ∧
    (inspect isBound depth before).2 = some depth' ∧ depth' < op.arity.count

/-- What running reports at the item of a complaint. -/
inductive Foretells (isBound : String → Bool) (depth : Int) (items : List Item) :
    Complaint → EvaluationError → Prop where
  | unset (name : String) : Foretells isBound depth items (.unset name) (.unset name)
  | missingArguments (name : String) :
      Foretells isBound depth items (.missingArguments name) (.missingArguments name)
  | missingOperands (op : Operator) (stops : StopsAt isBound depth items op) :
      Foretells isBound depth items .tooManyOperators (.missingOperands op.symbol)

/-- What running reports at the first complaint about a program, be it about an item or about how
many values there are in the end. -/
inductive Matches (isBound : String → Bool) (items : List Item) :
    Complaint → EvaluationError → Prop where
  | item {complaint : Complaint} {error : EvaluationError}
      (foretells : Foretells isBound 0 items complaint error) :
      Matches isBound items complaint error
  | nothing (empty : items = []) : Matches isBound items .tooManyOperators .noValue
  | leftover : Matches isBound items .tooManyOperands .leftover

theorem Foretells.cons {isBound : String → Bool} {depth : Int} {i : Item} {items : List Item}
    {complaint : Complaint} {error : EvaluationError} (enough : i.count ≤ depth)
    (foretells : Foretells isBound (i.depthBehind depth) items complaint error) :
    Foretells isBound depth (i :: items) complaint error := by
  cases foretells with
  | unset name => exact .unset name
  | missingArguments name => exact .missingArguments name
  | missingOperands op stops =>
    obtain ⟨before, after, depth', rfl, final, few⟩ := stops
    refine .missingOperands op ⟨i :: before, after, depth', rfl, ?_, few⟩
    rw [inspect_cons_of_enough enough]
    exact final

section
variable {bindings : Bindings}

theorem countsAsBound_true (name : String) :
    countsAsBound bindings true name = (bindings.get? name).isSome := by
  simp [countsAsBound, Bindings.contains]

theorem depthBehind_of_taken {values : List Decimal} {i : Item} (enough : i.count ≤ values.length)
    (value : Decimal) :
    i.depthBehind values.length = ((value :: values.drop i.count).length : Int) := by
  rw [i.depthBehind_eq, List.length_cons, List.length_drop]
  omega

theorem complaints_of_value {values : List Decimal} {i : Item} {value : Decimal}
    (enough : i.count ≤ values.length)
    (computed : i.value bindings (values.take i.count).reverse = .ok value) :
    i.complaints (countsAsBound bindings true) values.length = [] := by
  obtain fine | ⟨name, rfl, unbound, _⟩ :=
    i.complaints_of_enough (countsAsBound bindings true) (Int.ofNat_le.2 enough)
  · exact fine
  · rw [countsAsBound_true, Option.isSome_eq_false_iff, Option.isNone_iff_eq_none] at unbound
    simp [Item.value, unbound] at computed

/-- Items that run to their end give no cause to complain. -/
theorem inspect_of_runOn_ok {items : List Item} {values values' : List Decimal}
    (runs : runOn bindings values items = .ok values') :
    inspect (countsAsBound bindings true) values.length items =
      ([], some (values'.length : Int)) := by
  induction items generalizing values with
  | nil => cases runs; rfl
  | cons i items ih =>
    have outcome := stepOn_outcome bindings values i
    rw [runOn_cons] at runs
    revert runs outcome
    generalize stepOn bindings values i = stepped
    rintro runs (_ | _ | _ | ⟨value, enough, computed⟩)
    · cases runs
    · cases runs
    · cases runs
    · rw [inspect_cons_of_enough (Int.ofNat_le.2 enough), complaints_of_value enough computed,
        depthBehind_of_taken enough value, ih runs]
      rfl

/-- The error is the fault of a rule on values that a run on lists has come to. -/
def RuleFails (bindings : Bindings) (values : List Decimal) (items : List Item)
    (error : EvaluationError) : Prop :=
  ∃ before i after values' use rule fault, items = before ++ i :: after ∧
    runOn bindings values before = .ok values' ∧ i.count ≤ values'.length ∧
    i.rule? = some (use, rule) ∧ rule (values'.take i.count).reverse = .error fault ∧
    error = fault.reported use

theorem RuleFails.cons {values values' : List Decimal} {i : Item} {items : List Item}
    {error : EvaluationError} (stepped : stepOn bindings values i = .ok values')
    (fails : RuleFails bindings values' items error) :
    RuleFails bindings values (i :: items) error := by
  obtain ⟨before, j, after, values'', use, rule, fault, rfl, runs, rest⟩ := fails
  refine ⟨i :: before, j, after, values'', use, rule, fault, rfl, ?_, rest⟩
  rw [runOn_cons, stepped]
  exact runs

/-- The first complaint, if there is one, tells how running ends. -/
def EndsAtComplaint (bindings : Bindings) (values : List Decimal) (items : List Item)
    (error : EvaluationError) : Prop :=
  ∃ complaint,
    (inspect (countsAsBound bindings true) values.length items).1.head? = some complaint ∧
    Foretells (countsAsBound bindings true) values.length items complaint error

theorem endsAtComplaint_of_few {values : List Decimal} {i : Item} (few : values.length < i.count)
    (items : List Item) : EndsAtComplaint bindings values (i :: items) i.shortage := by
  have few' : (values.length : Int) < i.count := Int.ofNat_lt.2 few
  unfold EndsAtComplaint
  rw [inspect_cons_of_few few']
  cases i with
  | number value => simp [Item.count] at few
  | var name => simp [Item.count] at few
  | operator op =>
    exact ⟨_, rfl, .missingOperands op ⟨[], items, _, rfl, rfl, few'⟩⟩
  | function f =>
    have complaints : (Item.function f).complaints (countsAsBound bindings true) values.length =
        [.missingArguments f.name] := if_pos few'
    refine ⟨.missingArguments f.name, ?_, .missingArguments f.name⟩
    rw [complaints]
    rfl

theorem endsAtComplaint_of_unbound {name : String} (unbound : bindings.get? name = none)
    (values : List Decimal) (items : List Item) :
    EndsAtComplaint bindings values (.var name :: items) (.unset name) := by
  have enough : (Item.var name).count ≤ (values.length : Int) := Int.natCast_nonneg _
  refine ⟨.unset name, ?_, .unset name⟩
  rw [inspect_cons_of_enough enough, Item.complaints, countsAsBound_true, unbound]
  rfl

theorem EndsAtComplaint.cons {values : List Decimal} {i : Item} {items : List Item}
    {value : Decimal} {error : EvaluationError} (enough : i.count ≤ values.length)
    (computed : i.value bindings (values.take i.count).reverse = .ok value)
    (ends : EndsAtComplaint bindings (value :: values.drop i.count) items error) :
    EndsAtComplaint bindings values (i :: items) error := by
  obtain ⟨complaint, first, foretells⟩ := ends
  rw [← depthBehind_of_taken enough value] at first foretells
  refine ⟨complaint, ?_, foretells.cons (Int.ofNat_le.2 enough)⟩
  rw [inspect_cons_of_enough (Int.ofNat_le.2 enough), complaints_of_value enough computed]
  exact first

/-- Items that do not run to their end stop at a rule that fails or at the first complaint. -/
theorem ends_of_runOn_error {items : List Item} {values : List Decimal} {error : EvaluationError}
    (runs : runOn bindings values items = .error error) :
    RuleFails bindings values items error ∨ EndsAtComplaint bindings values items error := by
  induction items generalizing values with
  | nil => cases runs
  | cons i items ih =>
    rw [runOn_cons] at runs
    generalize stepped : stepOn bindings values i = outcome at runs
    -- Only an item that has a value leaves the end to the items behind it.
    rcases stepped ▸ stepOn_outcome bindings values i with
      few | ⟨name, rfl, unbound⟩ | ⟨use, rule, fault, enough, applies, raises⟩ |
        ⟨value, enough, computed⟩
    · cases runs
      exact .inr (endsAtComplaint_of_few few items)
    · cases runs
      exact .inr (endsAtComplaint_of_unbound unbound values items)
    · cases runs
      exact .inl ⟨[], i, items, values, use, rule, fault, rfl, rfl, enough, applies, raises, rfl⟩
    · obtain fails | ends := ih runs
      · exact .inl (fails.cons stepped)
      · exact .inr (ends.cons enough computed)

theorem RuleFails.comesFromRule {items : List Item} {error : EvaluationError}
    (fails : RuleFails bindings [] items error) : ComesFromRule bindings items error := by
  obtain ⟨before, i, after, values, use, rule, fault, split, runs, enough, rest⟩ := fails
  obtain ⟨stack, ran, holds⟩ := run_of_runOn runs
  obtain ⟨below, popped, _⟩ := holds.popOnto enough []
  rw [List.append_nil] at popped
  exact ⟨before, i, after, stack, _, below, use, rule, fault, split, ran, popped, rest⟩

theorem popsFind_of_valid {items : List Item} (valid : validate items bindings true = []) :
    PopsFind bindings items := by
  have fine := validate_eq_nil_iff.1 valid
  constructor
  · rintro before i after stack rfl ran
    obtain ⟨values, runs, holds⟩ := runOn_of_run ran
    have inspected := inspect_of_runOn_ok runs
    rw [List.length_nil, Int.natCast_zero] at inspected
    rw [inspect_append inspected, Prod.mk.injEq] at fine
    -- Checking got past the item, so it saw enough values, and they are those on the stack.
    have enough : i.count ≤ values.length :=
      Int.ofNat_le.1 (enough_of_inspect (Prod.ext rfl fine.2))
    obtain ⟨below, popped, _⟩ := holds.popOnto enough []
    rw [popped]
    rfl
  · intro stack ran
    obtain ⟨values, runs, holds⟩ := runOn_of_run ran
    have inspected := inspect_of_runOn_ok runs
    rw [List.length_nil, Int.natCast_zero, fine, Prod.mk.injEq, Option.some.injEq] at inspected
    cases values with
    | nil => simp at inspected
    | cons value values =>
      obtain ⟨below, popped, _⟩ := holds.pop?_cons
      rw [popped]
      rfl

theorem runOn_of_evaluate {items : List Item} {value : Decimal}
    (computed : evaluate items bindings = .ok value) : runOn bindings [] items = .ok [value] := by
  rw [evaluate_eq_runOn] at computed
  cases runs : runOn bindings [] items with
  | error error => rw [runs] at computed; cases computed
  | ok values =>
    rw [runs] at computed
    change resultOn values = .ok value at computed
    match values with
    | [] => cases computed
    | [value'] => cases computed; rfl
    | _ :: _ :: _ => cases computed

theorem ruleFails_of_valid {items : List Item} (valid : validate items bindings true = []) :
    (∃ value, evaluate items bindings = .ok value) ∨
      ∃ error, evaluate items bindings = .error error ∧ RuleFails bindings [] items error := by
  have fine := validate_eq_nil_iff.1 valid
  rw [evaluate_eq_runOn]
  cases runs : runOn bindings [] items with
  | error error =>
    -- Running can not stop at a complaint, as there is none.
    obtain fails | ⟨complaint, first, _⟩ := ends_of_runOn_error runs
    · exact .inr ⟨error, rfl, fails⟩
    · rw [List.length_nil, Int.natCast_zero, fine] at first
      cases first
  | ok values =>
    have inspected := inspect_of_runOn_ok runs
    rw [List.length_nil, Int.natCast_zero, fine, Prod.mk.injEq, Option.some.injEq] at inspected
    match values with
    | [value] => exact .inl ⟨value, rfl⟩
    | [] => simp at inspected
    | _ :: _ :: _ =>
      simp only [List.length_cons] at inspected
      omega

theorem evaluate_of_valid {items : List Item} (valid : validate items bindings true = []) :
    (∃ value, evaluate items bindings = .ok value) ∨
      ∃ error, evaluate items bindings = .error error ∧ ComesFromRule bindings items error :=
  (ruleFails_of_valid valid).imp_right fun ⟨error, ended, fails⟩ =>
    ⟨error, ended, fails.comesFromRule⟩

theorem valid_of_evaluate {items : List Item} {value : Decimal}
    (computed : evaluate items bindings = .ok value) : validate items bindings true = [] :=
  validate_eq_nil_iff.2 (inspect_of_runOn_ok (runOn_of_evaluate computed))

-- If running stops, it does so at the first complaint or at a rule. If it does not, checking gets
-- to the end as well, and only the number of values left can be wrong.
theorem matches_of_invalid {items : List Item} {complaint : Complaint} {more : List Complaint}
    (found : validate items bindings true = complaint :: more)
    (noRule : ∀ error, ¬ComesFromRule bindings items error) :
    ∃ error, evaluate items bindings = .error error ∧
      Matches (countsAsBound bindings true) items complaint error := by
  rw [evaluate_eq_runOn]
  cases runs : runOn bindings [] items with
  | error error =>
    refine ⟨error, rfl, ?_⟩
    obtain fails | ⟨complaint', first, foretells⟩ := ends_of_runOn_error runs
    · exact absurd fails.comesFromRule (noRule error)
    · rw [List.length_nil, Int.natCast_zero] at first foretells
      have same : complaint' = complaint := by
        have same := head?_validate first
        rw [found] at same
        exact (Option.some.inj same).symm
      exact .item (same ▸ foretells)
  | ok values =>
    have inspected := inspect_of_runOn_ok runs
    rw [List.length_nil, Int.natCast_zero] at inspected
    simp only [validate, inspected, List.nil_append] at found
    cases values with
    | nil =>
      cases found
      refine ⟨.noValue, rfl, .nothing ?_⟩
      by_cases empty : items = []
      · exact empty
      · have someValue := one_le_of_inspect inspected empty
        simp at someValue
    | cons value others =>
      cases others with
      | nil => cases found
      | cons value' rest =>
        have many : (1 : Int) < (rest.length + 1 + 1 : Nat) := by omega
        simp only [List.length_cons, endComplaints, if_neg (Int.not_lt.2 (Int.le_of_lt many)),
          if_pos many] at found
        cases found
        exact ⟨.leftover, rfl, .leftover⟩

end

/-- Checking and running a program agree. If it is valid, it has a value or ends with the fault of a
rule, and every pop finds a value. If it is not, it has no value, and unless a rule fails before, it
ends with the error that the first complaint tells of. -/
theorem validate_agrees_with_evaluate (items : List Item) (bindings : Bindings) :
    (validate items bindings true = [] →
      ((∃ value, evaluate items bindings = .ok value) ∨
        ∃ error, evaluate items bindings = .error error ∧ ComesFromRule bindings items error) ∧
      PopsFind bindings items) ∧
    (validate items bindings true ≠ [] → ∀ value, evaluate items bindings ≠ .ok value) ∧
    ∀ complaint more, validate items bindings true = complaint :: more →
      (∀ error, ¬ComesFromRule bindings items error) →
      ∃ error, evaluate items bindings = .error error ∧
        Matches (countsAsBound bindings true) items complaint error := by
  refine ⟨fun valid => ⟨evaluate_of_valid valid, popsFind_of_valid valid⟩, ?_, ?_⟩
  · intro invalid value computed
    exact invalid (valid_of_evaluate computed)
  · intro complaint more found noRule
    exact matches_of_invalid found noRule

theorem validate_agrees_with_evaluate_on_sums :
    (validate [.number (.ofNat 1), .number (.ofNat 2), .operator .addition] {} true = [] ∧
      PopsFind {} [.number (.ofNat 1), .number (.ofNat 2), .operator .addition]) ∧
    (validate [.number (.ofNat 1), .number (.ofNat 2)] {} true ≠ [] ∧
      ∀ value, evaluate [.number (.ofNat 1), .number (.ofNat 2)] {} ≠ .ok value) ∧
    (validate [.number (.ofNat 1), .operator .addition] {} true = [.tooManyOperators] ∧
      (∀ error, ¬ComesFromRule {} [.number (.ofNat 1), .operator .addition] error) ∧
      ∃ error, evaluate [.number (.ofNat 1), .operator .addition] {} = .error error ∧
        Matches (countsAsBound {} true) [.number (.ofNat 1), .operator .addition]
          .tooManyOperators error) := by
  have fine : validate [.number (.ofNat 1), .number (.ofNat 2), .operator .addition] {} true = [] :=
    rfl
  have many : validate [.number (.ofNat 1), .number (.ofNat 2)] {} true ≠ [] := by decide
  have few : validate [.number (.ofNat 1), .operator .addition] {} true = [.tooManyOperators] := rfl
  have noRule : ∀ error, ¬ComesFromRule {} [.number (.ofNat 1), .operator .addition] error := by
    rintro error ⟨before, i, after, stack, arguments, below, use, rule, fault, split, ran, popped,
      applies, _⟩
    match before with
    | [] => cases split; cases applies
    | [_] => cases split; cases ran; cases popped
    | _ :: _ :: _ => simp at split
  exact ⟨⟨fine, ((validate_agrees_with_evaluate _ _).1 fine).2⟩,
    ⟨many, (validate_agrees_with_evaluate _ _).2.1 many⟩,
    few, noRule, (validate_agrees_with_evaluate _ _).2.2 _ _ few noRule⟩

end Formula
