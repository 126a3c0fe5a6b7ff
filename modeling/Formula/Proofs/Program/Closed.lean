import Formula.Builder
import Formula.Program.Mixed
import Formula.Proofs.Program.Run
import Formula.Proofs.Rule.Closed

/-!
Programs of closed rules. While such a program runs on finite values, every value on its stack is
finite, and it fails only for a lack or an excess of values, for want of a variable's value, or
outside the domain of a rule.
-/

set_option autoImplicit false

namespace Formula

/-! ### Kinds of errors -/

/-- What an error is about. The first five are about formulas and how they are used; the others come
from computing or from misuse of a rule or program. -/
inductive ErrorKind where
  | parse
  | configuration
  | arity
  | unsetVariable
  | domain
  | arithmetic
  | overflow
  | zeroDivision
  | value
  | type
  | lookup
  deriving DecidableEq, Repr

def Fault.errorKind : Fault → ErrorKind
  | .domain _ => .domain
  | .arity _ => .arity
  | .configuration _ => .configuration
  | .condition _ | .arithmetic _ => .arithmetic
  | .overflow _ => .overflow
  | .zeroDivision _ => .zeroDivision
  | .value _ => .value
  | .kind _ => .type
  | .lookup _ => .lookup

def EvaluationError.errorKind : EvaluationError → ErrorKind
  | .missingOperands _ | .missingArguments _ | .leftover | .noValue => .arity
  | .unset _ => .unsetVariable
  | .failed _ _ => .domain
  | .raised fault => fault.errorKind

def BuildError.errorKind : BuildError → ErrorKind
  | .refused _ | .nameClash _ => .configuration
  | .conversion _ => .parse

def Ends {ε α : Type} (good : α → Prop) (expected : ε → Prop) : Except ε α → Prop
  | .ok value => good value
  | .error error => expected error

section
variable {ε ε' α β : Type} {good : α → Prop} {good' : β → Prop} {expected : ε → Prop}
  {expected' : ε' → Prop} {result : Except ε α}

theorem Ends.imp {expected' : ε → Prop} (ends : Ends good expected result)
    (told : ∀ error, expected error → expected' error) : Ends good expected' result := by
  cases result with
  | error error => exact told error ends
  | ok a => exact ends

theorem Ends.bind (ends : Ends good expected result) {f : α → Except ε β}
    (later : ∀ a, good a → Ends good' expected (f a)) : Ends good' expected (result >>= f) := by
  cases result with
  | error error => exact ends
  | ok a => exact later a ends

theorem Ends.map (ends : Ends good expected result) {f : α → β}
    (later : ∀ a, good a → good' (f a)) : Ends good' expected (result.map f) := by
  cases result with
  | error error => exact ends
  | ok a => exact later a ends

theorem Ends.mapError (ends : Ends good expected result) {f : ε → ε'}
    (told : ∀ error, expected error → expected' (f error)) :
    Ends good expected' (result.mapError f) := by
  cases result with
  | error error => exact told error ends
  | ok a => exact ends

theorem Ends.foldlM {step : β → α → Except ε β} {entries : List α} {start : β}
    (begins : good' start)
    (goesOn : ∀ b, good' b → ∀ a ∈ entries, Ends good' expected (step b a)) :
    Ends good' expected (entries.foldlM step start) := by
  induction entries generalizing start with
  | nil => exact begins
  | cons a entries ih =>
    rw [List.foldlM_cons]
    refine (goesOn start begins a List.mem_cons_self).bind fun b good => ih good ?_
    exact fun b good a' member => goesOn b good a' (List.mem_cons_of_mem a member)

end

/-! ### Bindings -/

def Bindings.AllFinite (bindings : Bindings) : Prop :=
  ∀ name value, bindings.get? name = some value → value.isFinite = true

theorem Bindings.allFinite_set {bindings : Bindings} (finite : bindings.AllFinite) (name : String)
    {value : Decimal} (is : value.isFinite = true) : (bindings.set name value).AllFinite := by
  intro name' value' found
  rw [get?_set] at found
  split at found
  · cases found
    exact is
  · exact finite name' value' found

theorem Bindings.allFinite_of_entries {bindings : Bindings}
    (finite : ∀ entry ∈ bindings.entries, entry.2.isFinite = true) : bindings.AllFinite := by
  intro name value found
  obtain ⟨entry, first, rfl⟩ := Option.map_eq_some_iff.1 found
  exact finite entry (List.mem_of_find?_eq_some first)

theorem allFinite_constants : constants.AllFinite :=
  Bindings.allFinite_of_entries (by decide)

/-! ### Runs -/

/-- Whatever items have run, the stack gives as many values as it says it holds. -/
def NeverUnderflows (bindings : Bindings) (items : List Item) : Prop :=
  ∀ before after stack, items = before ++ after → run bindings .empty before = .ok stack →
    ∀ count, count ≤ stack.size → (stack.popOnto [] count).isSome

theorem neverUnderflows (bindings : Bindings) (items : List Item) :
    NeverUnderflows bindings items := by
  intro before after stack _ ran count enough
  obtain ⟨values, _, holds⟩ := runOn_of_run ran
  rw [holds.size_eq] at enough
  obtain ⟨below, popped, _⟩ := holds.popOnto enough []
  rw [popped]
  rfl

/-- The item computes finite values from finite values, or fails outside a domain. -/
def Item.IsClosed : Item → Prop
  | .number value => value.isFinite = true
  | .var _ => True
  | .operator op => Rule.IsClosed op.arity.count op.apply
  | .function f => Rule.IsClosed f.argumentCount f.apply

theorem Item.isClosed_rule {i : Item} {use : Use} {rule : Rule}
    (applies : i.rule? = some (use, rule)) (closed : i.IsClosed) :
    Rule.IsClosed i.count rule := by
  cases i with
  | number value => cases applies
  | var name => cases applies
  | operator op => cases applies; exact closed
  | function f => cases applies; exact closed

def EvaluationError.IsExpected (error : EvaluationError) : Prop :=
  error.errorKind = .arity ∨ error.errorKind = .unsetVariable ∨ error.errorKind = .domain

def AllFinite (values : List Decimal) : Prop := ∀ x ∈ values, x.isFinite = true

theorem AllFinite.taken {values : List Decimal} (finite : AllFinite values) {count : Nat}
    (enough : count ≤ values.length) :
    (values.take count).reverse.length = count ∧ AllFinite (values.take count).reverse := by
  refine ⟨?_, fun x member => finite x (List.mem_of_mem_take (List.mem_reverse.1 member))⟩
  rw [List.length_reverse, List.length_take]
  omega

theorem Fault.errorKind_reported {fault : Fault} (isDomain : fault.IsDomain) (use : Use) :
    (fault.reported use).errorKind = .domain := by
  unfold reported
  split
  · rfl
  · rename_i noFailure
    obtain failure | ⟨cause, rfl⟩ := isDomain
    · exact absurd failure noFailure
    · rfl

theorem Item.isExpected_shortage (i : Item) : i.shortage.IsExpected := by
  cases i <;> exact .inl rfl

theorem Rule.ends_of_closes {result : Except Fault Decimal} (closes : Rule.Closes result)
    (use : Use) : Ends (·.isFinite = true) EvaluationError.IsExpected
      (result.mapError (Fault.reported use)) := by
  cases result with
  | ok value => exact closes
  | error fault => exact .inr (.inr (Fault.errorKind_reported closes use))

section
variable {bindings : Bindings} (bound : bindings.AllFinite)
include bound

theorem Item.value_ends {i : Item} (closed : i.IsClosed) {arguments : List Decimal}
    (enough : arguments.length = i.count) (finite : AllFinite arguments) :
    Ends (·.isFinite = true) EvaluationError.IsExpected (i.value bindings arguments) := by
  cases i with
  | number value => exact closed
  | var name =>
    simp only [value]
    cases found : bindings.get? name with
    | none => exact .inr (.inl rfl)
    | some value => exact bound name value found
  | operator op => exact Rule.ends_of_closes (closed arguments enough finite) _
  | function f => exact Rule.ends_of_closes (closed arguments enough finite) _

theorem stepOn_ends {i : Item} (closed : i.IsClosed) {values : List Decimal}
    (finite : AllFinite values) :
    Ends AllFinite EvaluationError.IsExpected (stepOn bindings values i) := by
  unfold stepOn
  by_cases few : values.length < i.count
  · rw [if_pos few]
    exact i.isExpected_shortage
  · rw [if_neg few]
    obtain ⟨taken, takenFinite⟩ := finite.taken (Nat.le_of_not_lt few)
    have ends := i.value_ends bound closed taken takenFinite
    refine ends.map fun value is x member => ?_
    rcases List.mem_cons.1 member with rfl | below
    · exact is
    · exact finite x (List.mem_of_mem_drop below)

theorem runOn_ends {items : List Item} (closed : ∀ i ∈ items, i.IsClosed) {values : List Decimal}
    (finite : AllFinite values) :
    Ends AllFinite EvaluationError.IsExpected (runOn bindings values items) :=
  Ends.foldlM finite fun _ finite' i member => stepOn_ends bound (closed i member) finite'

theorem evaluate_ends {items : List Item} (closed : ∀ i ∈ items, i.IsClosed) :
    Ends (·.isFinite = true) EvaluationError.IsExpected (evaluate items bindings) := by
  have nothing : AllFinite [] := nofun
  rw [evaluate_eq_runOn]
  -- Whatever number of values is left, the one that may be the result is finite.
  refine (runOn_ends bound closed nothing).bind fun values finite => ?_
  match values with
  | [] => exact .inl rfl
  | [value] => exact finite value List.mem_cons_self
  | _ :: _ :: _ => exact .inl rfl

end

end Formula
