import Formula.Proofs.Decimal.Finite
import Formula.Function.Standard

/-!
The standard operators and functions are closed: on as many finite arguments as they take they have
a finite value, or say that the arguments lie outside their domain. The functions of doubles may
give any double or fail.
-/

set_option autoImplicit false

namespace Formula

def Fault.IsDomain (fault : Fault) : Prop :=
  fault.isComputational = true ∨ ∃ cause, fault = .domain cause

namespace Rule

def Closes : Except Fault Decimal → Prop
  | .ok value => value.isFinite = true
  | .error fault => fault.IsDomain

/-- On as many finite arguments as are expected the rule has a finite value or a fault of the
domain. -/
def IsClosed (count : Nat) (rule : Rule) : Prop :=
  ∀ arguments : List Decimal, arguments.length = count → (∀ x ∈ arguments, x.isFinite = true) →
    Closes (rule arguments)

theorem closes_domain (cause : DomainCause) : Closes (.error (.domain cause)) := .inr ⟨cause, rfl⟩

theorem closes_lift {result : Except Decimal.Condition Decimal}
    (finite : Decimal.EndsFinite result) : Closes (lift result) := by
  cases result with
  | ok value => exact finite value rfl
  | error condition => exact .inl rfl

theorem isClosed_unary {f : Decimal → Except Fault Decimal}
    (closes : ∀ x : Decimal, x.isFinite = true → Closes (f x)) : IsClosed 1 (unary f) := by
  intro arguments one finite
  obtain ⟨x, rfl⟩ := List.length_eq_one_iff.1 one
  exact closes x (finite x List.mem_cons_self)

theorem isClosed_binary {f : Decimal → Decimal → Except Fault Decimal}
    (closes : ∀ x y : Decimal, x.isFinite = true → y.isFinite = true → Closes (f x y)) :
    IsClosed 2 (binary f) := by
  intro arguments two finite
  match arguments, two with
  | [x, y], _ => exact closes x y (finite x (by simp)) (finite y (by simp))

theorem closes_ofDouble (what : String) (x : Float) : Closes (ofDouble what x) := by
  unfold ofDouble
  split
  · rename_i value found
    obtain ⟨parts, _, rfl⟩ := Option.map_eq_some_iff.1 found
    rfl
  · exact closes_domain _

end Rule

open Rule

/-! ### Operators -/

namespace Operator

theorem closes_quotient {x y : Decimal} (left : x.isFinite = true) (right : y.isFinite = true) :
    Closes (quotient x y) := by
  unfold quotient
  split
  · exact closes_domain _
  · exact closes_lift (Decimal.endsFinite_divide left right)

theorem closes_power (base exponent : Decimal) : Closes (power base exponent) := by
  unfold power
  dsimp only
  split
  · exact closes_ofDouble _ _
  · exact closes_domain _

theorem closes_modulo (x y : Decimal) : Closes (modulo x y) := by
  unfold modulo
  split
  · exact closes_domain _
  · cases toDouble x with
    | error reason => exact .inl rfl
    | ok left =>
      cases toDouble y with
      | error reason => exact .inl rfl
      | ok right =>
        change Closes ((Double.remainder left right).mapError (fun failure => .value failure.text)
          >>= ofDouble "'%'")
        cases Double.remainder left right with
        | error failure => exact .inl rfl
        | ok value => exact closes_ofDouble _ _

theorem isClosed_standard {arity : Arity} {symbol : String} {op : Operator}
    (found : standard? arity symbol = some op) : IsClosed op.arity.count op.apply := by
  have sum : IsClosed 2 addition.apply :=
    isClosed_binary fun x y left right => closes_lift (Decimal.endsFinite_add left right)
  have difference : IsClosed 2 subtraction.apply :=
    isClosed_binary fun x y left right => closes_lift (Decimal.endsFinite_subtract left right)
  have product : IsClosed 2 multiplication.apply :=
    isClosed_binary fun x y left right => closes_lift (Decimal.endsFinite_multiply left right)
  have ratio : IsClosed 2 division.apply :=
    isClosed_binary fun x y left right => closes_quotient left right
  have raised : IsClosed 2 exponentiation.apply := isClosed_binary fun x y _ _ => closes_power x y
  have rest : IsClosed 2 remainder.apply := isClosed_binary fun x y _ _ => closes_modulo x y
  have same : IsClosed 1 identity.apply := isClosed_unary fun x finite => finite
  have opposite : IsClosed 1 negation.apply :=
    isClosed_unary fun x finite => (Decimal.isFinite_negate x).trans finite
  unfold standard? at found
  split at found
  · cases arity <;> cases found
    · exact same
    · exact sum
  · cases arity <;> cases found
    · exact opposite
    · exact difference
  · cases found; exact product
  · cases found; exact ratio
  · cases found; exact ratio
  · cases found; exact raised
  · cases found; exact rest
  · cases found

end Operator

/-! ### Functions -/

namespace Function

-- Nothing is asked of the function of doubles: a result that is no finite number is turned into a
-- fault of the domain, as is every failure.
theorem isClosed_throughDoubles (count : Nat) (name : String)
    (f : List Float → Except Double.Failure Float) : IsClosed count (throughDoubles name f) := by
  intro arguments _ _
  unfold throughDoubles
  split
  · exact closes_domain _
  · split
    · exact closes_ofDouble _ _
    · exact closes_domain _
    · exact closes_domain _

theorem isClosed_exact {f : Decimal → Except Decimal.Condition Decimal} (name : String)
    (nameValid : isFunctionName name = true)
    (finite : ∀ x : Decimal, x.isFinite = true → Decimal.EndsFinite (f x)) :
    IsClosed (exact name f nameValid).argumentCount (exact name f nameValid).apply :=
  isClosed_unary fun x is => closes_lift (finite x is)

theorem isClosed_of_mem_standard :
    ∀ f ∈ standard, IsClosed f.argumentCount f.apply := by
  simp only [standard, List.forall_mem_cons]
  and_intros
  all_goals try exact isClosed_throughDoubles _ _ _
  · exact isClosed_exact _ _ fun x finite =>
      Decimal.endsFinite_ok ((Decimal.isFinite_abs x).trans finite)
  · exact isClosed_exact _ _ fun x finite => Decimal.endsFinite_toIntegral finite _
  · exact isClosed_exact _ _ fun x finite => Decimal.endsFinite_toIntegral finite _
  · exact isClosed_exact _ _ fun x _ => Decimal.endsFinite_signum x
  · nofun

theorem isClosed_standard {name : String} {f : Function} (found : standard? name = some f) :
    IsClosed f.argumentCount f.apply :=
  isClosed_of_mem_standard f (List.mem_of_find?_eq_some found)

end Function

end Formula
