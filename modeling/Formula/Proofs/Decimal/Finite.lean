import Formula.Decimal.Integral
import Formula.Decimal.Order

/-!
Decimal operations on finite numbers: their results are finite, or there is none.
-/

set_option autoImplicit false

namespace Formula.Decimal

def EndsFinite (result : Except Condition Decimal) : Prop :=
  ∀ value, result = .ok value → value.isFinite = true

theorem endsFinite_ok {value : Decimal} (finite : value.isFinite = true) :
    EndsFinite (.ok value) := by
  intro value' same
  cases same
  exact finite

theorem endsFinite_error (condition : Condition) : EndsFinite (.error condition) := nofun

theorem exists_of_isFinite {x : Decimal} (finite : x.isFinite = true) :
    ∃ negative coefficient exponent, x = .finite negative coefficient exponent := by
  cases x with
  | finite negative coefficient exponent => exact ⟨negative, coefficient, exponent, rfl⟩
  | infinity negative => cases finite
  | nan signaling negative payload => cases finite

theorem isFinite_negate (x : Decimal) : x.negate.isFinite = x.isFinite := by
  cases x <;> rfl

theorem isFinite_abs (x : Decimal) : x.abs.isFinite = x.isFinite := by
  cases x <;> rfl

/-! ### Rounding -/

theorem endsFinite_bounded (negative : Bool) (coefficient : Nat) (exponent : Int) :
    EndsFinite (bounded negative coefficient exponent) := by
  unfold bounded
  split
  · exact endsFinite_error _
  · exact endsFinite_ok rfl

theorem endsFinite_round (negative : Bool) (coefficient : Nat) (exponent : Int) :
    EndsFinite (round negative coefficient exponent) := by
  simp only [round]
  split
  · exact endsFinite_ok rfl
  · split
    · exact endsFinite_bounded _ _ _
    · split
      · exact endsFinite_bounded _ _ _
      · exact endsFinite_bounded _ _ _

theorem endsFinite_addAligned (highNegative : Bool) (high : Nat) (highExponent : Int)
    (lowNegative : Bool) (low : Nat) (lowExponent : Int) :
    EndsFinite (addAligned highNegative high highExponent lowNegative low lowExponent) := by
  simp only [addAligned]
  split
  · exact endsFinite_round _ _ _
  · exact endsFinite_round _ _ _

/-! ### Arithmetic -/

section
variable {x y : Decimal} (left : x.isFinite = true) (right : y.isFinite = true)
include left right

theorem endsFinite_add : EndsFinite (x.add y) := by
  obtain ⟨n₁, c₁, e₁, rfl⟩ := exists_of_isFinite left
  obtain ⟨n₂, c₂, e₂, rfl⟩ := exists_of_isFinite right
  simp only [add, nanResult?]
  split
  · exact endsFinite_addAligned _ _ _ _ _ _
  · exact endsFinite_addAligned _ _ _ _ _ _

theorem endsFinite_subtract : EndsFinite (x.subtract y) := by
  obtain ⟨n₁, c₁, e₁, rfl⟩ := exists_of_isFinite left
  obtain ⟨n₂, c₂, e₂, rfl⟩ := exists_of_isFinite right
  simp only [subtract, nanResult?]
  exact endsFinite_add rfl rfl

theorem endsFinite_multiply : EndsFinite (x.multiply y) := by
  obtain ⟨n₁, c₁, e₁, rfl⟩ := exists_of_isFinite left
  obtain ⟨n₂, c₂, e₂, rfl⟩ := exists_of_isFinite right
  simp only [multiply, nanResult?]
  exact endsFinite_round _ _ _

theorem endsFinite_divide : EndsFinite (x.divide y) := by
  obtain ⟨n₁, c₁, e₁, rfl⟩ := exists_of_isFinite left
  obtain ⟨n₂, c₂, e₂, rfl⟩ := exists_of_isFinite right
  simp only [divide, nanResult?]
  split
  · exact endsFinite_error _
  · split
    · exact endsFinite_round _ _ _
    · exact endsFinite_round _ _ _

end

/-! ### Whole numbers and signs -/

theorem endsFinite_toIntegral {x : Decimal} (finite : x.isFinite = true) (away : Bool → Bool) :
    EndsFinite (x.toIntegral away) := by
  obtain ⟨negative, coefficient, exponent, rfl⟩ := exists_of_isFinite finite
  simp only [toIntegral]
  split
  · exact endsFinite_ok rfl
  · exact endsFinite_ok rfl

theorem endsFinite_signum (x : Decimal) : EndsFinite x.signum := by
  unfold signum
  cases order x (.ofNat 0) with
  | error condition => exact endsFinite_error condition
  | ok result =>
    cases result with
    | lt => exact endsFinite_ok rfl
    | eq => exact endsFinite_ok rfl
    | gt => exact endsFinite_ok rfl

end Formula.Decimal
