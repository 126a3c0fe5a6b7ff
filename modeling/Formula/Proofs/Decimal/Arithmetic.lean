import Formula.Operator.Standard
import Formula.Proofs.Decimal.Finite
import Formula.Proofs.Decimal.Rounding
import Formula.Proofs.Program.Closed
import Mathlib.Data.Nat.Cast.Field
import Mathlib.Data.Nat.Cast.Order.Field

/-!
Sums, differences, products and quotients are the exact ones, rounded once. Where an operation
rounds another number than the exact one, that number differs only beyond the digits that rounding
looks at: a small summand that is counted as a unit far below the other, and the digit that stands
for the remainder of a division.
-/

set_option autoImplicit false

namespace Formula

/-! ### Numbers that are rounded alike -/

theorem nearest_signed (negative : Bool) {x : ℚ} (nonneg : 0 ≤ x) :
    nearest (if negative then -x else x) = if negative then -magnitude x else magnitude x := by
  have unsigned : nearest x = magnitude x := if_neg (not_lt.2 nonneg)
  cases negative with
  | false => exact unsigned
  | true => exact (nearest_neg x).trans (congrArg _ unsigned)

theorem nearest_eq_zero_iff {x : ℚ} : nearest x = 0 ↔ x = 0 := by
  constructor
  · intro zero
    by_contra nonzero
    have := magnitude_pos nonzero
    rw [← abs_nearest, zero, abs_zero] at this
    exact lt_irrefl _ this
  · rintro rfl
    have := nearest_neg 0
    rw [neg_zero] at this
    linarith

/-- Beside a multiple of five units that has enough digits, all summands of one sign that are no
larger than a unit are alike to rounding. -/
theorem nearest_add_congr {high low low' : ℚ} (edge m : ℤ) (multiple : high = m * (5 * 10 ^ edge))
    (large : 10 ^ (edge + 35) ≤ |high|) (small : |low| ≤ 10 ^ edge) (small' : |low'| ≤ 10 ^ edge)
    (sign : 0 < low * low') : nearest (high + low) = nearest (high + low') := by
  wlog positive : 0 ≤ high generalizing high low low' m
  · have mirrored : nearest (-high + -low) = nearest (-high + -low') :=
      this (-m) (by rw [multiple]; push_cast; ring) (by rwa [abs_neg]) (by rwa [abs_neg])
        (by rwa [abs_neg]) (by linarith) (by linarith)
    rwa [← neg_add, ← neg_add, nearest_neg, nearest_neg, neg_inj] at mirrored
  have unit : (0 : ℚ) < 10 ^ edge := by positivity
  have digits : (10 : ℚ) ^ edge ≤ 10 ^ (edge + 34) := zpow_le_zpow_right₀ (by norm_num) (by omega)
  rw [abs_of_nonneg positive, show edge + 35 = edge + 34 + 1 by omega,
    zpow_add_one₀ (by norm_num)] at large
  rw [abs_le] at small small'
  have size : |high + low| = high + low := abs_of_pos (by linarith)
  have size' : |high + low'| = high + low' := abs_of_pos (by linarith)
  have many : edge + Decimal.precision ≤ leading (high + low) := by
    rw [le_leading_iff (by linarith), size]
    exact le_trans (b := 10 ^ (edge + 34)) le_rfl (by linarith)
  -- Both sums lie between the multiple and the next one, above or below it by the sign of the
  -- summands.
  refine nearest_congr (iff_of_false (by linarith) (by linarith)) ?_
  rcases pos_and_pos_or_neg_and_neg_of_mul_pos sign with ⟨above, above'⟩ | ⟨below, below'⟩
  · refine magnitude_congr (m := m) ?_ ?_ (by linarith) many
    · rw [size]
      exact ⟨by linarith, by linarith⟩
    · rw [size']
      exact ⟨by linarith, by linarith⟩
  · refine magnitude_congr (m := m - 1) ?_ ?_ (by linarith) many
    · rw [size]
      exact ⟨by push_cast; linarith, by push_cast; linarith⟩
    · rw [size']
      exact ⟨by push_cast; linarith, by push_cast; linarith⟩

namespace Decimal

/-- What rounding makes of a number: the nearest number of 34 digits, or an overflow where its
leading digit is out of range. -/
structure Rounded (x : ℚ) (result : Except Condition Decimal) : Prop where
  value : leading (nearest x) ≤ maxExponent → ∃ negative coefficient exponent,
    result = .ok (.finite negative coefficient exponent) ∧
      (Decimal.finite negative coefficient exponent).toRat = nearest x ∧
        digitCount coefficient ≤ precision
  overflow : maxExponent < leading (nearest x) → result = .error .overflow

section
variable {x : ℚ} (nonzero : x ≠ 0) (normal : -maxExponent ≤ leading (nearest x))
include nonzero normal

/-- What is rounded may be any number that has the same nearest number. -/
theorem rounded_round {negative : Bool} {coefficient : Nat} {exponent : ℤ}
    (alike : nearest (Decimal.finite negative coefficient exponent).toRat = nearest x) :
    Rounded x (round negative coefficient exponent) := by
  have someUnit : coefficient ≠ 0 := by
    rintro rfl
    rw [toRat_zero, nearest_eq_zero_iff.2 rfl] at alike
    exact nonzero (nearest_eq_zero_iff.1 alike.symm)
  rw [toRat_finite, nearest_signed _ (by positivity)] at alike
  have size : leading (nearest x) = leading (magnitude (coefficient * 10 ^ exponent)) := by
    rw [← alike, leading, leading]
    cases negative with
    | false => rfl
    | true => exact congrArg _ (abs_neg _)
  obtain ⟨coefficient', exponent', someUnit', short, same, rounds⟩ :=
    exists_bounded_of_round negative someUnit (size ▸ normal)
  rw [rounds, bounded_eq negative someUnit', same, ← size]
  constructor
  · intro range
    refine ⟨negative, coefficient', exponent', if_neg (not_lt.2 range), ?_, short⟩
    rw [toRat_finite, same, alike]
  · intro high
    exact if_pos high

theorem rounded_roundSum {left right exponent : ℤ} (bothNegative : Bool)
    (alike : nearest ((left + right : ℤ) * 10 ^ exponent) = nearest x) :
    Rounded x (roundSum left right exponent bothNegative) := by
  have someUnit : left + right ≠ 0 := by
    intro zero
    rw [zero, Int.cast_zero, zero_mul, nearest_eq_zero_iff.2 rfl] at alike
    exact nonzero (nearest_eq_zero_iff.1 alike.symm)
  have parts : signed (left + right < 0) (left + right).natAbs = left + right := by
    simp only [signed, decide_eq_true_eq]
    split
    · omega
    · omega
  simp only [roundSum, if_neg someUnit]
  apply rounded_round nonzero normal
  rw [toRat, parts, alike]

end

/-! ### Sums -/

theorem signed_mul (negative : Bool) (coefficient n : Nat) :
    signed negative (coefficient * n) = signed negative coefficient * n := by
  cases negative with
  | false => simp [signed]
  | true => simp [signed]

theorem abs_toRat (negative : Bool) (coefficient : Nat) (exponent : ℤ) :
    |(Decimal.finite negative coefficient exponent).toRat| = coefficient * 10 ^ exponent := by
  have nonneg : (0 : ℚ) ≤ coefficient * 10 ^ exponent := by positivity
  rw [toRat_finite]
  cases negative with
  | false => exact abs_of_nonneg nonneg
  | true => exact (abs_neg _).trans (abs_of_nonneg nonneg)

theorem toRat_lower (negative : Bool) (coefficient places : Nat) (exponent : ℤ) :
    (Decimal.finite negative coefficient (exponent + places)).toRat =
      signed negative (coefficient * tenPower places) * 10 ^ exponent := by
  rw [toRat, signed_mul, zpow_ten_add]
  push_cast
  ring

/-- A single unit at the guard exponent stands for every summand that lies below. -/
theorem nearest_guard {highNegative lowNegative : Bool} {high low places : Nat}
    {edge lowExponent : ℤ} (someHigh : high ≠ 0) (someLow : low ≠ 0)
    (guarded : guardExponent high (edge + places) = edge)
    (below : lowExponent + digitCount low - 1 < edge) :
    nearest ((Decimal.finite highNegative high (edge + places)).toRat +
        (Decimal.finite lowNegative 1 edge).toRat) =
      nearest ((Decimal.finite highNegative high (edge + places)).toRat +
        (Decimal.finite lowNegative low lowExponent).toRat) := by
  simp only [guardExponent, precision] at guarded
  -- The guard exponent lies below the digits of the other summand, which is a multiple of ten units
  -- there.
  obtain ⟨fewer, rfl⟩ : ∃ fewer, places = fewer + 1 :=
    Nat.exists_eq_add_one_of_ne_zero (by rintro rfl; omega)
  have tens : (tenPower (fewer + 1) : ℚ) = 10 * tenPower fewer := by
    exact_mod_cast Nat.pow_succ'
  refine nearest_add_congr edge (signed highNegative (2 * high * tenPower fewer)) ?_ ?_ ?_ ?_ ?_
  · rw [toRat_lower, signed_mul, signed_mul, mul_comm 2 high, signed_mul]
    push_cast
    rw [tens]
    ring
  · have positive : (0 : ℚ) < high * 10 ^ (edge + (fewer + 1 : ℕ)) := by positivity
    rw [abs_toRat, ← abs_of_pos positive, ← le_leading_iff positive.ne', leading_parts someHigh]
    omega
  · rw [abs_toRat, Nat.cast_one, one_mul]
  · have positive : (0 : ℚ) < low * 10 ^ lowExponent := by positivity
    rw [abs_toRat, ← abs_of_pos positive]
    refine le_of_lt ?_
    rw [← leading_lt_iff positive.ne', leading_parts someLow]
    exact below
  · rw [toRat_finite, toRat_finite]
    cases lowNegative with
    | false => simp only [Bool.false_eq_true, if_false]; positivity
    | true => simp only [if_true, neg_mul_neg]; positivity

section
variable {x : ℚ} (nonzero : x ≠ 0) (normal : -maxExponent ≤ leading (nearest x))
include nonzero normal

theorem rounded_aligned {highNegative lowNegative : Bool} {high low places : Nat} {exponent : ℤ}
    (bothNegative : Bool)
    (alike : nearest ((Decimal.finite highNegative high (exponent + places)).toRat +
      (Decimal.finite lowNegative low exponent).toRat) = nearest x) :
    Rounded x (roundSum (signed highNegative (high * tenPower places)) (signed lowNegative low)
      exponent bothNegative) := by
  apply rounded_roundSum nonzero normal
  rw [Int.cast_add, add_mul, ← toRat_lower]
  exact alike

theorem rounded_addAligned {highNegative lowNegative : Bool} {high low : Nat}
    {highExponent lowExponent : ℤ} (order : lowExponent ≤ highExponent)
    (sum : (Decimal.finite highNegative high highExponent).toRat +
      (Decimal.finite lowNegative low lowExponent).toRat = x) :
    Rounded x
      (addAligned highNegative high highExponent lowNegative low lowExponent) := by
  rw [addAligned]
  dsimp only
  split
  case isTrue zero =>
    apply rounded_roundSum nonzero normal
    rw [← sum, zero, toRat_zero, zero_add, zero_add]
    rfl
  case isFalse someHigh =>
    split
    case isTrue below =>
      -- The lower summand is exchanged for a single unit at the guard exponent, or is zero.
      obtain ⟨places, edge⟩ : ∃ places : Nat,
          guardExponent high highExponent + places = highExponent :=
        Int.le.dest (by simp only [guardExponent]; omega)
      have guarded := congrArg (guardExponent high) edge
      dsimp only
      rw [show (highExponent - guardExponent high highExponent).toNat = places by omega]
      generalize guardExponent high highExponent = e at *
      obtain rfl := edge
      apply rounded_aligned nonzero normal
      rw [← sum]
      rcases Nat.eq_zero_or_pos low with rfl | someLow
      · rw [Nat.zero_min, toRat_zero, toRat_zero]
      · rw [min_eq_right someLow]
        exact nearest_guard someHigh someLow.ne' guarded below
    case isFalse =>
      obtain ⟨places, rfl⟩ := Int.le.dest order
      rw [show (lowExponent + places - lowExponent).toNat = places by omega]
      exact rounded_aligned nonzero normal _ (congrArg nearest sum)

end

theorem rounded_add {x y : Decimal} (finite : x.isFinite = true) (finite' : y.isFinite = true)
    (nonzero : x.toRat + y.toRat ≠ 0)
    (normal : -maxExponent ≤ leading (nearest (x.toRat + y.toRat))) :
    Rounded (x.toRat + y.toRat) (x.add y) := by
  obtain ⟨n₁, c₁, e₁, rfl⟩ := exists_of_isFinite finite
  obtain ⟨n₂, c₂, e₂, rfl⟩ := exists_of_isFinite finite'
  simp only [add, nanResult?]
  split
  case isTrue less => exact rounded_addAligned nonzero normal less.le (add_comm _ _)
  case isFalse more => exact rounded_addAligned nonzero normal (not_lt.1 more) rfl

theorem rounded_subtract {x y : Decimal} (finite : x.isFinite = true)
    (finite' : y.isFinite = true) (nonzero : x.toRat - y.toRat ≠ 0)
    (normal : -maxExponent ≤ leading (nearest (x.toRat - y.toRat))) :
    Rounded (x.toRat - y.toRat) (x.subtract y) := by
  have negated : y.negate.isFinite = true := (isFinite_negate y).trans finite'
  rw [sub_eq_add_neg, ← toRat_negate] at *
  have rounded := rounded_add finite negated nonzero normal
  obtain ⟨n₁, c₁, e₁, rfl⟩ := exists_of_isFinite finite
  obtain ⟨n₂, c₂, e₂, rfl⟩ := exists_of_isFinite finite'
  exact rounded

/-! ### Products and quotients -/

theorem rounded_multiply {x y : Decimal} (finite : x.isFinite = true)
    (finite' : y.isFinite = true) (nonzero : x.toRat * y.toRat ≠ 0)
    (normal : -maxExponent ≤ leading (nearest (x.toRat * y.toRat))) :
    Rounded (x.toRat * y.toRat) (x.multiply y) := by
  obtain ⟨n₁, c₁, e₁, rfl⟩ := exists_of_isFinite finite
  obtain ⟨n₂, c₂, e₂, rfl⟩ := exists_of_isFinite finite'
  simp only [multiply, nanResult?]
  refine rounded_round nonzero normal (congrArg nearest ?_)
  have signs : signed (n₁ != n₂) (c₁ * c₂) = signed n₁ c₁ * signed n₂ c₂ := by
    cases n₁ <;> cases n₂ <;> simp [signed]
  rw [toRat, toRat, toRat, signs, zpow_add₀ (by norm_num)]
  push_cast
  ring

theorem toRat_div (n₁ n₂ : Bool) (c₁ c₂ : Nat) (e₁ e₂ : ℤ) :
    (Decimal.finite n₁ c₁ e₁).toRat / (Decimal.finite n₂ c₂ e₂).toRat =
      if n₁ != n₂ then -((c₁ : ℚ) / c₂ * 10 ^ (e₁ - e₂)) else c₁ / c₂ * 10 ^ (e₁ - e₂) := by
  have parts : (c₁ : ℚ) / c₂ * 10 ^ (e₁ - e₂) = c₁ * 10 ^ e₁ / (c₂ * 10 ^ e₂) := by
    rw [zpow_sub₀ (by norm_num), div_mul_div_comm]
  rw [toRat_finite, toRat_finite, parts]
  cases n₁ <;> cases n₂ <;> simp [neg_div, div_neg]

theorem stripZeros_eq (ideal : ℤ) (coefficient : Nat) (exponent : ℤ) :
    ((stripZeros ideal coefficient exponent).1 : ℚ) *
      10 ^ (stripZeros ideal coefficient exponent).2 = coefficient * 10 ^ exponent := by
  induction coefficient, exponent using stripZeros.induct ideal with
  | case1 coefficient exponent zeros ih =>
    have tenfold : (coefficient : ℚ) = (coefficient / 10 : ℕ) * 10 := by
      exact_mod_cast (Nat.div_mul_cancel (Nat.dvd_of_mod_eq_zero zeros.2.1)).symm
    rw [stripZeros, if_pos zeros, ih, tenfold, zpow_add_one₀ (by norm_num)]
    ring
  | case2 coefficient exponent done => rw [stripZeros, if_neg done]

theorem tenPower_shift (shift : ℤ) :
    (tenPower shift.toNat : ℚ) = 10 ^ shift * tenPower (-shift).toNat := by
  obtain ⟨n, rfl | rfl⟩ := Int.eq_nat_or_neg shift
  · simp [cast_tenPower]
  · simp [cast_tenPower]

theorem tenPower_le_shifted {dividend : Nat} (nonzero : dividend ≠ 0) (divisor : Nat) {shift : ℤ}
    (enough : shift = (digitCount divisor : ℤ) - digitCount dividend + precision + 1) :
    tenPower precision * (divisor * tenPower (-shift).toNat) ≤
      dividend * tenPower shift.toNat := by
  obtain ⟨places, count⟩ : ∃ places, digitCount dividend = places + 1 :=
    ⟨Nat.log 10 dividend, digitCount_eq dividend⟩
  have least : tenPower places ≤ dividend := tenPower_le_of_lt_digitCount nonzero (by omega)
  have same : precision + (digitCount divisor + (-shift).toNat) = places + shift.toNat := by omega
  calc tenPower precision * (divisor * tenPower (-shift).toNat)
    _ ≤ tenPower precision * (tenPower (digitCount divisor) * tenPower (-shift).toNat) := by
      gcongr
      exact (lt_tenPower_digitCount divisor).le
    _ = tenPower places * tenPower shift.toNat := by
      rw [← tenPower_add, ← tenPower_add, ← tenPower_add, same]
    _ ≤ dividend * tenPower shift.toNat := by gcongr

/-- The remainder of a division counts for rounding as a digit between zero and five does. -/
theorem magnitude_remainder {dividend divisor : Nat} (nonzero : divisor ≠ 0)
    (many : tenPower precision * divisor ≤ dividend) (place : ℤ) :
    magnitude (((if dividend / divisor % 5 = 0 then dividend / divisor + 1
        else dividend / divisor : ℕ) : ℚ) * 10 ^ place) =
      magnitude (dividend / divisor * 10 ^ place) := by
  have someDivisor : (0 : ℚ) < divisor := by positivity
  have least : ((dividend / divisor : ℕ) : ℚ) ≤ dividend / divisor := Nat.cast_div_le
  have bound : (dividend : ℚ) / divisor < (dividend / divisor : ℕ) + 1 := by
    rw [div_lt_iff₀ someDivisor, mul_comm]
    exact_mod_cast Nat.lt_mul_div_succ dividend (Nat.pos_of_ne_zero nonzero)
  have digits : (tenPower precision : ℚ) ≤ dividend / divisor := by
    rw [le_div_iff₀ someDivisor]
    exact_mod_cast many
  generalize dividend / divisor = whole at *
  generalize (dividend : ℚ) / divisor = x at *
  generalize kept : (if whole % 5 = 0 then whole + 1 else whole) = digit
  -- The exact quotient and the changed one lie between the same multiples of five.
  obtain ⟨fives, low, high, low', high'⟩ : ∃ fives : ℤ, fives * 5 ≤ whole ∧
      whole + 1 ≤ (fives + 1) * 5 ∧ fives * 5 ≤ digit ∧ digit < (fives + 1) * 5 :=
    ⟨whole / 5, by omega, by omega, by split at kept <;> omega, by split at kept <;> omega⟩
  have low : (fives * 5 : ℚ) ≤ whole := by exact_mod_cast low
  have high : (whole + 1 : ℚ) ≤ (fives + 1) * 5 := by exact_mod_cast high
  exact (magnitude_mul_congr ⟨low.trans least, bound.trans_le high⟩
    ⟨by exact_mod_cast low', by exact_mod_cast high'⟩ digits (Nat.cast_nonneg _) place).symm

theorem magnitude_quotient {dividend divisor : Nat} (nonzero : dividend ≠ 0)
    (nonzero' : divisor ≠ 0) (ideal : ℤ) :
    magnitude ((quotient dividend divisor ideal).1 * 10 ^ (quotient dividend divisor ideal).2) =
      magnitude (dividend / divisor * 10 ^ ideal) := by
  simp only [quotient]
  generalize enough : (digitCount divisor : ℤ) - digitCount dividend + precision + 1 = shift
  have many := tenPower_le_shifted nonzero divisor enough.symm
  -- Zeros are added to the dividend or the divisor, which only moves the exponent of the quotient.
  have ratio : (dividend : ℚ) / divisor * 10 ^ ideal = (dividend * tenPower shift.toNat : ℕ) /
      (divisor * tenPower (-shift).toNat : ℕ) * 10 ^ (ideal - shift) := by
    have : (tenPower (-shift).toNat : ℚ) ≠ 0 := by exact_mod_cast (tenPower_pos _).ne'
    push_cast
    rw [tenPower_shift, zpow_sub₀ (by norm_num)]
    field_simp
  have nonzero'' : divisor * tenPower (-shift).toNat ≠ 0 :=
    Nat.mul_ne_zero nonzero' (tenPower_pos _).ne'
  rw [ratio]
  generalize dividend * tenPower shift.toNat = dividend' at *
  generalize divisor * tenPower (-shift).toNat = divisor' at *
  split
  case isTrue exact' =>
    rw [stripZeros_eq, Nat.cast_div (Nat.dvd_of_mod_eq_zero exact') (by exact_mod_cast nonzero'')]
  case isFalse => exact magnitude_remainder nonzero'' many (ideal - shift)

theorem rounded_divide {x y : Decimal} (finite : x.isFinite = true)
    (finite' : y.isFinite = true) (nonzero : x.toRat / y.toRat ≠ 0)
    (normal : -maxExponent ≤ leading (nearest (x.toRat / y.toRat))) :
    Rounded (x.toRat / y.toRat) (x.divide y) := by
  obtain ⟨n₁, c₁, e₁, rfl⟩ := exists_of_isFinite finite
  obtain ⟨n₂, c₂, e₂, rfl⟩ := exists_of_isFinite finite'
  have someDividend : c₁ ≠ 0 := by
    rintro rfl
    exact nonzero (by rw [toRat_zero, zero_div])
  have someDivisor : c₂ ≠ 0 := by
    rintro rfl
    exact nonzero (by rw [toRat_zero, div_zero])
  simp only [divide, nanResult?, if_neg someDivisor, if_neg someDividend]
  refine rounded_round nonzero normal ?_
  rw [toRat_finite, nearest_signed _ (by positivity), toRat_div, nearest_signed _ (by positivity),
    magnitude_quotient someDividend someDivisor]

end Decimal

/-! ### The standard operators -/

inductive Arithmetic where
  | addition
  | subtraction
  | multiplication
  | division
  deriving DecidableEq, Repr

namespace Arithmetic

def operator : Arithmetic → Operator
  | addition => .addition
  | subtraction => .subtraction
  | multiplication => .multiplication
  | division => .division

/-- What the operator is to compute. A quotient by zero counts as zero here. -/
def intended : Arithmetic → ℚ → ℚ → ℚ
  | addition => (· + ·)
  | subtraction => (· - ·)
  | multiplication => (· * ·)
  | division => (· / ·)

section
variable (op : Arithmetic) {left right : Decimal} (finite : left.isFinite = true)
  (finite' : right.isFinite = true) (nonzero : op.intended left.toRat right.toRat ≠ 0)
include finite finite' nonzero

/-- The operator rounds what it is to compute. -/
theorem exists_rounded
    (normal : -Decimal.maxExponent ≤ leading (nearest (op.intended left.toRat right.toRat))) :
    ∃ result, Decimal.Rounded (op.intended left.toRat right.toRat) result ∧
      op.operator.apply [left, right] = Rule.lift result := by
  cases op with
  | addition => exact ⟨_, Decimal.rounded_add finite finite' nonzero normal, rfl⟩
  | subtraction => exact ⟨_, Decimal.rounded_subtract finite finite' nonzero normal, rfl⟩
  | multiplication => exact ⟨_, Decimal.rounded_multiply finite finite' nonzero normal, rfl⟩
  | division =>
    refine ⟨_, Decimal.rounded_divide finite finite' nonzero normal, if_neg ?_⟩
    intro zero
    obtain ⟨n, c, e, rfl⟩ := Decimal.exists_of_isFinite finite'
    cases c with
    | zero =>
      rw [intended, Decimal.toRat_zero] at nonzero
      exact nonzero (div_zero _)
    | succ c => cases zero

/-- On finite numbers of any length the operators of arithmetic give the exact result rounded to 34
digits, a half going away from zero. Where the leading digit of that is out of range the operator
has no result, and every program that gets there fails outside the operator's domain. -/
theorem apply_nearest :
    (-Decimal.maxExponent ≤ leading (nearest (op.intended left.toRat right.toRat)) →
      leading (nearest (op.intended left.toRat right.toRat)) ≤ Decimal.maxExponent →
      ∃ negative coefficient exponent,
        op.operator.apply [left, right] = .ok (.finite negative coefficient exponent) ∧
          (Decimal.finite negative coefficient exponent).toRat =
            nearest (op.intended left.toRat right.toRat) ∧
          digitCount coefficient ≤ Decimal.precision) ∧
    (Decimal.maxExponent < leading (nearest (op.intended left.toRat right.toRat)) →
      op.operator.apply [left, right] = .error (.condition .overflow) ∧
      ∀ (bindings : Bindings) (before after : List Item) (below : List Decimal),
        runOn bindings [] before = .ok (right :: left :: below) →
        ∃ error, evaluate (before ++ .operator op.operator :: after) bindings = .error error ∧
          error = .failed (.operator op.operator.symbol) (.condition .overflow) ∧
          error.errorKind = .domain) := by
  constructor
  · intro normal range
    obtain ⟨result, rounded, applied⟩ := op.exists_rounded finite finite' nonzero normal
    obtain ⟨negative, coefficient, exponent, rfl, worth, short⟩ := rounded.value range
    exact ⟨negative, coefficient, exponent, applied, worth, short⟩
  · intro high
    have normal : -Decimal.maxExponent ≤ leading (nearest (op.intended left.toRat right.toRat)) :=
      le_trans (by decide) high.le
    obtain ⟨result, rounded, applied⟩ := op.exists_rounded finite finite' nonzero normal
    obtain rfl := rounded.overflow high
    have fails : op.operator.apply [left, right] = .error (.condition .overflow) := applied
    refine ⟨fails, fun bindings before after below runs => ⟨_, ?_, rfl, rfl⟩⟩
    have takes : [left, right].length = (Item.operator op.operator).count := by cases op <;> rfl
    -- The operands lie on top of what the items in front have left, and the fault ends the run.
    have stuck : stepOn bindings (right :: left :: below) (.operator op.operator) =
        .error (.failed (.operator op.operator.symbol) (.condition .overflow)) := by
      refine (stepOn_reverse_append bindings takes below).trans ?_
      rw [Item.value, fails]
      rfl
    rw [evaluate_eq_runOn, runOn_append, runs]
    change runOn bindings (right :: left :: below) _ >>= resultOn = _
    rw [runOn_cons, stuck]
    rfl

end

theorem nearest_two_thirds : nearest (2 / 3) = 6666666666666666666666666666666667 / 10 ^ 34 := by
  have size : |(2 / 3 : ℚ)| = 2 / 3 := abs_of_pos (by norm_num)
  have first : leading (2 / 3) = -1 :=
    leading_eq (by norm_num) (by rw [size]; norm_num) (by rw [size]; norm_num)
  have last : lastPlace (2 / 3) = -34 := by
    rw [lastPlace, first]
    rfl
  have count : units (-34) (2 / 3) = 6666666666666666666666666666666667 :=
    units_eq (by rw [size]; norm_num) (by rw [size]; norm_num)
  rw [nearest, if_neg (by norm_num), magnitude, last, count]
  norm_num

/-- Two thirds end in a seven, and ten times the largest power of ten is too much. -/
theorem apply_nearest_two_thirds :
    (∃ negative coefficient exponent,
      Operator.division.apply [.ofNat 2, .ofNat 3] = .ok (.finite negative coefficient exponent) ∧
        (Decimal.finite negative coefficient exponent).toRat =
          6666666666666666666666666666666667 / 10 ^ 34 ∧
        digitCount coefficient ≤ 34) ∧
      Operator.multiplication.apply [.finite false 1 999999, .ofNat 10] =
        .error (.condition .overflow) := by
  constructor
  · have third : Arithmetic.division.intended (Decimal.ofNat 2).toRat (Decimal.ofNat 3).toRat =
        2 / 3 := by
      simp [intended, Decimal.ofNat, Decimal.toRat_finite]
    have size : leading (6666666666666666666666666666666667 / 10 ^ 34) = -1 := by
      apply leading_eq (by norm_num)
      · rw [abs_of_pos (by norm_num)]
        norm_num
      · rw [abs_of_pos (by norm_num)]
        norm_num
    have rounds := (@apply_nearest .division (.ofNat 2) (.ofNat 3) rfl rfl
      (by rw [third]; norm_num)).1
    rw [third, nearest_two_thirds, size] at rounds
    exact rounds (by decide) (by decide)
  · have large : Arithmetic.multiplication.intended (Decimal.finite false 1 999999).toRat
        (Decimal.ofNat 10).toRat = (1 : ℕ) * 10 ^ (1000000 : ℤ) := by
      rw [intended, Decimal.ofNat, Decimal.toRat_finite, Decimal.toRat_finite,
        show (1000000 : ℤ) = 999999 + 1 from rfl, zpow_add_one₀ (by norm_num)]
      generalize (10 : ℚ) ^ (999999 : ℤ) = power
      simp
    have size : leading ((1 : ℕ) * 10 ^ (1000000 : ℤ)) = 1000000 := by
      rw [leading_parts one_ne_zero, digitCount, if_pos (by decide)]
      rfl
    have kept : leading (nearest ((1 : ℕ) * 10 ^ (1000000 : ℤ))) = 1000000 := by
      rw [leading_nearest, magnitude_eq, size]
      rw [lastPlace, size]
      decide
    have fails := (@apply_nearest .multiplication (.finite false 1 999999) (.ofNat 10) rfl rfl
      (by rw [large]; positivity)).2
    rw [large, kept] at fails
    exact (fails (by decide)).1

end Arithmetic

end Formula
