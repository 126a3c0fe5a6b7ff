import Formula.Decimal.Arithmetic
import Mathlib.Algebra.Order.Field.Power
import Mathlib.Data.Int.Log
import Mathlib.Data.Nat.Log
import Mathlib.Data.Rat.Floor
import Mathlib.Tactic.FieldSimp
import Mathlib.Tactic.Linarith
import Mathlib.Tactic.Positivity
import Mathlib.Tactic.Ring

/-!
What decimal numbers are worth, as fractions, and what a fraction is rounded to. Rounding keeps 34
digits from the leading one on and takes a half away from zero. It only looks at how often half of
the last place goes into a number; so numbers between the same two multiples of some small unit are
rounded alike, which is what a digit more than is kept has to tell.
-/

set_option autoImplicit false

namespace Formula

/-! ### Powers of ten -/

theorem tenPower_pos (n : Nat) : 0 < tenPower n := Nat.pow_pos (by decide)

theorem tenPower_add (m n : Nat) : tenPower (m + n) = tenPower m * tenPower n := Nat.pow_add 10 m n

theorem cast_tenPower (n : Nat) : (tenPower n : ℚ) = 10 ^ (n : ℤ) := by
  rw [zpow_natCast]
  exact_mod_cast rfl

theorem zpow_ten_add (e : ℤ) (n : Nat) : (10 : ℚ) ^ (e + n) = tenPower n * 10 ^ e := by
  rw [zpow_add₀ (by norm_num), cast_tenPower, mul_comm]

theorem digitCount_eq (n : Nat) : digitCount n = Nat.log 10 n + 1 := by
  induction n using digitCount.induct with
  | case1 n small => rw [digitCount, if_pos small, Nat.log_of_lt small]
  | case2 n large ih =>
    rw [digitCount, if_neg large, ih, Nat.log_of_one_lt_of_le (by decide) (Nat.le_of_not_lt large)]

theorem lt_tenPower_digitCount (n : Nat) : n < tenPower (digitCount n) := by
  rw [digitCount_eq]
  exact Nat.lt_pow_succ_log_self (by decide) n

theorem tenPower_le_of_lt_digitCount {n places : Nat} (nonzero : n ≠ 0)
    (fewer : places < digitCount n) : tenPower places ≤ n := by
  rw [digitCount_eq] at fewer
  exact (Nat.pow_le_pow_right (by decide) (Nat.le_of_lt_succ fewer)).trans
    (Nat.pow_log_le_self 10 nonzero)

theorem digitCount_le_of_lt {n places : Nat} (nonzero : n ≠ 0) (small : n < tenPower places) :
    digitCount n ≤ places := by
  by_contra more
  exact absurd (tenPower_le_of_lt_digitCount nonzero (Nat.lt_of_not_le more)) (by omega)

/-! ### What decimal numbers are worth -/

namespace Decimal

def toRat : Decimal → ℚ
  | .finite negative coefficient exponent => signed negative coefficient * 10 ^ exponent
  | .infinity _ | .nan _ _ _ => 0

theorem toRat_finite (negative : Bool) (coefficient : Nat) (exponent : ℤ) :
    (Decimal.finite negative coefficient exponent).toRat =
      if negative then -((coefficient : ℚ) * 10 ^ exponent) else coefficient * 10 ^ exponent := by
  cases negative with
  | false => simp [toRat, signed]
  | true => simp [toRat, signed]

@[simp] theorem toRat_zero (negative : Bool) (exponent : ℤ) :
    (Decimal.finite negative 0 exponent).toRat = 0 := by
  simp [toRat_finite]

theorem toRat_negate (x : Decimal) : x.negate.toRat = -x.toRat := by
  cases x with
  | finite negative coefficient exponent =>
    cases negative with
    | false => simp [negate, toRat_finite]
    | true => simp [negate, toRat_finite]
  | infinity negative => simp [negate, toRat]
  | nan signaling negative payload => simp [negate, toRat]

end Decimal

/-! ### Leading digits -/

def leading (x : ℚ) : ℤ := Int.log 10 |x|

section
variable {x : ℚ} {z : ℤ}

theorem le_leading_iff (nonzero : x ≠ 0) : z ≤ leading x ↔ 10 ^ z ≤ |x| :=
  (Int.zpow_le_iff_le_log (by decide) (abs_pos.2 nonzero)).symm

theorem leading_lt_iff (nonzero : x ≠ 0) : leading x < z ↔ |x| < 10 ^ z :=
  (Int.lt_zpow_iff_log_lt (by decide) (abs_pos.2 nonzero)).symm

theorem leading_eq (nonzero : x ≠ 0) (least : 10 ^ z ≤ |x|) (bound : |x| < 10 ^ (z + 1)) :
    leading x = z := by
  have := (le_leading_iff nonzero).2 least
  have := (leading_lt_iff nonzero).2 bound
  omega

end

theorem leading_parts {coefficient : Nat} (nonzero : coefficient ≠ 0) (exponent : ℤ) :
    leading (coefficient * 10 ^ exponent) = exponent + digitCount coefficient - 1 := by
  have positive : (0 : ℚ) < coefficient * 10 ^ exponent := by positivity
  obtain ⟨places, count⟩ : ∃ places, digitCount coefficient = places + 1 :=
    ⟨Nat.log 10 coefficient, digitCount_eq coefficient⟩
  have least : tenPower places ≤ coefficient := tenPower_le_of_lt_digitCount nonzero (by omega)
  have bound := lt_tenPower_digitCount coefficient
  rw [count] at bound
  rw [count, Nat.cast_succ, ← add_assoc, add_sub_cancel_right]
  refine leading_eq positive.ne' ?_ ?_
  · rw [abs_of_pos positive, zpow_ten_add]
    gcongr
  · rw [abs_of_pos positive, add_assoc, ← Nat.cast_succ, zpow_ten_add]
    gcongr

/-! ### Rounding -/

def lastPlace (x : ℚ) : ℤ := leading x + 1 - Decimal.precision

/-- How often a power of ten goes into a number, where a half counts as a whole. -/
def units (place : ℤ) (x : ℚ) : Nat := ⌊|x| / 10 ^ place + 1 / 2⌋₊

def magnitude (x : ℚ) : ℚ := units (lastPlace x) x * 10 ^ lastPlace x

/-- The number rounded to 34 digits, a half going away from zero. -/
def nearest (x : ℚ) : ℚ := if x < 0 then -magnitude x else magnitude x

section
variable {x y : ℚ} {place : ℤ}

theorem le_units_iff {k : Nat} : k ≤ units place x ↔ ((k : ℚ) - 1 / 2) * 10 ^ place ≤ |x| := by
  have positive : (0 : ℚ) < 10 ^ place := by positivity
  rw [units, Nat.le_floor_iff (by positivity), ← sub_le_iff_le_add, le_div_iff₀ positive]

theorem units_eq {k : Nat} (least : ((k : ℚ) - 1 / 2) * 10 ^ place ≤ |x|)
    (bound : |x| < ((k : ℚ) + 1 / 2) * 10 ^ place) : units place x = k := by
  refine le_antisymm (Nat.le_of_lt_succ (Nat.lt_of_not_le fun more => ?_)) (le_units_iff.2 least)
  have := le_units_iff.1 more
  push_cast at this
  linarith

theorem magnitude_congr_abs (same : |x| = |y|) : magnitude x = magnitude y := by
  simp only [magnitude, units, lastPlace, leading, same]

theorem magnitude_nonneg (x : ℚ) : 0 ≤ magnitude x := by
  unfold magnitude
  positivity

theorem abs_nearest (x : ℚ) : |nearest x| = magnitude x := by
  unfold nearest
  split
  · rw [abs_neg, abs_of_nonneg (magnitude_nonneg x)]
  · rw [abs_of_nonneg (magnitude_nonneg x)]

theorem leading_nearest (x : ℚ) : leading (nearest x) = leading (magnitude x) := by
  rw [leading, leading, abs_nearest, abs_of_nonneg (magnitude_nonneg x)]

theorem nearest_congr (sign : x < 0 ↔ y < 0) (size : magnitude x = magnitude y) :
    nearest x = nearest y := by
  simp only [nearest, sign, size]

theorem nearest_neg (x : ℚ) : nearest (-x) = -nearest x := by
  have size : magnitude (-x) = magnitude x := magnitude_congr_abs (abs_neg x)
  rcases lt_trichotomy x 0 with negative | rfl | positive
  · rw [nearest, nearest, if_neg (by linarith), if_pos negative, size, neg_neg]
  · have noneFits : ⌊(2 : ℚ)⁻¹⌋₊ = 0 := Nat.floor_eq_zero.2 (by norm_num)
    simp [nearest, magnitude, units, noneFits]
  · rw [nearest, nearest, if_pos (by linarith), if_neg (by linarith), size]

theorem units_le (place : ℤ) (x : ℚ) : ((units place x : ℚ) - 1 / 2) * 10 ^ place ≤ |x| :=
  le_units_iff.1 le_rfl

theorem lt_units (place : ℤ) (x : ℚ) : |x| < ((units place x : ℚ) + 1 / 2) * 10 ^ place := by
  by_contra more
  have oneMore : units place x + 1 ≤ units place x := by
    rw [le_units_iff]
    push_cast
    linarith
  omega

/-- The rounded number is within half of the last place, and beyond the number where it is half of
the last place away. -/
theorem nearest_spec (x : ℚ) : |nearest x - x| ≤ 10 ^ lastPlace x / 2 ∧
    (|nearest x - x| = 10 ^ lastPlace x / 2 → |x| < |nearest x|) := by
  have positive : (0 : ℚ) < 10 ^ lastPlace x := by positivity
  have least := units_le (lastPlace x) x
  have bound := lt_units (lastPlace x) x
  have apart : |nearest x - x| = abs (magnitude x - |x|) := by
    unfold nearest
    split
    · rename_i negative
      rw [abs_of_neg negative, ← abs_neg]
      ring_nf
    · rename_i positive
      rw [abs_of_nonneg (not_lt.1 positive)]
  rw [apart, abs_nearest, abs_le]
  unfold magnitude
  refine ⟨⟨by linarith, by linarith⟩, fun half => ?_⟩
  rcases abs_choice ((units (lastPlace x) x : ℚ) * 10 ^ lastPlace x - |x|) with above | below
  · linarith
  · linarith

end

/-! ### What rounding can tell apart -/

/-- The number lies between a multiple of a unit and the next one. -/
structure Between (unit : ℚ) (m : ℤ) (x : ℚ) : Prop where
  least : m * unit ≤ x
  bound : x < (m + 1) * unit

theorem Between.mul_le_iff {unit x : ℚ} {m : ℤ} (between : Between unit m x) (k : ℤ)
    (positive : 0 < unit) : k * unit ≤ x ↔ k ≤ m := by
  constructor
  · intro le
    have lt := lt_of_mul_lt_mul_right (le.trans_lt between.bound) positive.le
    have : k < m + 1 := by exact_mod_cast lt
    omega
  · intro le
    have le' : (k : ℚ) ≤ m := by exact_mod_cast le
    exact (mul_le_mul_of_nonneg_right le' positive.le).trans between.least

theorem Between.mul {unit x c : ℚ} {m : ℤ} (between : Between unit m x) (positive : 0 < c) :
    Between (unit * c) m (x * c) where
  least := by
    rw [← mul_assoc]
    exact mul_le_mul_of_nonneg_right between.least positive.le
  bound := by
    rw [← mul_assoc]
    exact mul_lt_mul_of_pos_right between.bound positive

/-- Numbers between the same two multiples of half of a place that is not kept are rounded alike. -/
theorem magnitude_congr {x y : ℚ} {place m : ℤ} (between : Between (5 * 10 ^ place) m |x|)
    (between' : Between (5 * 10 ^ place) m |y|) (nonzero : x ≠ 0)
    (many : place + Decimal.precision ≤ leading x) : magnitude x = magnitude y := by
  have positive : (0 : ℚ) < 5 * 10 ^ place := by positivity
  have alike (k : ℤ) : k * (5 * 10 ^ place) ≤ |x| ↔ k * (5 * 10 ^ place) ≤ |y| :=
    (between.mul_le_iff k positive).trans (between'.mul_le_iff k positive).symm
  -- Powers of ten above the place, and half of them, are multiples of the unit.
  have power {z : ℤ} (above : place < z) (k : ℤ) :
      (k : ℚ) * (10 ^ z / 2) ≤ |x| ↔ (k : ℚ) * (10 ^ z / 2) ≤ |y| := by
    obtain ⟨n, rfl⟩ := Int.le.dest above
    have multiple := alike (k * tenPower n)
    have same : ((k * tenPower n : ℤ) : ℚ) * (5 * 10 ^ place) = k * (10 ^ (place + 1 + n) / 2) := by
      rw [zpow_ten_add, zpow_add₀ (by norm_num)]
      push_cast
      ring
    rwa [same] at multiple
  have digit : 34 ≤ (Decimal.precision : ℤ) := le_rfl
  -- So the leading digits stand for the same power of ten, and the last places have the same units.
  have least : (10 : ℚ) ^ leading x ≤ |y| := by
    have := (power (z := leading x) (by omega) 2).1 (by
      have := (le_leading_iff nonzero).1 (le_refl (leading x))
      push_cast
      linarith)
    push_cast at this
    linarith
  have nonzero' : y ≠ 0 := by
    rintro rfl
    have : (0 : ℚ) < 10 ^ leading x := by positivity
    rw [abs_zero] at least
    linarith
  have bound : |y| < 10 ^ (leading x + 1) := by
    by_contra more
    have := (power (z := leading x + 1) (by omega) 2).2 (by push_cast; linarith)
    have := (leading_lt_iff nonzero).1 (lt_add_one (leading x))
    push_cast at *
    linarith
  have samePlace : lastPlace x = lastPlace y := by
    rw [lastPlace, lastPlace, leading_eq nonzero' least bound]
  have sameUnits : units (lastPlace x) x = units (lastPlace x) y := by
    refine eq_of_forall_le_iff fun k => ?_
    rw [le_units_iff, le_units_iff]
    have half := power (z := lastPlace x) (by unfold lastPlace; omega) (2 * k - 1)
    push_cast at half
    have same : (2 * (k : ℚ) - 1) * (10 ^ lastPlace x / 2) = (k - 1 / 2) * 10 ^ lastPlace x := by
      ring
    rwa [same] at half
  rw [magnitude, magnitude, ← samePlace, sameUnits]

/-- Fractions of enough digits between the same two multiples of five are rounded alike, whatever
place they are moved to. -/
theorem magnitude_mul_congr {x y : ℚ} {m : ℤ} (between : Between 5 m x) (between' : Between 5 m y)
    (digits : tenPower Decimal.precision ≤ x) (nonneg : 0 ≤ y) (place : ℤ) :
    magnitude (x * 10 ^ place) = magnitude (y * 10 ^ place) := by
  have unit : (0 : ℚ) < 10 ^ place := by positivity
  have positive : 0 < x := lt_of_lt_of_le (by exact_mod_cast tenPower_pos _) digits
  have size : |x * 10 ^ place| = x * 10 ^ place := abs_of_pos (mul_pos positive unit)
  have size' : |y * 10 ^ place| = y * 10 ^ place := abs_of_nonneg (mul_nonneg nonneg unit.le)
  have nonzero : x * 10 ^ place ≠ 0 := (mul_pos positive unit).ne'
  have scaled : Between (5 * 10 ^ place) m |x * 10 ^ place| := by
    rw [size]
    exact between.mul unit
  have scaled' : Between (5 * 10 ^ place) m |y * 10 ^ place| := by
    rw [size']
    exact between'.mul unit
  refine magnitude_congr scaled scaled' nonzero ?_
  rw [le_leading_iff nonzero, size, zpow_ten_add]
  exact mul_le_mul_of_nonneg_right digits unit.le

end Formula
