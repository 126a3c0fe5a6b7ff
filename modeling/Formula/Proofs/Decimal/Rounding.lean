import Formula.Proofs.Decimal.Value

/-!
The rounding rule rounds to the nearest number of 34 digits. Where the rounded number is too large
there is no result. Results in the range of normal numbers lose no digits; this holds down to the
smallest of them, which is reached as well from below, where digits are lost.
-/

set_option autoImplicit false

namespace Formula

/-! ### How many units there are -/

section
variable {x : ℚ}

theorem zpow_leading (x : ℚ) :
    (10 : ℚ) ^ leading x = tenPower 33 * 10 ^ lastPlace x := by
  rw [← zpow_ten_add]
  congr 1
  simp only [lastPlace, Decimal.precision]
  omega

theorem zpow_leading_succ (x : ℚ) :
    (10 : ℚ) ^ (leading x + 1) = tenPower 34 * 10 ^ lastPlace x := by
  rw [← zpow_ten_add]
  congr 1
  simp only [lastPlace, Decimal.precision]
  omega

theorem tenPower_le_units (nonzero : x ≠ 0) : tenPower 33 ≤ units (lastPlace x) x := by
  have positive : (0 : ℚ) < 10 ^ lastPlace x := by positivity
  have least := (le_leading_iff nonzero).1 (le_refl (leading x))
  rw [zpow_leading] at least
  rw [le_units_iff]
  linarith

theorem units_le_tenPower (nonzero : x ≠ 0) : units (lastPlace x) x ≤ tenPower 34 := by
  have positive : (0 : ℚ) < 10 ^ lastPlace x := by positivity
  have bound := (leading_lt_iff nonzero).1 (lt_add_one (leading x))
  have least := units_le (lastPlace x) x
  rw [zpow_leading_succ] at bound
  have lt : (units (lastPlace x) x : ℚ) - 1 / 2 < tenPower 34 :=
    lt_of_mul_lt_mul_right (least.trans_lt bound) positive.le
  have lt' : (units (lastPlace x) x : ℚ) < (tenPower 34 + 1 : ℕ) := by
    push_cast
    linarith
  have : units (lastPlace x) x < tenPower 34 + 1 := by exact_mod_cast lt'
  omega

theorem magnitude_pos (nonzero : x ≠ 0) : 0 < magnitude x := by
  have someUnit : 0 < units (lastPlace x) x :=
    (tenPower_pos 33).trans_le (tenPower_le_units nonzero)
  have positive : (0 : ℚ) < 10 ^ lastPlace x := by positivity
  unfold magnitude
  positivity

theorem magnitude_eq {coefficient : Nat} {exponent : ℤ}
    (short : lastPlace (coefficient * 10 ^ exponent) ≤ exponent) :
    magnitude (coefficient * 10 ^ exponent) = coefficient * 10 ^ exponent := by
  generalize place : lastPlace (coefficient * 10 ^ exponent) = p at short
  obtain ⟨n, rfl⟩ := Int.le.dest short
  have positive : (0 : ℚ) < 10 ^ p := by positivity
  have whole : (coefficient : ℚ) * 10 ^ (p + n) = (coefficient * tenPower n : ℕ) * 10 ^ p := by
    rw [zpow_ten_add]
    push_cast
    ring
  have exact : units p (coefficient * 10 ^ (p + n)) = coefficient * tenPower n := by
    rw [whole]
    refine units_eq ?_ ?_
    · rw [abs_of_nonneg (by positivity)]
      linarith
    · rw [abs_of_nonneg (by positivity)]
      linarith
  rw [magnitude, place, exact, whole]

/-- Below the normal numbers only a number that rounds to the smallest one of them is as large as
that, and then it does so with one digit less. -/
theorem units_tiny (nonzero : x ≠ 0) (below : lastPlace x < Decimal.tinyExponent)
    (normal : -Decimal.maxExponent ≤ leading (magnitude x)) :
    units Decimal.tinyExponent x = tenPower 33 ∧
      magnitude x = tenPower 33 * 10 ^ Decimal.tinyExponent := by
  have positive : (0 : ℚ) < 10 ^ lastPlace x := by positivity
  have size := (le_leading_iff (magnitude_pos nonzero).ne').1 normal
  rw [abs_of_pos (magnitude_pos nonzero), magnitude] at size
  -- The place of the last digit is one below the bounded one, and there the digits round up to a
  -- one and zeros.
  have most : (units (lastPlace x) x : ℚ) ≤ tenPower 34 := by
    exact_mod_cast units_le_tenPower nonzero
  have place : lastPlace x + 1 = Decimal.tinyExponent := by
    have le : (10 : ℚ) ^ (-Decimal.maxExponent) ≤ 10 ^ (lastPlace x + (34 : ℕ)) := by
      rw [zpow_ten_add]
      exact size.trans (mul_le_mul_of_nonneg_right most positive.le)
    have := (zpow_le_zpow_iff_right₀ (by norm_num : (1 : ℚ) < 10)).1 le
    simp only [Decimal.maxExponent, Decimal.tinyExponent] at this below ⊢
    push_cast at this
    omega
  have size' : (tenPower 34 : ℚ) * 10 ^ lastPlace x ≤ units (lastPlace x) x * 10 ^ lastPlace x := by
    rw [← zpow_ten_add]
    convert size using 2
    simp only [Decimal.maxExponent, Decimal.tinyExponent] at place ⊢
    push_cast
    omega
  have full : (units (lastPlace x) x : ℚ) = tenPower 34 :=
    le_antisymm most (le_of_mul_le_mul_right size' positive)
  have ten : (tenPower 34 : ℚ) = 10 * tenPower 33 := by exact_mod_cast (rfl : _ = 10 * tenPower 33)
  have least := units_le (lastPlace x) x
  have bound := (leading_lt_iff nonzero).1 (lt_add_one (leading x))
  rw [zpow_leading_succ] at bound
  have tiny : (10 : ℚ) ^ Decimal.tinyExponent = 10 * 10 ^ lastPlace x := by
    rw [← place, zpow_add₀ (by norm_num), zpow_one, mul_comm]
  rw [full, ten] at least
  rw [ten] at bound
  refine ⟨units_eq ?_ ?_, ?_⟩
  · rw [tiny]
    linarith
  · rw [tiny]
    linarith
  · rw [magnitude, full, ten, tiny]
    ring

/-- A number that is rounded to a normal one keeps its 34 digits where the last place is bounded. A
digit more there is what 99…9 is rounded to. -/
theorem units_kept (nonzero : x ≠ 0) (normal : -Decimal.maxExponent ≤ leading (magnitude x))
    {place : ℤ} (bounded : place = max (lastPlace x) Decimal.tinyExponent) :
    units place x * 10 ^ place = magnitude x ∧
      tenPower 33 ≤ units place x ∧ units place x ≤ tenPower 34 := by
  rcases le_or_gt Decimal.tinyExponent (lastPlace x) with above | below
  · rw [bounded, max_eq_left above]
    exact ⟨rfl, tenPower_le_units nonzero, units_le_tenPower nonzero⟩
  · obtain ⟨count, size⟩ := units_tiny nonzero below normal
    rw [bounded, max_eq_right below.le, count, size]
    exact ⟨rfl, le_rfl, Nat.pow_le_pow_right (by decide) (by decide)⟩

end

/-! ### The rounding rule -/

namespace Decimal

theorem dropDigits_eq (coefficient : Nat) {places : Nat} (somePlace : places ≠ 0)
    (exponent : ℤ) :
    dropDigits coefficient places = units (exponent + places) (coefficient * 10 ^ exponent) := by
  obtain ⟨fewer, rfl⟩ := Nat.exists_eq_add_one_of_ne_zero somePlace
  have half : tenPower (fewer + 1) / 2 = 5 * tenPower fewer := by
    have : tenPower (fewer + 1) = tenPower fewer * 10 := rfl
    omega
  have whole : tenPower (fewer + 1) = 2 * (5 * tenPower fewer) := by
    have : tenPower (fewer + 1) = tenPower fewer * 10 := rfl
    omega
  have someHalf : 0 < 5 * tenPower fewer := Nat.mul_pos (by decide) (tenPower_pos fewer)
  -- Half of a unit is added and the rest dropped; a number of fewer digits has no unit at all.
  have counted : dropDigits coefficient (fewer + 1) =
      (coefficient + 5 * tenPower fewer) / (2 * (5 * tenPower fewer)) := by
    rw [dropDigits, half, whole]
    split
    case isTrue few =>
      have small : coefficient < tenPower fewer :=
        (lt_tenPower_digitCount coefficient).trans_le
          (Nat.pow_le_pow_right (by decide) (Nat.le_of_lt_succ few))
      rw [Nat.div_eq_of_lt (by omega)]
    case isFalse => rfl
  have place : (10 : ℚ) ^ (exponent + (fewer + 1 : ℕ)) =
      2 * (5 * tenPower fewer : ℕ) * 10 ^ exponent := by
    rw [zpow_ten_add, whole]
    push_cast
    ring
  rw [counted]
  generalize 5 * tenPower fewer = half at someHalf place
  have least : 2 * half * ((coefficient + half) / (2 * half)) ≤ coefficient + half :=
    Nat.mul_div_le _ _
  have bound : coefficient + half < 2 * half * ((coefficient + half) / (2 * half) + 1) :=
    Nat.lt_mul_div_succ _ (by omega)
  generalize (coefficient + half) / (2 * half) = kept at least bound
  have positive : (0 : ℚ) < 10 ^ exponent := by positivity
  have least' : (2 * half * kept : ℚ) ≤ coefficient + half := by exact_mod_cast least
  have bound' : (coefficient + half : ℚ) < 2 * half * (kept + 1) := by exact_mod_cast bound
  symm
  apply units_eq
  · rw [place, abs_of_nonneg (by positivity), ← mul_assoc]
    gcongr
    linarith
  · rw [place, abs_of_nonneg (by positivity), ← mul_assoc]
    gcongr
    linarith

theorem bounded_eq (negative : Bool) {coefficient : Nat} (nonzero : coefficient ≠ 0)
    (exponent : ℤ) : bounded negative coefficient exponent =
      if maxExponent < leading (coefficient * 10 ^ exponent) then .error .overflow
      else .ok (.finite negative coefficient exponent) := by
  rw [bounded, leading_parts nonzero]

theorem lastPlace_parts {coefficient : Nat} (nonzero : coefficient ≠ 0) (exponent : ℤ) :
    lastPlace (coefficient * 10 ^ exponent) = exponent + digitCount coefficient - precision := by
  rw [lastPlace, leading_parts nonzero]
  omega

/-- Rounding comes to the check of the size of the nearest number. -/
theorem exists_bounded_of_round (negative : Bool) {coefficient : Nat} (nonzero : coefficient ≠ 0)
    {exponent : ℤ} (normal : -maxExponent ≤ leading (magnitude (coefficient * 10 ^ exponent))) :
    ∃ coefficient' exponent', coefficient' ≠ 0 ∧ digitCount coefficient' ≤ precision ∧
      (coefficient' : ℚ) * 10 ^ exponent' = magnitude (coefficient * 10 ^ exponent) ∧
      round negative coefficient exponent = bounded negative coefficient' exponent' := by
  have nonzero' : (coefficient : ℚ) * 10 ^ exponent ≠ 0 := by positivity
  have place := lastPlace_parts nonzero exponent
  have least : leastExponent coefficient exponent =
      max (lastPlace (coefficient * 10 ^ exponent)) tinyExponent := by
    rw [place]
    rfl
  rw [round, if_neg nonzero]
  dsimp only
  split
  case isTrue short =>
    -- No digit lies beyond the last place, so that the number is the nearest one itself.
    have short' : lastPlace (coefficient * 10 ^ exponent) ≤ exponent := by omega
    exact ⟨coefficient, exponent, nonzero, by omega, (magnitude_eq short').symm, rfl⟩
  case isFalse long =>
    obtain ⟨places, reached, somePlace⟩ : ∃ places : Nat,
        exponent + places = leastExponent coefficient exponent ∧ places ≠ 0 :=
      ⟨(leastExponent coefficient exponent - exponent).toNat, by omega, by omega⟩
    rw [show (leastExponent coefficient exponent - exponent).toNat = places by omega,
      dropDigits_eq coefficient somePlace exponent, reached]
    generalize leastExponent coefficient exponent = place' at *
    have kept := units_kept nonzero' normal least
    generalize units place' (coefficient * 10 ^ exponent) = count at kept
    obtain ⟨same, many, few⟩ := kept
    have someUnit : 0 < count := (tenPower_pos 33).trans_le many
    split
    case isTrue short => exact ⟨count, place', someUnit.ne', short, same, rfl⟩
    case isFalse carry =>
      -- Only 99…9 rounds up to a digit more, and what is dropped then is a zero.
      obtain rfl : count = tenPower 34 :=
        le_antisymm few (tenPower_le_of_lt_digitCount someUnit.ne' (Nat.lt_of_not_le carry))
      have tenth : tenPower 34 / 10 = tenPower 33 := by decide
      refine ⟨tenPower 33, place' + 1, (tenPower_pos 33).ne', ?_, ?_, by rw [tenth]⟩
      · exact digitCount_le_of_lt (tenPower_pos 33).ne' (by decide)
      · rw [← same, ← zpow_ten_add, ← zpow_ten_add]
        congr 1
        push_cast
        omega

end Decimal

end Formula
