import Formula.Proofs.Literal

/-!
Writing a number keeps its digits and its exponent: a number without a minus is written as a literal
of that very number. The point goes where the text has it, and zeros fill up in front only.
-/

set_option autoImplicit false

namespace Formula

open Formula.Text

/-! ### Digits of a natural number -/

theorem toList_toString (n : Nat) : (toString n).toList = Nat.toDigits 10 n := by
  rw [Nat.toString_eq_ofList_toDigits, String.toList_ofList]

theorem digitValue?_of_isDigit {c : Char} (digit : c.isDigit = true) :
    digitValue? c = some (c.toNat - 48) := by
  simp only [Char.isDigit, Bool.and_eq_true, decide_eq_true_eq] at digit
  have inside : (48 ≤ c.toNat && c.toNat ≤ 48 + 9) = true := by
    simp only [Bool.and_eq_true, decide_eq_true_eq]
    exact ⟨UInt32.le_iff_toNat_le.1 digit.1, UInt32.le_iff_toNat_le.1 digit.2⟩
  have first : digitZeros.find? (fun first => first ≤ c.toNat && c.toNat ≤ first + 9) = some 48 :=
    List.find?_cons_of_pos inside
  rw [digitValue?, first, Option.map_some]

theorem isDigit_of_mem_toDigits {n : Nat} {c : Char} (member : c ∈ Nat.toDigits 10 n) :
    isDigit c = true := by
  have digit := Nat.isDigit_of_mem_toDigits (by decide) (by decide) member
  rw [isDigit, digitValue?_of_isDigit digit]
  rfl

namespace Decimal

theorem digitsValue_toDigits (n : Nat) : digitsValue (Nat.toDigits 10 n) = n := by
  have same : ∀ (digits : List Char) (value : Nat), (∀ c ∈ digits, c.isDigit = true) →
      digits.foldl (fun value c => value * 10 + (digitValue? c).getD 0) value =
        Nat.ofDigitChars 10 digits value := by
    intro digits
    induction digits with
    | nil => exact fun _ _ => rfl
    | cons c digits ih =>
      intro value valid
      rw [List.foldl_cons, Nat.ofDigitChars_cons,
        digitValue?_of_isDigit (valid c List.mem_cons_self),
        ih _ fun c' member => valid c' (List.mem_cons_of_mem c member), Nat.mul_comm]
      rfl
  rw [digitsValue, same _ 0 fun c member =>
    Nat.isDigit_of_mem_toDigits (by decide) (by decide) member, Nat.ofDigitChars_ten_toDigits]

theorem digitsValue_zeros (count : Nat) (digits : List Char) :
    digitsValue (List.replicate count '0' ++ digits) = digitsValue digits := by
  have zero : (digitValue? '0').getD 0 = 0 := by decide
  induction count with
  | zero => rfl
  | succ count ih =>
    rw [← ih, List.replicate_succ, digitsValue, List.cons_append, List.foldl_cons, zero]
    rfl

end Decimal

/-! ### Written numbers -/

namespace Literal

theorem exists_pointed {digits : List Char} (valid : ∀ c ∈ digits, isDigit c = true)
    (someDigit : digits ≠ []) {whole : Int} (le : whole ≤ digits.length)
    (exponent : Option Exponent) :
    ∃ l : Literal, l.exponent = exponent ∧
      l.whole ++ l.pointChars = (Decimal.pointText digits whole).toList ∧
      l.coefficient = Decimal.digitsValue digits ∧
      ((l.fraction.getD []).length : Int) = digits.length - whole := by
  have zero : ∀ {count : Nat} {c : Char}, c ∈ List.replicate count '0' → isDigit c = true := by
    intro count c member
    rw [List.eq_of_mem_replicate member]
    decide
  rw [Decimal.pointText]
  by_cases inFront : whole ≤ 0
  · -- All digits stand behind the point.
    refine ⟨{
      whole := ['0']
      fraction := some (List.replicate (-whole).toNat '0' ++ digits)
      exponent
      wholeValid := fun c member => by rw [List.mem_singleton.1 member]; decide
      fractionValid := fun c member => (List.mem_append.1 member).elim zero (valid c)
      digits_ne_nil := List.cons_ne_nil _ _ }, rfl, ?_, ?_, ?_⟩
    · simp [pointChars, inFront]
    · have zeros := Decimal.digitsValue_zeros ((-whole).toNat + 1) digits
      rwa [List.replicate_succ, List.cons_append] at zeros
    · simp only [Option.getD_some, List.length_append, List.length_replicate]
      omega
  · by_cases behind : digits.length ≤ whole.toNat
    · refine ⟨{
        whole := digits
        fraction := none
        exponent
        wholeValid := valid
        fractionValid := fun _ member => absurd member List.not_mem_nil
        digits_ne_nil := by simpa using someDigit }, rfl, ?_, ?_, ?_⟩
      · have noZeros : whole.toNat - digits.length = 0 := by omega
        simp [pointChars, inFront, behind, noZeros]
      · simp [coefficient]
      · simp only [Option.getD_none, List.length_nil]
        omega
    · refine ⟨{
        whole := digits.take whole.toNat
        fraction := some (digits.drop whole.toNat)
        exponent
        wholeValid := fun c member => valid c (List.mem_of_mem_take member)
        fractionValid := fun c member => valid c (List.mem_of_mem_drop member)
        digits_ne_nil := by simpa using someDigit }, rfl, ?_, ?_, ?_⟩
      · simp [pointChars, inFront, behind]
      · simp [coefficient]
      · simp only [Option.getD_some, List.length_drop]
        omega

def writtenExponent (exponent : Int) : Exponent where
  marker := 'E'
  sign := some (if exponent < 0 then .minus else .plus)
  digits := Nat.toDigits 10 exponent.natAbs
  markerValid := rfl
  digitsValid := fun _ => isDigit_of_mem_toDigits
  digits_ne_nil := Nat.toDigits_ne_nil

theorem chars_writtenExponent (exponent : Int) :
    (writtenExponent exponent).chars = 'E' :: (Decimal.exponentText exponent).toList := by
  by_cases negative : exponent < 0
  · simp [Exponent.chars, Exponent.signChars, writtenExponent, Decimal.exponentText, negative,
      Sign.char]
  · simp [Exponent.chars, Exponent.signChars, writtenExponent, Decimal.exponentText, negative,
      Sign.char]

theorem value_writtenExponent (exponent : Int) : (writtenExponent exponent).value = exponent := by
  unfold Exponent.value writtenExponent
  dsimp only
  rw [Decimal.digitsValue_toDigits]
  by_cases negative : exponent < 0
  · rw [if_pos negative]
    change -(exponent.natAbs : Int) = exponent
    omega
  · rw [if_neg negative]
    change (exponent.natAbs : Int) = exponent
    omega

theorem exists_written (coefficient : Nat) (exponent : Int) :
    ∃ l : Literal, String.ofList l.chars = (Decimal.finite false coefficient exponent).toText ∧
      l.value = .finite false coefficient exponent := by
  have valid : ∀ c ∈ Nat.toDigits 10 coefficient, isDigit c = true :=
    fun _ => isDigit_of_mem_toDigits
  have someDigit : Nat.toDigits 10 coefficient ≠ [] := Nat.toDigits_ne_nil
  have length : 0 < (Nat.toDigits 10 coefficient).length := Nat.length_toDigits_pos
  rw [Decimal.toText, toList_toString]
  simp only [Decimal.signText, Bool.false_eq_true, if_false, String.empty_append]
  generalize leads : exponent + (Nat.toDigits 10 coefficient).length - 1 = leading
  -- With an exponent there is one digit in front of the point, without one there are as many as
  -- fit.
  split
  · obtain ⟨l, exponentEq, point, digits, places⟩ := exists_pointed valid someDigit
      (show leading + 1 ≤ _ by omega) none
    refine ⟨l, ?_, ?_⟩
    · rw [chars, ← List.append_assoc, point, exponentChars, exponentEq]
      simp
    · rw [value, power, digits, places, exponentEq, Decimal.digitsValue_toDigits]
      simp only [Option.map_none, Option.getD_none, Decimal.finite.injEq, true_and]
      omega
  · obtain ⟨l, exponentEq, point, digits, places⟩ := exists_pointed valid someDigit
      (show (1 : Int) ≤ _ by omega) (some (writtenExponent leading))
    refine ⟨l, ?_, ?_⟩
    · rw [chars, ← List.append_assoc, point, exponentChars, exponentEq, Option.map_some,
        Option.getD_some, chars_writtenExponent]
      simp [String.append_assoc]
    · rw [value, power, digits, places, exponentEq, Decimal.digitsValue_toDigits, Option.map_some,
        Option.getD_some, value_writtenExponent]
      simp only [Decimal.finite.injEq, true_and]
      omega

end Literal

end Formula
