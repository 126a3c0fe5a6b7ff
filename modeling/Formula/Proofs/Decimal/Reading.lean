import Formula.Proofs.Decimal.Finite
import Formula.Proofs.Decimal.Text
import Formula.Proofs.Scanner.Partition

/-!
Reading a number back from its text. Every finite number within the limits is read back with its
sign, digits and exponent, also a zero with a minus. What is read is within the limits itself, so
that it can be written and read again; outside of them nothing is read.
-/

set_option autoImplicit false

namespace Formula

open Formula.Text

namespace Decimal

def InRange : Decimal → Prop
  | .finite _ coefficient exponent =>
    exponent + digitCount coefficient - 1 ≤ leadingLimit ∧ trailingLimit ≤ exponent
  | _ => False

instance (d : Decimal) : Decidable d.InRange :=
  match d with
  | .finite _ coefficient exponent => inferInstanceAs (Decidable
      (exponent + digitCount coefficient - 1 ≤ leadingLimit ∧ trailingLimit ≤ exponent))
  | .infinity _ => inferInstanceAs (Decidable False)
  | .nan _ _ _ => inferInstanceAs (Decidable False)

theorem InRange.isFinite {d : Decimal} (inRange : d.InRange) : d.isFinite = true := by
  cases d with
  | finite negative coefficient exponent => rfl
  | infinity negative => cases inRange
  | nan signaling negative payload => cases inRange

theorem ofParts?_eq_some_iff {negative : Bool} {coefficient : Nat} {exponent : Int} {d : Decimal} :
    ofParts? negative coefficient exponent = some d ↔
      d = .finite negative coefficient exponent ∧ d.InRange := by
  unfold ofParts?
  constructor
  · intro made
    split at made
    · cases made
    · rename_i within
      cases made
      exact ⟨rfl, by rw [InRange]; omega⟩
  · rintro ⟨rfl, inRange⟩
    rw [InRange] at inRange
    rw [if_neg (by omega)]

/-! ### Reading what is written -/

def signChars (negative : Bool) : List Char := if negative then ['-'] else []

theorem toText_finite (negative : Bool) (coefficient : Nat) (exponent : Int) :
    (finite negative coefficient exponent).toText =
      String.ofList (signChars negative) ++ (finite false coefficient exponent).toText := by
  have sign : signText negative = String.ofList (signChars negative) := by
    cases negative <;> rfl
  have noSign : signText false = "" := rfl
  rw [toText, toText, sign, noSign]
  split
  · rw [String.empty_append]
  · rw [String.empty_append, String.append_assoc, String.append_assoc, String.append_assoc]

end Decimal

namespace Literal

theorem read?_signed (l : Literal) {negative : Bool}
    (inRange : (Decimal.finite negative l.coefficient l.power).InRange) :
    Decimal.read? (Decimal.signChars negative ++ l.chars) =
      some (.finite negative l.coefficient l.power) := by
  -- Nothing is trimmed or left out before the sign is looked for.
  have plain : ∀ c ∈ Decimal.signChars negative ++ l.chars, isBlank c = false ∧ c ≠ '_' := by
    intro c member
    rcases List.mem_append.1 member with sign | digits
    · cases negative with
      | false => cases sign
      | true => rw [List.mem_singleton.1 sign]; decide
    · exact l.plain c digits
  have signSplit : Decimal.splitSign (Decimal.signChars negative ++ l.chars) =
      (negative, l.chars) := by
    cases negative with
    | false => exact l.splitSign_chars
    | true => rfl
  have made := Decimal.ofParts?_eq_some_iff.2 ⟨rfl, inRange⟩
  rw [Decimal.read?_of_plain plain, Decimal.readPlain?, signSplit]
  simp only [Decimal.readFinite?, l.readParts?_chars, Option.bind_some, made, Option.some_or]

end Literal

namespace Decimal

theorem ofText?_toText {d : Decimal} (inRange : d.InRange) : ofText? d.toText = some d := by
  obtain ⟨negative, coefficient, exponent, rfl⟩ := exists_of_isFinite inRange.isFinite
  obtain ⟨l, written, same⟩ := Literal.exists_written coefficient exponent
  rw [Literal.value, finite.injEq] at same
  obtain ⟨-, rfl, rfl⟩ := same
  rw [ofText?, toText_finite, ← written, ← String.ofList_append, String.toList_ofList,
    l.read?_signed inRange]

/-! ### What is read -/

theorem not_isFinite_of_readSpecial? {negative : Bool} {text : List Char} {d : Decimal}
    (read : readSpecial? negative text = some d) : d.isFinite = false := by
  unfold readSpecial? at read
  split at read
  · cases read
    rfl
  · split at read
    · obtain ⟨payload, -, rfl⟩ := Option.map_eq_some_iff.1 read
      rfl
    · split at read
      · obtain ⟨payload, -, rfl⟩ := Option.map_eq_some_iff.1 read
        rfl
      · cases read

theorem inRange_of_ofText? {text : String} {d : Decimal} (read : ofText? text = some d)
    (finite : d.isFinite = true) : d.InRange := by
  rw [ofText?, read?, readPlain?] at read
  rcases Option.or_eq_some_iff.1 read with number | ⟨-, special⟩
  · obtain ⟨parts, -, made⟩ := Option.bind_eq_some_iff.1 number
    exact (ofParts?_eq_some_iff.1 made).2
  · rw [not_isFinite_of_readSpecial? special] at finite
    cases finite

end Decimal

end Formula
