import Formula.Proofs.Token.Taken

/-!
What scanning can hand out: finite numbers, declared variables, and operators and functions that the
lexicon knows.
-/

set_option autoImplicit false

namespace Formula

open Formula.Text

def Token.Known (lexicon : Lexicon) : Token → Prop
  | .item (.number value) => value.isFinite = true
  | .item (.var name) => name ∈ lexicon.variableNames
  | .item (.operator op) =>
    op = .multiplication ∨ ∃ arity symbol, lexicon.operator? arity symbol = some op
  | .item (.function f) => ∃ name, lexicon.function? name = some f
  | .opening | .closing | .separator => True

/-! ### Numbers -/

theorem toLower_of_isDigit {c : Char} (digit : isDigit c = true) : c.toLower = c := by
  have noUpper : ¬(c.val ≥ 'A'.val ∧ c.val ≤ 'Z'.val) := by
    intro upper
    have inside : inRanges [(65, 90)] c.toNat = true := by
      simp only [inRanges, List.any_cons, List.any_nil, Bool.or_false, Bool.and_eq_true,
        decide_eq_true_eq]
      exact ⟨UInt32.le_iff_toNat_le.1 upper.1, UInt32.le_iff_toNat_le.1 upper.2⟩
    have apart : apart [(65, 90)] digitRanges = true := by decide +kernel
    rw [isDigit_eq, not_inRanges_of_apart apart inside] at digit
    cases digit
  exact dif_neg noUpper

namespace Decimal

theorem isFinite_of_ofParts? {negative : Bool} {coefficient : Nat} {exponent : Int}
    {value : Decimal} (read : ofParts? negative coefficient exponent = some value) :
    value.isFinite = true := by
  unfold ofParts? at read
  split at read
  · cases read
  · cases read
    rfl

theorem exists_parts_of_readPlain? {first : Char} {rest : List Char} {value : Decimal}
    (starts : isDigit first = true ∨ first = '.') (read : readPlain? (first :: rest) = some value) :
    ∃ coefficient exponent, readParts? (first :: rest) = some (coefficient, exponent) ∧
      ofParts? false coefficient exponent = some value := by
  -- The words for infinity and for no number start with letters, which the first character is not,
  -- not even as a capital.
  have lower : first.toLower = first := starts.elim toLower_of_isDigit fun point => by
    rw [point]
    rfl
  have others : ∀ c ∈ ['+', '-', 'i', 'n', 's'], first ≠ c := by
    rintro c member rfl
    have apart : (['+', '-', 'i', 'n', 's'].all fun c => !isDigit c && c != '.') = true := by decide
    have other := List.all_eq_true.1 apart first member
    rcases starts with digit | point
    · simp [digit] at other
    · simp [point] at other
  simp only [List.mem_cons, List.not_mem_nil, or_false, forall_eq_or_imp, forall_eq] at others
  obtain ⟨plus, minus, i, n, s⟩ := others
  have unsigned : splitSign (first :: rest) = (false, first :: rest) := by
    unfold splitSign
    split
    · rename_i same
      cases same
      exact absurd rfl plus
    · rename_i same
      cases same
      exact absurd rfl minus
    · rfl
  have ordinary : readSpecial? false (first :: rest) = none := by
    simp [readSpecial?, dropWord?, lower, i, n, s]
  rw [readPlain?, unsigned] at read
  simp only [ordinary, Option.or_none] at read
  obtain ⟨parts, spelled, made⟩ := Option.bind_eq_some_iff.1 read
  exact ⟨_, _, spelled, made⟩

end Decimal

namespace Token

theorem known_of_name? {lexicon : Lexicon} {name : String} {i : Item}
    (found : lexicon.name? name = some i) : Known lexicon (.item i) := by
  unfold Lexicon.name? at found
  split at found
  · rename_i declared
    cases found
    exact List.contains_iff_mem.1 declared
  · obtain ⟨f, known, rfl⟩ := Option.map_eq_some_iff.1 found
    exact ⟨name, known⟩

theorem known_of_read {lexicon : Lexicon} {last : Option Token} {c : Char} {rest rest' : List Char}
    {token : Token} (done : read lexicon last c rest = .ok (token, rest')) :
    Known lexicon token := by
  obtain ⟨chars, _, taken⟩ := taken_of_read done
  cases taken with
  | number starts _ spelled =>
    obtain ⟨_, _, _, made⟩ := Decimal.exists_parts_of_readPlain? starts spelled
    exact Decimal.isFinite_of_ofParts? made
  | operator _ known => exact .inr ⟨_, _, known⟩
  | name _ known => exact known_of_name? known
  | opening _ => trivial
  | closing _ => trivial
  | separator => trivial

end Token

end Formula
