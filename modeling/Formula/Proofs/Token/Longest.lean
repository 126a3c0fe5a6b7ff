import Formula.Proofs.Text.Class

/-!
Symbols and names are read as the longest prefix of a run that has a meaning: that prefix is known,
and no longer one is.
-/

set_option autoImplicit false

namespace Formula

open Formula.Text

namespace Token

section
variable {α : Type} {meaning : List Char → Option α} {seen run left : List Char} {a : α}

theorem longestKnown_eq_none_iff : longestKnown meaning seen run = none ↔
    ∀ known, known ≠ [] → known <+: run → meaning (seen ++ known) = none := by
  induction run generalizing seen with
  | nil =>
    refine ⟨fun _ known someChar front => absurd (List.prefix_nil.1 front) someChar, fun _ => rfl⟩
  | cons c run ih =>
    rw [longestKnown, Option.or_eq_none_iff, ih, Option.map_eq_none_iff]
    constructor
    · rintro ⟨longer, alone⟩ known someChar front
      obtain ⟨c', known', rfl⟩ := List.exists_cons_of_ne_nil someChar
      obtain ⟨rfl, front'⟩ := List.cons_prefix_cons.1 front
      by_cases someMore : known' = []
      · rw [someMore]
        exact alone
      · rw [← longer known' someMore front', List.append_assoc]
        rfl
    · intro unknown
      refine ⟨fun known someChar front => ?_, unknown [c] (List.cons_ne_nil c []) ?_⟩
      · rw [List.append_assoc]
        exact unknown (c :: known) (List.cons_ne_nil c known) (List.cons_prefix_cons.2 ⟨rfl, front⟩)
      · exact List.cons_prefix_cons.2 ⟨rfl, List.nil_prefix⟩

theorem longestKnown_eq_some_iff : longestKnown meaning seen run = some (a, left) ↔
    ∃ taken, taken ≠ [] ∧ run = taken ++ left ∧ meaning (seen ++ taken) = some a ∧
      ∀ more, more ≠ [] → more <+: left → meaning (seen ++ taken ++ more) = none := by
  constructor
  · intro found
    induction run generalizing seen with
    | nil => cases found
    | cons c run ih =>
      rw [longestKnown] at found
      -- A longer prefix wins over the one that ends with this character.
      cases longer : longestKnown meaning (seen ++ [c]) run with
      | some result =>
        rw [longer, Option.some_or] at found
        obtain ⟨taken, _, rfl, known, longest⟩ := ih (longer.trans found)
        refine ⟨c :: taken, List.cons_ne_nil c taken, rfl, ?_, ?_⟩
        · simpa using known
        · simpa using longest
      | none =>
        rw [longer, Option.none_or] at found
        obtain ⟨a', known, same⟩ := Option.map_eq_some_iff.1 found
        cases same
        exact ⟨[c], List.cons_ne_nil c [], rfl, known, longestKnown_eq_none_iff.1 longer⟩
  · rintro ⟨taken, someChar, rfl, known, longest⟩
    induction taken generalizing seen with
    | nil => exact absurd rfl someChar
    | cons c taken ih =>
      rw [List.cons_append, longestKnown]
      by_cases someMore : taken = []
      · subst someMore
        rw [List.nil_append, longestKnown_eq_none_iff.2 longest, Option.none_or, known]
        rfl
      · rw [ih someMore (by simpa using known) (by simpa using longest), Option.some_or]

end

/-- In front of the rest, the characters of a run that are taken have a meaning, and no longer
prefix of the run has one. -/
structure IsLongest {α : Type} (p : Char → Bool) (meaning : List Char → Option α)
    (taken rest : List Char) (a : α) : Prop where
  ne_nil : taken ≠ []
  inside : ∀ c ∈ taken, p c = true
  known : meaning taken = some a
  longest : ∀ more, more ≠ [] → more <+: rest.takeWhile p → meaning (taken ++ more) = none

section
variable {α : Type} {p : Char → Bool} {meaning : List Char → Option α} {taken rest : List Char}
  {a : α}

theorem inside_of_takeWhile {text left : List Char} (run : text.takeWhile p = taken ++ left) :
    ∀ c ∈ taken, p c = true := by
  intro c member
  refine List.all_eq_true.1 List.all_takeWhile c (?_ : c ∈ text.takeWhile p)
  rw [run]
  exact List.mem_append_left left member

theorem exists_longestKnown_iff :
    (∃ left, longestKnown meaning [] ((taken ++ rest).takeWhile p) = some (a, left) ∧
      left ++ (taken ++ rest).dropWhile p = rest) ↔ IsLongest p meaning taken rest a := by
  constructor
  · rintro ⟨left, found, behind⟩
    obtain ⟨known, someChar, run, means, longest⟩ := longestKnown_eq_some_iff.1 found
    have parts := List.takeWhile_append_dropWhile (p := p) (l := taken ++ rest)
    rw [run, List.append_assoc, behind, List.append_cancel_right_eq] at parts
    subst parts
    have inside := inside_of_takeWhile run
    rw [List.takeWhile_append_of_pos inside, List.append_cancel_left_eq] at run
    exact ⟨someChar, inside, means, run ▸ longest⟩
  · rintro ⟨someChar, inside, known, longest⟩
    refine ⟨rest.takeWhile p, ?_, ?_⟩
    · rw [List.takeWhile_append_of_pos inside]
      exact longestKnown_eq_some_iff.2 ⟨taken, someChar, rfl, known, longest⟩
    · rw [List.dropWhile_append_of_pos inside, List.takeWhile_append_dropWhile]

end

section
variable {lexicon : Lexicon} {last : Option Token} {rest : List Char} {token : Token}

theorem readOperator_iff (taken : List Char) :
    readOperator lexicon last (taken ++ rest) = .ok (token, rest) ↔
      ∃ op, token = operator op ∧ IsLongest isOperatorChar
        (fun symbol => lexicon.operator? (arityBehind last) (String.ofList symbol)) taken rest
        op := by
  constructor
  · intro done
    simp only [readOperator] at done
    split at done
    · rename_i found
      simp only [Except.ok.injEq, Prod.mk.injEq] at done
      exact ⟨_, done.1.symm, exists_longestKnown_iff.1 ⟨_, found, done.2⟩⟩
    · cases done
  · rintro ⟨_, rfl, longest⟩
    obtain ⟨left, found, behind⟩ := exists_longestKnown_iff.2 longest
    simp only [readOperator, found, behind]

theorem readName_iff (taken : List Char) :
    readName lexicon (taken ++ rest) = .ok (token, rest) ↔
      ∃ i, token = .item i ∧ IsLongest isNameChar
        (fun name => lexicon.name? (String.ofList name)) taken rest i := by
  constructor
  · intro done
    simp only [readName] at done
    split at done
    · rename_i found
      simp only [Except.ok.injEq, Prod.mk.injEq] at done
      exact ⟨_, done.1.symm, exists_longestKnown_iff.1 ⟨_, found, done.2⟩⟩
    · cases done
  · rintro ⟨_, rfl, longest⟩
    obtain ⟨left, found, behind⟩ := exists_longestKnown_iff.2 longest
    simp only [readName, found, behind]

end

end Token

end Formula
