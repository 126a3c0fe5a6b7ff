import Formula.Token.Read

/-!
No character belongs to two of the classes of blanks, letters and decimal digits, and the characters
with a meaning of their own belong to none of them. Runs of a class are split off exactly.
-/

set_option autoImplicit false

namespace Formula.Text

/-- Goes through ranges by increasing first codes, from a bound on, and drops the ranges to the
right that lie below; the first that is left has to lie above. -/
def apartFrom (bound : Nat) (right : List (Nat × Nat)) : List (Nat × Nat) → Bool
  | [] => true
  | (first, last) :: left =>
    let right' := right.dropWhile fun s => Nat.blt s.2 first
    Nat.ble bound first && right'.head?.all (fun s => Nat.blt last s.1) &&
      apartFrom first right' left

def apart (left right : List (Nat × Nat)) : Bool :=
  apartFrom 0 right left && decide (right.Pairwise fun r s => r.1 ≤ s.1)

theorem le_of_apartFrom {bound code : Nat} {left right : List (Nat × Nat)}
    (separate : apartFrom bound right left = true) (inside : inRanges left code = true) :
    bound ≤ code := by
  induction left generalizing bound right with
  | nil => cases inside
  | cons r left ih =>
    simp only [apartFrom, Bool.and_eq_true, Nat.ble_eq] at separate
    simp only [inRanges, List.any_cons, Bool.or_eq_true, Bool.and_eq_true, decide_eq_true_eq]
      at inside
    rcases inside with here | later
    · exact Nat.le_trans separate.1.1 here.1
    · exact Nat.le_trans separate.1.1 (ih separate.2 later)

theorem outside_of_apartFrom {bound code : Nat} {left right : List (Nat × Nat)}
    (sorted : right.Pairwise fun r s => r.1 ≤ s.1) (separate : apartFrom bound right left = true)
    (inside : inRanges left code = true) : ∀ s ∈ right, code < s.1 ∨ s.2 < code := by
  induction left generalizing bound right with
  | nil => cases inside
  | cons r left ih =>
    obtain ⟨first, last⟩ := r
    simp only [apartFrom, Bool.and_eq_true, Nat.ble_eq] at separate
    obtain ⟨⟨_, above⟩, separate⟩ := separate
    -- Ranges to the right that end below this one are dropped for good, as those to come lie
    -- higher.
    have sorted' := sorted.sublist (List.dropWhile_sublist fun s => Nat.blt s.2 first)
    simp only [inRanges, List.any_cons, Bool.or_eq_true, Bool.and_eq_true, decide_eq_true_eq]
      at inside
    intro s member
    rw [← List.takeWhile_append_dropWhile (p := fun s => Nat.blt s.2 first) (l := right),
      List.mem_append] at member
    rcases member with dropped | kept
    -- A dropped range ends below the code, whichever range to the left holds this.
    · have below := List.all_eq_true.1 List.all_takeWhile s dropped
      rw [Nat.blt_eq] at below
      have atLeast : first ≤ code := inside.elim (·.1) (le_of_apartFrom separate)
      omega
    · rcases inside with here | later
      · cases rest : right.dropWhile fun s => Nat.blt s.2 first with
        | nil => rw [rest] at kept; cases kept
        | cons next rest' =>
          rw [rest] at kept above sorted'
          simp only [List.head?_cons, Option.all_some, Nat.blt_eq] at above
          rcases List.mem_cons.1 kept with rfl | further
          · omega
          · have order := (List.pairwise_cons.1 sorted').1 s further
            omega
      · exact ih sorted' separate later s kept

theorem not_inRanges_of_apart {left right : List (Nat × Nat)} (separate : apart left right = true)
    {code : Nat} (inside : inRanges left code = true) : inRanges right code = false := by
  simp only [apart, Bool.and_eq_true, decide_eq_true_eq] at separate
  have outside := outside_of_apartFrom separate.2 separate.1 inside
  simp only [inRanges, List.any_eq_false, Bool.and_eq_true, decide_eq_true_eq]
  rintro s inRight ⟨fromFirst, toLast⟩
  have gap := outside s inRight
  omega

def digitRanges : List (Nat × Nat) := digitZeros.map fun first => (first, first + 9)

theorem isDigit_eq (c : Char) : isDigit c = inRanges digitRanges c.toNat := by
  rw [Bool.eq_iff_iff]
  simp [isDigit, digitValue?, inRanges, digitRanges]

def marks : List Char :=
  ['!', '#', '$', '%', '&', '(', ')', '*', '+', ',', '-', '.', '/', ':', ';', '<', '=', '>', '[',
    ']', '^', '\x7b', '|', '\x7d', '~', '§', '÷', '√', '∛', '⌈', '⌊']

def markRanges : List (Nat × Nat) := marks.map fun c => (c.toNat, c.toNat)

theorem digits_apart_blanks : apart digitRanges blankRanges = true := by decide +kernel

theorem letters_apart_blanks : apart letterRanges blankRanges = true := by decide +kernel

theorem letters_apart_digits : apart letterRanges digitRanges = true := by decide +kernel

theorem letters_apart_marks : apart letterRanges markRanges = true := by decide +kernel

theorem not_isBlank_of_isDigit {c : Char} (digit : isDigit c = true) : isBlank c = false := by
  rw [isDigit_eq] at digit
  exact not_inRanges_of_apart digits_apart_blanks digit

theorem not_isBlank_of_isLetter {c : Char} (letter : isLetter c = true) : isBlank c = false :=
  not_inRanges_of_apart letters_apart_blanks letter

theorem not_isDigit_of_isLetter {c : Char} (letter : isLetter c = true) : isDigit c = false := by
  rw [isDigit_eq]
  exact not_inRanges_of_apart letters_apart_digits letter

theorem not_mem_marks_of_isLetter {c : Char} (letter : isLetter c = true) : c ∉ marks := by
  intro member
  have outside := not_inRanges_of_apart letters_apart_marks letter
  simp only [markRanges, inRanges, List.any_map, List.any_eq_false, Function.comp_apply,
    Bool.and_eq_true, decide_eq_true_eq] at outside
  exact outside c member ⟨Nat.le_refl _, Nat.le_refl _⟩

theorem not_isBlank_of_isOperatorChar {c : Char} (operator : isOperatorChar c = true) :
    isBlank c = false := by
  have all : (operatorChars.all fun c => !isBlank c) = true := by decide +kernel
  simpa using List.all_eq_true.1 all c (List.contains_iff_mem.1 operator)

theorem not_isBlank_of_isNameChar {c : Char} (inName : isNameChar c = true) :
    isBlank c = false := by
  simp only [isNameChar, Bool.or_eq_true, decide_eq_true_eq] at inName
  rcases inName with ((rfl | rfl) | digit) | letter
  · decide
  · decide
  · exact not_isBlank_of_isDigit digit
  · exact not_isBlank_of_isLetter letter

theorem isNameChar_of_isNameStart {c : Char} (starts : isNameStart c = true) :
    isNameChar c = true := by
  simp only [isNameStart, isNameChar, Bool.or_eq_true, decide_eq_true_eq] at starts ⊢
  rcases starts with under | letter
  · exact .inl (.inl (.inl under))
  · exact .inr letter

theorem isNameChar_of_isFunctionNameChar {c : Char} (inName : isFunctionNameChar c = true) :
    isNameChar c = true := by
  simp only [isFunctionNameChar, isNameChar, Bool.or_eq_true, decide_eq_true_eq] at inName ⊢
  rcases inName with (under | digit) | letter
  · exact .inl (.inl (.inl under))
  · exact .inl (.inr digit)
  · exact .inr letter

/-! ### Runs -/

def Stops (p : Char → Bool) (text : List Char) : Prop := ∀ c ∈ text.head?, p c = false

variable {p : Char → Bool} {run rest : List Char}

theorem takeWhile_append_of_stops (inside : ∀ c ∈ run, p c = true) (stops : Stops p rest) :
    (run ++ rest).takeWhile p = run := by
  rw [List.takeWhile_append_of_pos inside]
  cases rest with
  | nil => simp
  | cons c rest => simp [stops c rfl]

theorem dropWhile_append_of_stops (inside : ∀ c ∈ run, p c = true) (stops : Stops p rest) :
    (run ++ rest).dropWhile p = rest := by
  rw [List.dropWhile_append_of_pos inside]
  cases rest with
  | nil => rfl
  | cons c rest => simp [stops c rfl]

theorem takeWhile_of_stops (stops : Stops p rest) : rest.takeWhile p = [] := by
  rw [← List.nil_append rest]
  exact takeWhile_append_of_stops nofun stops

theorem dropWhile_of_stops (stops : Stops p rest) : rest.dropWhile p = rest := by
  rw [← List.nil_append rest]
  exact dropWhile_append_of_stops nofun stops

theorem stops_dropWhile (text : List Char) : Stops p (text.dropWhile p) := by
  intro c next
  have stops := List.head?_dropWhile_not p text
  rw [next] at stops
  exact stops

/-! ### Trimmed texts -/

theorem trim_of_blank {text : List Char} (blank : ∀ c ∈ text, isBlank c = true) :
    trim text = [] := by
  have nothingLeft : (text ++ []).dropWhile isBlank = [] := dropWhile_append_of_stops blank nofun
  rw [List.append_nil] at nothingLeft
  rw [trim, trimLeft, nothingLeft]
  rfl

theorem trim_around {lead text trail : List Char} (blank : ∀ c ∈ lead, isBlank c = true)
    (blank' : ∀ c ∈ trail, isBlank c = true) (someChar : text ≠ [])
    (first : Stops isBlank text) (last : ∀ c ∈ text.getLast?, isBlank c = false) :
    trim (lead ++ (text ++ trail)) = text := by
  have first' : Stops isBlank (text ++ trail) := by
    obtain ⟨c, rest, rfl⟩ := List.exists_cons_of_ne_nil someChar
    exact first
  have last' : Stops isBlank text.reverse := by
    intro c next
    rw [List.head?_reverse] at next
    exact last c next
  have blank'' : ∀ c ∈ trail.reverse, isBlank c = true := fun c member =>
    blank' c (List.mem_reverse.1 member)
  rw [trim, trimLeft, dropWhile_append_of_stops blank first', trimRight, List.reverse_append,
    dropWhile_append_of_stops blank'' last', List.reverse_reverse]

theorem trim_of_visible_ends {text : List Char} (first : Stops isBlank text)
    (last : ∀ c ∈ text.getLast?, isBlank c = false) : trim text = text := by
  by_cases someChar : text = []
  · rw [someChar]
    rfl
  · have around : trim ([] ++ (text ++ [])) = text := trim_around nofun nofun someChar first last
    rwa [List.nil_append, List.append_nil] at around

theorem last_visible_of_trim (text : List Char) :
    ∀ c ∈ (trim text).getLast?, isBlank c = false := by
  intro c last
  rw [trim, trimRight, List.getLast?_reverse] at last
  exact stops_dropWhile (trimLeft text).reverse c last

theorem trim_prefix_dropWhile (text : List Char) : trim text <+: text.dropWhile isBlank := by
  rw [trim, trimRight, ← List.reverse_suffix, List.reverse_reverse]
  exact List.dropWhile_suffix isBlank

theorem first_visible_of_trim (text : List Char) : Stops isBlank (trim text) := by
  intro c next
  obtain ⟨rest, parts⟩ := trim_prefix_dropWhile text
  refine stops_dropWhile text c ?_
  rw [← parts, List.head?_append, next]
  rfl

@[simp] theorem trim_trim (text : List Char) : trim (trim text) = trim text :=
  trim_of_visible_ends (first_visible_of_trim text) (last_visible_of_trim text)

theorem trim_parts (text : List Char) : ∃ lead trail, text = lead ++ (trim text ++ trail) ∧
    (∀ c ∈ lead, isBlank c = true) ∧ ∀ c ∈ trail, isBlank c = true := by
  have allBlank (text : List Char) : ∀ c ∈ text.takeWhile isBlank, isBlank c = true :=
    List.all_eq_true.1 List.all_takeWhile
  refine ⟨text.takeWhile isBlank, ((trimLeft text).reverse.takeWhile isBlank).reverse, ?_,
    allBlank text, fun c member => allBlank _ c (List.mem_reverse.1 member)⟩
  rw [trim, trimRight, ← List.reverse_append, List.takeWhile_append_dropWhile,
    List.reverse_reverse, trimLeft, List.takeWhile_append_dropWhile]

theorem mem_of_mem_trim {text : List Char} {c : Char} (member : c ∈ trim text) : c ∈ text := by
  obtain ⟨lead, trail, parts, -⟩ := trim_parts text
  rw [parts]
  exact List.mem_append_right lead (List.mem_append_left trail member)

theorem trim_eq_nil_iff {text : List Char} : trim text = [] ↔ ∀ c ∈ text, isBlank c = true := by
  refine ⟨fun nothing c member => ?_, trim_of_blank⟩
  obtain ⟨lead, trail, parts, blank, blank'⟩ := trim_parts text
  rw [parts, nothing, List.nil_append] at member
  exact (List.mem_append.1 member).elim (blank c) (blank' c)

end Formula.Text
