import Formula.Proofs.Token.Word

/-!
What reading a token takes from the front of a text, and what it makes of it. A number takes a
literal, an operator its symbol and a name its characters; what is left of the text is untouched.
-/

set_option autoImplicit false

namespace Formula

open Formula.Text

namespace Token

inductive Taken (lexicon : Lexicon) (last : Option Token) : List Char → Token → Prop where
  | number {first : Char} {tail : List Char} {value : Decimal}
      (starts : isDigit first = true ∨ first = '.') (apart : last.any isNumber = false)
      (spelled : Decimal.readPlain? (first :: tail) = some value) :
      Taken lexicon last (first :: tail) (.number value)
  | operator {symbol : List Char} {op : Operator}
      (valid : isOperatorSymbol (String.ofList symbol) = true)
      (known : lexicon.operator? (arityBehind last) (String.ofList symbol) = some op) :
      Taken lexicon last symbol (.operator op)
  | name {name : List Char} {i : Item} (lexable : isLexableName (String.ofList name) = true)
      (known : lexicon.name? (String.ofList name) = some i) : Taken lexicon last name (.item i)
  | opening {c : Char} (opens : isOpeningChar c = true) : Taken lexicon last [c] .opening
  | closing {c : Char} (closes : isClosingChar c = true) : Taken lexicon last [c] .closing
  | separator : Taken lexicon last [','] .separator

/-! ### Parts of a text -/

theorem numberTail_parts (previous : Char) (text : List Char) :
    (numberTail previous text).1 ++ (numberTail previous text).2 = text := by
  induction text generalizing previous with
  | nil => rfl
  | cons c rest ih =>
    unfold numberTail
    split
    · simp only [List.cons_append, ih c]
    · rfl

theorem splitNumber_parts (first : Char) (rest : List Char) :
    (splitNumber first rest).1 ++ (splitNumber first rest).2 = first :: rest := by
  have parts := numberTail_parts first rest
  unfold splitNumber
  generalize numberTail first rest = split at parts ⊢
  obtain ⟨tail, rest'⟩ := split
  replace parts : tail ++ rest' = rest := parts
  subst parts
  dsimp only
  split
  · rename_i last ends
    split
    · -- The marker at the end goes back to the rest.
      obtain ⟨front, rfl⟩ := List.getLast?_eq_some_iff.1 ends
      rw [List.dropLast_concat, List.append_assoc]
      rfl
    · rfl
  · rename_i nothing
    rw [List.getLast?_eq_none_iff.1 nothing]
    rfl

theorem splitNumber_starts (first : Char) (rest : List Char) :
    ∃ tail rest', splitNumber first rest = (first :: tail, rest') := by
  simp only [splitNumber]
  split
  · split
    · exact ⟨_, _, rfl⟩
    · exact ⟨_, _, rfl⟩
  · exact ⟨_, _, rfl⟩

theorem taken_of_run {α : Type} {p : Char → Bool} {meaning : List Char → Option α}
    {text left : List Char} {a : α}
    (found : longestKnown meaning [] (text.takeWhile p) = some (a, left)) :
    ∃ taken, taken ≠ [] ∧ text = taken ++ (left ++ text.dropWhile p) ∧ (∀ c ∈ taken, p c = true) ∧
      meaning taken = some a := by
  obtain ⟨taken, someChar, run, known, _⟩ := longestKnown_eq_some_iff.1 found
  refine ⟨taken, someChar, ?_, inside_of_takeWhile run, known⟩
  rw [← List.append_assoc, ← run, List.takeWhile_append_dropWhile]

/-! ### Reading -/

/-- The ways to read a token; which one is taken is decided by its first character alone. -/
inductive Way (lexicon : Lexicon) :
    Char → (Option Token → List Char → Except ReadFault (Token × List Char)) → Prop where
  | number {c : Char} (starts : isDigit c = true ∨ c = '.') : Way lexicon c fun last rest =>
      if last.any isNumber then .error (.character c) else readNumber c rest
  | operator {c : Char} (inside : isOperatorChar c = true) :
      Way lexicon c fun last rest => readOperator lexicon last (c :: rest)
  | name {c : Char} (starts : isNameStart c = true) :
      Way lexicon c fun _ rest => readName lexicon (c :: rest)
  | separator : Way lexicon ',' fun _ rest => .ok (.separator, rest)
  | opening {c : Char} (opens : isOpeningChar c = true) :
      Way lexicon c fun _ rest => .ok (.opening, rest)
  | closing {c : Char} (closes : isClosingChar c = true) :
      Way lexicon c fun _ rest => .ok (.closing, rest)
  | nothing {c : Char} : Way lexicon c fun _ _ => .error (.character c)

theorem exists_way (lexicon : Lexicon) (c : Char) :
    ∃ way, Way lexicon c way ∧ ∀ last rest, read lexicon last c rest = way last rest := by
  unfold read
  split
  · rename_i starts
    exact ⟨_, .number (by simpa using starts), fun _ _ => rfl⟩
  · split
    · rename_i comma
      subst comma
      exact ⟨_, .separator, fun _ _ => rfl⟩
    · split
      · rename_i opens
        exact ⟨_, .opening opens, fun _ _ => rfl⟩
      · split
        · rename_i closes
          exact ⟨_, .closing closes, fun _ _ => rfl⟩
        · split
          · rename_i inside
            exact ⟨_, .operator inside, fun _ _ => rfl⟩
          · split
            · rename_i starts
              exact ⟨_, .name starts, fun _ _ => rfl⟩
            · exact ⟨_, .nothing, fun _ _ => rfl⟩

section
variable {lexicon : Lexicon} {last : Option Token} {rest : List Char} {token : Token}

theorem taken_of_readNumber {first : Char} {rest' : List Char}
    (starts : isDigit first = true ∨ first = '.') (apart : last.any isNumber = false)
    (done : readNumber first rest = .ok (token, rest')) :
    ∃ taken, first :: rest = taken ++ rest' ∧ Taken lexicon last taken token := by
  have parts := splitNumber_parts first rest
  obtain ⟨tail, rest₁, splits⟩ := splitNumber_starts first rest
  simp only [readNumber, splits] at done parts
  split at done
  · rename_i value spelled
    cases done
    exact ⟨_, parts.symm, .number starts apart spelled⟩
  · cases done

theorem taken_of_readOperator {text : List Char}
    (done : readOperator lexicon last text = .ok (token, rest)) :
    ∃ taken, text = taken ++ rest ∧ Taken lexicon last taken token := by
  simp only [readOperator] at done
  split at done
  · rename_i op left found
    cases done
    obtain ⟨taken, someChar, parts, inside, known⟩ := taken_of_run found
    refine ⟨taken, parts, .operator ?_ known⟩
    simpa [isOperatorSymbol, someChar] using inside
  · cases done

theorem taken_of_readName {first : Char} {text rest' : List Char}
    (starts : isNameStart first = true)
    (done : readName lexicon (first :: text) = .ok (token, rest')) :
    ∃ taken, first :: text = taken ++ rest' ∧ Taken lexicon last taken token := by
  simp only [readName] at done
  split at done
  · rename_i i left found
    cases done
    obtain ⟨taken, someChar, parts, inside, known⟩ := taken_of_run found
    refine ⟨taken, parts, .name ?_ known⟩
    obtain ⟨c, tail, rfl⟩ := List.exists_cons_of_ne_nil someChar
    rw [List.cons_append, List.cons.injEq] at parts
    simp only [isLexableName, String.toList_ofList, Bool.and_eq_true, List.all_eq_true]
    exact ⟨parts.1 ▸ starts, fun c' member => inside c' (List.mem_cons_of_mem c member)⟩
  · cases done

/-- Reading takes what it makes a token of from the front of the text, and leaves the rest. -/
theorem taken_of_read {c : Char} {rest' : List Char}
    (done : read lexicon last c rest = .ok (token, rest')) :
    ∃ taken, c :: rest = taken ++ rest' ∧ Taken lexicon last taken token := by
  obtain ⟨way, decided, same⟩ := exists_way lexicon c
  rw [same] at done
  -- Marks are taken alone; the other ways take what their own lemmas say.
  cases decided with
  | number starts =>
    dsimp only at done
    split at done
    · cases done
    · rename_i apart
      exact taken_of_readNumber starts (Bool.eq_false_iff.2 apart) done
  | operator _ => exact taken_of_readOperator done
  | name starts => exact taken_of_readName starts done
  | separator =>
    cases done
    exact ⟨[','], rfl, .separator⟩
  | opening opens =>
    cases done
    exact ⟨[c], rfl, .opening opens⟩
  | closing closes =>
    cases done
    exact ⟨[c], rfl, .closing closes⟩
  | nothing => cases done

theorem exists_tail_of_read {c : Char} {rest' : List Char}
    (done : read lexicon last c rest = .ok (token, rest')) : ∃ tail, rest = tail ++ rest' := by
  obtain ⟨taken, parts, _⟩ := taken_of_read done
  cases taken with
  | nil =>
    have shorter := length_read done
    have same := congrArg List.length parts
    rw [List.length_cons, List.nil_append] at same
    omega
  | cons c' tail =>
    rw [List.cons_append, List.cons.injEq] at parts
    exact ⟨tail, parts.2⟩

end

end Token

end Formula
