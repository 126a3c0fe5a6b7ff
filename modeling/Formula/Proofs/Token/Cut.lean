import Formula.Proofs.Literal.Spelled

/-!
What is read does not depend on what stands further behind. Where a text is cut anywhere behind a
token, and goes on with a blank, a bracket or a separator there, the token is read as before.
-/

set_option autoImplicit false

namespace Formula

open Formula.Text

/-- No number, symbol or name goes on here. -/
def Delimited (rest : List Char) : Prop :=
  ∀ c ∈ rest.head?, isNameChar c = false ∧ isOperatorChar c = false

theorem delimited_cons {c : Char} (rest : List Char) (noName : isNameChar c = false)
    (noSymbol : isOperatorChar c = false) : Delimited (c :: rest) := by
  intro c' next
  cases next
  exact ⟨noName, noSymbol⟩

theorem delimited_behind_blanks {blanks rest : List Char} (blank : ∀ c ∈ blanks, isBlank c = true)
    (delimited : Delimited rest) : Delimited (blanks ++ rest) := by
  cases blanks with
  | nil => exact delimited
  | cons c blanks =>
    have visible := blank c List.mem_cons_self
    refine delimited_cons (blanks ++ rest) (Bool.eq_false_iff.2 fun inName => ?_)
      (Bool.eq_false_iff.2 fun inSymbol => ?_)
    · rw [not_isBlank_of_isNameChar inName] at visible
      cases visible
    · rw [not_isBlank_of_isOperatorChar inSymbol] at visible
      cases visible

theorem delimited_of_blanks {blanks : List Char} (blank : ∀ c ∈ blanks, isBlank c = true) :
    Delimited blanks := by
  rw [← List.append_nil blanks]
  exact delimited_behind_blanks blank nofun

theorem Token.not_extendsNumber {previous c : Char} (noName : isNameChar c = false)
    (noSymbol : isOperatorChar c = false) : extendsNumber previous c = false := by
  rw [Bool.eq_false_iff]
  intro extending
  simp only [isNameChar, Bool.or_eq_false_iff, decide_eq_false_iff_not] at noName
  simp only [extendsNumber, noName, decide_false, Bool.or_false, Bool.false_or, Bool.or_eq_true,
    Bool.and_eq_true, decide_eq_true_eq] at extending
  rcases extending with marker | ⟨_, rfl | rfl⟩
  · rcases isExponentMarker_iff.1 marker with rfl | rfl
    · exact absurd noName.2 (by decide)
    · exact absurd noName.2 (by decide)
  · exact absurd noSymbol (by decide)
  · exact absurd noSymbol (by decide)

/-- Wherever the character stands it is the token, and nothing in front of it goes on with it. -/
structure Token.StandsAlone (c : Char) (token : Token) : Prop where
  visible : isBlank c = false
  delimited : ∀ rest, Delimited (c :: rest)
  read : ∀ lexicon last rest, read lexicon last c rest = .ok (token, rest)

theorem Token.standsAlone_opening {c : Char} (opens : isOpeningChar c = true) :
    StandsAlone c .opening := by
  simp only [isOpeningChar, Bool.or_eq_true, decide_eq_true_eq] at opens
  rcases opens with (rfl | rfl) | rfl <;>
    exact ⟨by decide, fun rest => delimited_cons rest (by decide +kernel) (by decide),
      fun _ _ _ => rfl⟩

theorem Token.standsAlone_closing {c : Char} (closes : isClosingChar c = true) :
    StandsAlone c .closing := by
  simp only [isClosingChar, Bool.or_eq_true, decide_eq_true_eq] at closes
  rcases closes with (rfl | rfl) | rfl <;>
    exact ⟨by decide, fun rest => delimited_cons rest (by decide +kernel) (by decide),
      fun _ _ _ => rfl⟩

namespace Text

variable {p : Char → Bool} {keep x y : List Char}

theorem Stops.cut (stops : Stops p (keep ++ x)) (stops' : Stops p y) : Stops p (keep ++ y) := by
  cases keep with
  | nil => exact stops'
  | cons c keep => exact stops

theorem takeWhile_cut (keep x : List Char) (stops : Stops p y) :
    (keep ++ y).takeWhile p <+: (keep ++ x).takeWhile p := by
  induction keep with
  | nil =>
    rw [List.nil_append, takeWhile_of_stops stops]
    exact List.nil_prefix
  | cons c keep ih =>
    simp only [List.cons_append, List.takeWhile_cons]
    split
    · exact List.cons_prefix_cons.2 ⟨rfl, ih⟩
    · exact List.nil_prefix

end Text

section
variable {keep x y : List Char}

theorem NumberEnds.cut (ends : NumberEnds (keep ++ x)) (delimited : Delimited y) :
    NumberEnds (keep ++ y) := by
  have stops (previous : Char) : Stops (Token.extendsNumber previous) y := fun c next =>
    Token.not_extendsNumber (delimited c next).1 (delimited c next).2
  cases keep with
  | nil => exact .of_stops (stops ' ')
  | cons c keep => exact ends.imp id fun ⟨marker, stops'⟩ => ⟨marker, stops'.cut (stops c)⟩

namespace Token

theorem IsLongest.cut {α : Type} {p : Char → Bool} {meaning : List Char → Option α}
    {taken : List Char} {a : α} (longest : IsLongest p meaning taken (keep ++ x) a)
    (stops : Stops p y) : IsLongest p meaning taken (keep ++ y) a :=
  { longest with longest := fun more someChar front =>
      longest.longest more someChar (front.trans (takeWhile_cut keep x stops)) }

variable {lexicon : Lexicon} {last : Option Token} {c : Char} {tail : List Char} {token : Token}

/-- A token that was read is read again where the text behind it is cut and goes on differently. -/
theorem read_cut (done : read lexicon last c (tail ++ (keep ++ x)) = .ok (token, keep ++ x))
    (delimited : Delimited y) :
    read lexicon last c (tail ++ (keep ++ y)) = .ok (token, keep ++ y) := by
  have alone {token' : Token}
      (done : Except.ok (ε := ReadFault) (token', tail ++ (keep ++ x)) = .ok (token, keep ++ x)) :
      Except.ok (ε := ReadFault) (token', tail ++ (keep ++ y)) = .ok (token, keep ++ y) := by
    simp only [Except.ok.injEq, Prod.mk.injEq, List.append_left_eq_self] at done ⊢
    exact done
  -- The way to read is chosen by the first character, which stays. Only numbers, symbols and names
  -- depend on what comes behind them.
  obtain ⟨way, decided, same⟩ := exists_way lexicon c
  rw [same] at done ⊢
  cases decided with
  | number starts =>
    dsimp only at done ⊢
    split at done
    · cases done
    · rename_i apart
      obtain ⟨ends, spelled⟩ := (Literal.readNumber_iff starts).1 done
      rw [if_neg apart]
      exact (Literal.readNumber_iff starts).2 ⟨ends.cut delimited, spelled⟩
  | operator _ =>
    obtain ⟨op, rfl, longest⟩ := (readOperator_iff (c :: tail)).1 done
    exact (readOperator_iff (c :: tail)).2
      ⟨op, rfl, longest.cut fun c next => (delimited c next).2⟩
  | name _ =>
    obtain ⟨i, rfl, longest⟩ := (readName_iff (c :: tail)).1 done
    exact (readName_iff (c :: tail)).2
      ⟨i, rfl, longest.cut fun c next => (delimited c next).1⟩
  | separator => exact alone done
  | opening _ => exact alone done
  | closing _ => exact alone done
  | nothing => cases done

/-! ### What stands in front -/

/-- Nothing is read differently behind the two tokens. -/
structure SameBehind (last last' : Option Token) : Prop where
  arity : arityBehind last = arityBehind last'
  number : last.any isNumber = last'.any isNumber

theorem SameBehind.read {last' : Option Token} (same : SameBehind last last') (lexicon : Lexicon)
    (c : Char) (rest : List Char) : read lexicon last c rest = read lexicon last' c rest := by
  simp only [Token.read, readOperator, same.arity, same.number]

end Token

end

end Formula
