import Formula.Proofs.Literal.Spelled

/-!
Exponent markers without digits. A number goes on with any mix of digits, points, markers and signs
behind markers, and gives back a single marker at its end. So a marker without digits is left to
what comes behind only if no such character comes next; otherwise it is read along with that
character, and no number is spelled.
-/

set_option autoImplicit false

namespace Formula

open Formula.Text

def beginsExponent : List Char → Bool
  | [] => false
  | c :: rest => isDigit c || ((c = '+' || c = '-') && rest.head?.any isDigit)

/-- A number goes on with the character behind an exponent marker, although it is no digit. -/
def misleads (c : Char) : Bool := c = '.' || Token.isExponentMarker c || c = '+' || c = '-'

section
variable {marker : Char} {rest : List Char}

theorem extendsNumber_marker (isMarker : Token.isExponentMarker marker = true) (c : Char) :
    Token.extendsNumber marker c = (isDigit c || misleads c) := by
  simp [Token.extendsNumber, misleads, isMarker, Bool.or_assoc]

theorem stops_of_misleads (isMarker : Token.isExponentMarker marker = true)
    (dangling : beginsExponent rest = false) (stops : Stops misleads rest) :
    Stops (Token.extendsNumber marker) rest := by
  intro c next
  rw [extendsNumber_marker isMarker, stops c next, Bool.or_false]
  cases rest with
  | nil => cases next
  | cons c' rest =>
    cases next
    simp only [beginsExponent, Bool.or_eq_false_iff] at dangling
    exact dangling.1

theorem beginsExponent_append {more : List Char} (rest : List Char)
    (begins : beginsExponent more = true) : beginsExponent (more ++ rest) = true := by
  cases more with
  | nil => cases begins
  | cons c more =>
    cases more with
    | nil =>
      simp only [beginsExponent, List.head?_nil, Option.any_none, Bool.and_false,
        Bool.or_false] at begins
      simp [beginsExponent, begins]
    | cons c' more => exact begins

theorem Exponent.beginsExponent_chars (e : Exponent) :
    beginsExponent (e.signChars ++ e.digits) = true := by
  obtain ⟨d, digits, same⟩ := List.exists_cons_of_ne_nil e.digits_ne_nil
  have digit : isDigit d = true := e.digitsValid d (same ▸ List.mem_cons_self)
  cases sign : e.sign with
  | none => simp [signChars, sign, same, beginsExponent, digit]
  | some s => cases s <;> simp [signChars, sign, same, beginsExponent, digit, Sign.char]

end

namespace Literal

section
variable {m l : Literal} {marker : Char} {more : List Char}

theorem inRange_of_readPlain? {value : Decimal}
    (read : Decimal.readPlain? l.chars = some value) : l.InRange ∧ value = l.value := by
  obtain ⟨first, tail, same, starts⟩ := l.chars_cons
  rw [same] at read
  obtain ⟨l', same', inRange, rfl⟩ := exists_of_readPlain? starts read
  have parts := l.readParts?_chars
  rw [same, ← same', l'.readParts?_chars, Option.some.injEq, Prod.mk.injEq] at parts
  rw [InRange, value, value, ← parts.1, ← parts.2]
  exact ⟨inRange, rfl⟩

theorem not_isExponentMarker_of_mem {l : Literal} (c : Char)
    (member : c ∈ l.whole ++ l.pointChars) : Token.isExponentMarker c = false :=
  not_isExponentMarker ((List.mem_append.1 member).elim (fun whole => .inl (l.wholeValid c whole))
    mem_pointChars)

theorem dropWhile_chars (l : Literal) :
    l.chars.dropWhile (fun c => !Token.isExponentMarker c) = l.exponentChars := by
  rw [chars, ← List.append_assoc]
  refine dropWhile_append_of_stops (fun c member => ?_) fun c next => ?_
  · rw [not_isExponentMarker_of_mem c member]
    rfl
  · cases exponent : l.exponent with
    | none => simp [exponentChars, exponent] at next
    | some e =>
      obtain rfl : e.marker = c := by
        simpa [exponentChars, exponent, Exponent.chars] using next
      rw [e.markerValid]
      rfl

theorem chars_of_mantissa (mantissa : m.exponent = none) : m.chars = m.whole ++ m.pointChars := by
  simp [chars, exponentChars, mantissa]

theorem exponentChars_of_marker (mantissa : m.exponent = none)
    (isMarker : Token.isExponentMarker marker = true)
    (same : l.chars = m.chars ++ marker :: more) : l.exponentChars = marker :: more := by
  rw [← l.dropWhile_chars, same, chars_of_mantissa mantissa]
  refine dropWhile_append_of_stops (fun c member => ?_) fun c next => ?_
  · rw [not_isExponentMarker_of_mem c member]
    rfl
  · cases next
    rw [isMarker]
    rfl

theorem readPlain?_eq_none (mantissa : m.exponent = none)
    (isMarker : Token.isExponentMarker marker = true) (dangling : beginsExponent more = false) :
    Decimal.readPlain? (m.chars ++ marker :: more) = none := by
  rw [Option.eq_none_iff_forall_ne_some]
  intro value read
  obtain ⟨first, tail, same, starts⟩ := m.chars_cons
  rw [same, List.cons_append] at read
  obtain ⟨l, same', _, _⟩ := exists_of_readPlain? starts read
  rw [← List.cons_append, ← same] at same'
  have behind := exponentChars_of_marker mantissa isMarker same'
  cases exponent : l.exponent with
  | none => simp [exponentChars, exponent] at behind
  | some e =>
    simp only [exponentChars, exponent, Option.map_some, Option.getD_some, Exponent.chars,
      List.cons.injEq] at behind
    rw [← behind.2, e.beginsExponent_chars] at dangling
    cases dangling

end

section
variable {marker : Char} {rest : List Char}

/-- Where a marker is read along with more than digits it is no more given back. -/
theorem splitNumber_of_misled (m : Literal) (isMarker : Token.isExponentMarker marker = true)
    (misled : ¬Stops misleads rest) {first : Char} {tail : List Char}
    (same : m.chars = first :: tail) : ∃ more rest',
      Token.splitNumber first (tail ++ marker :: rest) = (m.chars ++ marker :: more, rest') := by
  have goesOn := m.extends_chars first
  rw [same] at goesOn ⊢
  have plain : isPlainPart marker = true := by simp [isPlainPart, isMarker]
  have read := numberTail_goes_on goesOn.2 (marker :: rest)
  rw [Token.numberTail, if_pos (extendsNumber_of_isPlainPart plain _)] at read
  -- Behind the marker the number goes on, so that the marker is not its last character.
  obtain ⟨c, more, rest', goesOn'⟩ :
      ∃ c more rest', Token.numberTail marker rest = (c :: more, rest') := by
    cases rest with
    | nil =>
      refine absurd (fun c next => ?_) misled
      cases next
    | cons c rest =>
      have leads : misleads c = true := by
        cases stops : misleads c with
        | true => rfl
        | false =>
          refine absurd (fun c' next => ?_) misled
          cases next
          exact stops
      refine ⟨c, (Token.numberTail c rest).1, (Token.numberTail c rest).2, ?_⟩
      rw [Token.numberTail, extendsNumber_marker isMarker, leads, Bool.or_true, if_pos rfl]
  rw [goesOn'] at read
  have ends : (tail ++ marker :: c :: more).getLast? = some (more.getLast?.getD c) := by
    simp [List.getLast?_cons]
  simp only [Token.splitNumber, read, ends]
  split
  · refine ⟨(c :: more).dropLast, more.getLast?.getD c :: rest', ?_⟩
    rw [List.dropLast_append_of_ne_nil (List.cons_ne_nil _ _), List.dropLast_cons_cons]
    rfl
  · exact ⟨c :: more, rest', rfl⟩

/-- Where a marker without digits stands behind a mantissa that spells no number, or a character
comes behind the marker that a number goes on with, what is read is refused. -/
theorem readNumber_refused (m : Literal) (mantissa : m.exponent = none)
    (isMarker : Token.isExponentMarker marker = true) (dangling : beginsExponent rest = false)
    (refused : Stops misleads rest → Decimal.readPlain? m.chars = none)
    {first : Char} {tail : List Char} (same : m.chars = first :: tail) :
    ∃ literal, m.chars <+: literal ∧
      Token.readNumber first (tail ++ marker :: rest) = .error (.number literal) := by
  by_cases stops : Stops misleads rest
  · have ends : NumberEnds (marker :: rest) :=
      .inr ⟨isMarker, stops_of_misleads isMarker dangling stops⟩
    refine ⟨m.chars, List.prefix_refl _, ?_⟩
    simp only [Token.readNumber, m.splitNumber_of_numberEnds same ends, refused stops]
  · obtain ⟨more, rest', split⟩ := m.splitNumber_of_misled isMarker stops same
    have parts := Token.splitNumber_parts first (tail ++ marker :: rest)
    rw [split, ← List.cons_append, ← same, List.append_assoc, List.append_cancel_left_eq,
      List.cons_append, List.cons.injEq] at parts
    have dangling' : beginsExponent more = false := by
      rw [Bool.eq_false_iff]
      intro begins
      rw [← parts.2, beginsExponent_append rest' begins] at dangling
      cases dangling
    refine ⟨m.chars ++ marker :: more, List.prefix_append _ _, ?_⟩
    simp only [Token.readNumber, split, readPlain?_eq_none mantissa isMarker dangling']

end

end Literal

end Formula
