import Formula.Proofs.Token.Known

/-!
What is read as a number is a literal, and it ends where no number goes on: in front of another kind
of character, or of an exponent marker without digits.
-/

set_option autoImplicit false

namespace Formula

open Formula.Text

theorem exists_sign (text : List Char) : ∃ (sign : Option Sign) (digits : List Char),
    Decimal.splitSign text = (sign.any Sign.isNegative, digits) ∧
      text = sign.toList.map Sign.char ++ digits := by
  unfold Decimal.splitSign
  split
  · exact ⟨some .plus, _, rfl, rfl⟩
  · exact ⟨some .minus, _, rfl, rfl⟩
  · exact ⟨none, _, rfl, rfl⟩

theorem digits_of_readDigits? {text : List Char} {value : Nat}
    (read : Decimal.readDigits? text = some value) :
    text ≠ [] ∧ (∀ c ∈ text, isDigit c = true) ∧ value = Decimal.digitsValue text := by
  unfold Decimal.readDigits? at read
  split at read
  · rename_i digits
    simp only [Bool.and_eq_true, Bool.not_eq_true', List.isEmpty_eq_false_iff,
      List.all_eq_true] at digits
    cases read
    exact ⟨digits.1, digits.2, rfl⟩
  · cases read

theorem Exponent.exists_of_readExponent? {text : List Char} {value : Int}
    (read : Decimal.readExponent? text = some value) :
    ∃ e : Option Exponent, (e.map chars).getD [] = text ∧
      (e.map Exponent.value).getD 0 = value := by
  cases text with
  | nil =>
    cases read
    exact ⟨none, rfl, rfl⟩
  | cons marker rest =>
    rw [Decimal.readExponent?] at read
    split at read
    · rename_i isMarker
      obtain ⟨sign, digits, signSplit, rfl⟩ := exists_sign rest
      rw [signSplit] at read
      cases found : Decimal.readDigits? digits with
      | none => simp [found] at read
      | some magnitude =>
        obtain ⟨someDigit, valid, rfl⟩ := digits_of_readDigits? found
        simp only [found, Option.bind_eq_bind, Option.bind_some, Option.pure_def, Option.map_some,
          Option.some.injEq] at read
        exact ⟨some ⟨marker, sign, digits, isExponentMarker_iff.2 isMarker, valid, someDigit⟩, rfl,
          read⟩
    · cases read

namespace Literal

theorem exists_of_parts {whole marker : List Char} {exponent : Int} (fraction : Option (List Char))
    (wholeValid : ∀ c ∈ whole, isDigit c = true)
    (fractionValid : ∀ c ∈ fraction.getD [], isDigit c = true)
    (someDigit : whole ++ fraction.getD [] ≠ [])
    (read : Decimal.readExponent? marker = some exponent) :
    ∃ l : Literal, l.chars = whole ++ ((fraction.map ('.' :: ·)).getD [] ++ marker) ∧
      l.coefficient = Decimal.digitsValue (whole ++ fraction.getD []) ∧
      l.power = exponent - (fraction.getD []).length := by
  obtain ⟨e, rfl, rfl⟩ := Exponent.exists_of_readExponent? read
  exact ⟨⟨whole, fraction, e, wholeValid, fractionValid, someDigit⟩, rfl, rfl, rfl⟩

theorem exists_of_readParts? {text : List Char} {coefficient : Nat} {power : Int}
    (read : Decimal.readParts? text = some (coefficient, power)) :
    ∃ l : Literal, l.chars = text ∧ l.coefficient = coefficient ∧ l.power = power := by
  have digits (chars : List Char) :=
    List.all_eq_true.1 (List.all_takeWhile (p := isDigit) (l := chars))
  have parts (chars : List Char) := List.takeWhile_append_dropWhile (p := isDigit) (l := chars)
  simp only [Decimal.readParts?, Option.bind_eq_bind] at read
  split at read
  · rename_i rest point
    split at read
    · cases read
    · rename_i someDigit
      obtain ⟨exponent, found, same⟩ := Option.bind_eq_some_iff.1 read
      cases same
      obtain ⟨l, chars, value, power⟩ := exists_of_parts (some (rest.takeWhile isDigit))
        (digits text) (digits rest) (by simpa using someDigit) found
      refine ⟨l, ?_, value, power⟩
      rw [chars, Option.map_some, Option.getD_some, List.cons_append, parts rest, ← point,
        parts text]
  · split at read
    · cases read
    · rename_i someDigit
      obtain ⟨exponent, found, same⟩ := Option.bind_eq_some_iff.1 read
      cases same
      obtain ⟨l, chars, value, power⟩ := exists_of_parts none
        (digits text) (fun c member => absurd member List.not_mem_nil) (by simpa using someDigit)
        found
      refine ⟨l, ?_, value, power⟩
      rw [chars, Option.map_none, Option.getD_none, List.nil_append, parts text]

theorem exists_of_readPlain? {first : Char} {rest : List Char} {value : Decimal}
    (starts : isDigit first = true ∨ first = '.')
    (spelled : Decimal.readPlain? (first :: rest) = some value) :
    ∃ l : Literal, l.chars = first :: rest ∧ l.InRange ∧ l.value = value := by
  obtain ⟨coefficient, exponent, read, made⟩ := Decimal.exists_parts_of_readPlain? starts spelled
  obtain ⟨l, chars, same, same'⟩ := exists_of_readParts? read
  rw [← same, ← same', Decimal.ofParts?] at made
  split at made
  · cases made
  · rename_i within
    refine ⟨l, chars, ?_, Option.some.inj made⟩
    rw [InRange]
    omega

end Literal

/-! ### Where a number ends -/

def NumberEnds : List Char → Prop
  | [] => True
  | c :: rest => isPlainPart c = false ∨
    Token.isExponentMarker c = true ∧ Stops (Token.extendsNumber c) rest

theorem numberTail_goes_on {previous : Char} {tail : List Char} (goesOn : Extends previous tail)
    (rest : List Char) :
    Token.numberTail previous (tail ++ rest) =
      (tail ++ (Token.numberTail (tail.getLast?.getD previous) rest).1,
        (Token.numberTail (tail.getLast?.getD previous) rest).2) := by
  induction tail generalizing previous with
  | nil => rfl
  | cons c tail ih =>
    rw [List.getLast?_cons, Option.getD_some, List.cons_append, Token.numberTail, if_pos goesOn.1,
      ih goesOn.2]
    rfl

theorem numberTail_behind {previous c : Char} {tail rest rest' : List Char}
    (done : Token.numberTail previous (c :: rest) = (c :: tail, rest')) :
    Token.numberTail c rest = (tail, rest') := by
  rw [Token.numberTail] at done
  split at done
  · simp only [Prod.mk.injEq, List.cons.injEq, true_and] at done
    exact Prod.ext done.1 done.2
  · cases done

theorem stops_of_numberTail {previous : Char} {rest rest' : List Char}
    (nothing : Token.numberTail previous rest = ([], rest')) :
    Stops (Token.extendsNumber previous) rest := by
  intro c next
  cases rest with
  | nil => cases next
  | cons c' rest =>
    cases next
    rw [Token.numberTail] at nothing
    split at nothing
    · cases nothing
    · rename_i stops
      exact Bool.eq_false_iff.2 stops

theorem numberTail_of_stops {previous : Char} {rest : List Char}
    (stops : Stops (Token.extendsNumber previous) rest) :
    Token.numberTail previous rest = ([], rest) := by
  rw [← List.nil_append rest]
  exact numberTail_append trivial stops

theorem NumberEnds.of_stops {previous : Char} {rest : List Char}
    (stops : Stops (Token.extendsNumber previous) rest) : NumberEnds rest := by
  cases rest with
  | nil => trivial
  | cons c rest =>
    have stop := stops c rfl
    refine .inl (Bool.eq_false_iff.2 fun plain => ?_)
    rw [extendsNumber_of_isPlainPart plain] at stop
    cases stop

theorem Token.read_of_startsNumber {first : Char} (starts : isDigit first = true ∨ first = '.')
    {lexicon : Lexicon} {last : Option Token} (apart : last.any isNumber = false)
    (rest : List Char) : read lexicon last first rest = readNumber first rest := by
  have inNumber : (isDigit first || decide (first = '.')) = true := by simpa using starts
  rw [read, if_pos inNumber, apart, if_neg Bool.false_ne_true]

namespace Literal

theorem numberEnds_of_splitNumber (l : Literal) {first : Char} {tail rest : List Char}
    (same : l.chars = first :: tail)
    (done : Token.splitNumber first (tail ++ rest) = (l.chars, rest)) : NumberEnds rest := by
  have goesOn := l.extends_chars first
  rw [same] at goesOn
  have split := numberTail_goes_on goesOn.2 rest
  have parts := Token.numberTail_parts (tail.getLast?.getD first) rest
  rcases more : Token.numberTail (tail.getLast?.getD first) rest with ⟨chars, rest'⟩
  rw [more] at split parts
  simp only [Token.splitNumber, split, same] at done
  cases chars with
  | nil => exact .of_stops (stops_of_numberTail more)
  | cons m chars =>
    -- What the number went on with has been given back, so that it was a marker alone.
    have last : (tail ++ m :: chars).getLast? = some (chars.getLast?.getD m) := by
      rw [List.getLast?_append, List.getLast?_cons, Option.some_or]
    rw [last] at done
    dsimp only at done
    split at done
    · rename_i marker
      simp only [Prod.mk.injEq, List.cons.injEq, true_and] at done
      have lengths := congrArg List.length done.1
      simp only [List.length_dropLast, List.length_append, List.length_cons] at lengths
      obtain rfl : chars = [] := List.eq_nil_of_length_eq_zero (by omega)
      subst parts
      exact .inr ⟨marker, stops_of_numberTail (numberTail_behind more)⟩
    · simp at done

theorem splitNumber_of_numberEnds (l : Literal) {first : Char} {tail rest : List Char}
    (same : l.chars = first :: tail) (ends : NumberEnds rest) :
    Token.splitNumber first (tail ++ rest) = (l.chars, rest) := by
  cases rest with
  | nil => exact l.splitNumber_chars same nofun
  | cons c rest =>
    rcases ends with noPart | ⟨marker, stops⟩
    · refine l.splitNumber_chars same fun c' next => ?_
      cases next
      exact noPart
    · -- The marker is read along with the number and then given back.
      have goesOn := l.extends_chars first
      rw [same] at goesOn
      have plain : isPlainPart c = true := by simp [isPlainPart, marker]
      have read := numberTail_goes_on goesOn.2 (c :: rest)
      rw [Token.numberTail, if_pos (extendsNumber_of_isPlainPart plain _),
        numberTail_of_stops stops] at read
      simp [Token.splitNumber, read, marker, same]

/-- A number is read from a text exactly if a literal of it stands there and ends there. -/
theorem readNumber_iff {first : Char} {tail rest : List Char} {token : Token}
    (starts : isDigit first = true ∨ first = '.') :
    Token.readNumber first (tail ++ rest) = .ok (token, rest) ↔
      NumberEnds rest ∧ ∃ l : Literal, l.chars = first :: tail ∧ l.InRange ∧
        token = .number l.value := by
  constructor
  · intro done
    have parts := Token.splitNumber_parts first (tail ++ rest)
    rcases split : Token.splitNumber first (tail ++ rest) with ⟨chars, rest'⟩
    simp only [Token.readNumber, split] at done parts
    split at done
    · rename_i value spelled
      cases done
      rw [← List.cons_append, List.append_cancel_right_eq] at parts
      subst parts
      obtain ⟨l, same, inRange, rfl⟩ := exists_of_readPlain? starts spelled
      exact ⟨l.numberEnds_of_splitNumber same (by rw [split, same]), l, same, inRange, rfl⟩
    · cases done
  · rintro ⟨ends, l, same, inRange, rfl⟩
    simp only [Token.readNumber, l.splitNumber_of_numberEnds same ends, l.readPlain?_chars inRange]

theorem read_of_numberEnds (l : Literal) (inRange : l.InRange) {lexicon : Lexicon}
    {last : Option Token} (apart : last.any Token.isNumber = false) {first : Char}
    {tail rest : List Char} (same : l.chars = first :: tail) (ends : NumberEnds rest) :
    Token.read lexicon last first (tail ++ rest) = .ok (.number l.value, rest) := by
  obtain ⟨first', tail', same', starts⟩ := l.chars_cons
  rw [same, List.cons.injEq] at same'
  obtain ⟨rfl, rfl⟩ := same'
  rw [Token.read_of_startsNumber starts apart]
  exact (readNumber_iff starts).2 ⟨ends, l, same, inRange, rfl⟩

end Literal

end Formula
