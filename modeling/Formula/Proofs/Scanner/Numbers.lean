import Mathlib.Data.Nat.Digits.Defs
import Formula.Proofs.Literal.Dangling
import Formula.Proofs.Scanner.Calls
import Formula.Proofs.Scanner.Partition

/-!
Numbers in a text. A literal is handed out as the number that its digits spell place by place,
however many there are, and the text goes on right behind it. Where an exponent marker without
digits comes behind a mantissa, the text goes on with the marker as if a blank stood in front of it,
unless the character behind the marker is one that a number goes on with.
-/

set_option autoImplicit false

namespace Formula

open Formula.Text

/-! ### Places of digits -/

def placeValue (digits : List Char) : Nat :=
  Nat.ofDigits 10 (digits.reverse.map fun c => (digitValue? c).getD 0)

theorem digitsValue_eq_placeValue (digits : List Char) :
    Decimal.digitsValue digits = placeValue digits := by
  rw [← digits.reverse_reverse]
  generalize digits.reverse = places
  induction places with
  | nil => rfl
  | cons c places ih =>
    rw [placeValue, List.reverse_reverse] at ih ⊢
    rw [List.map_cons, Nat.ofDigits_cons, ← ih, Decimal.digitsValue, List.reverse_cons,
      List.foldl_append, List.foldl_cons, List.foldl_nil, Nat.add_comm, Nat.mul_comm]
    rfl

namespace Literal

def exponentValue (l : Literal) : Int :=
  match l.exponent with
  | none => 0
  | some e => if e.sign = some .minus then -(placeValue e.digits : Int) else placeValue e.digits

theorem value_eq (l : Literal) :
    l.value = .finite false (placeValue (l.whole ++ l.fraction.getD []))
      (l.exponentValue - (l.fraction.getD []).length) := by
  have exponent : (l.exponent.map Exponent.value).getD 0 = l.exponentValue := by
    unfold exponentValue
    cases l.exponent with
    | none => rfl
    | some e =>
      simp only [Option.map_some, Option.getD_some, Exponent.value, digitsValue_eq_placeValue]
      cases e.sign with
      | none => rfl
      | some s => cases s <;> rfl
  rw [value, coefficient, power, exponent, digitsValue_eq_placeValue]

theorem dropWhile_isBlank (l : Literal) (rest : List Char) :
    (l.chars ++ rest).dropWhile isBlank = l.chars ++ rest := by
  obtain ⟨first, tail, same, _⟩ := l.chars_cons
  refine dropWhile_of_stops fun c next => ?_
  rw [same] at next
  cases next
  exact l.visible first (same ▸ List.mem_cons_self)

end Literal

namespace Scanner

/-! ### Literals -/

section
variable {lexicon : Lexicon} {s : Scanner} {l : Literal} {c : Char} {rest : List Char}

theorem run_behind_blank (free : s.held = none) {b : Char} (blank : isBlank b = true) :
    run lexicon { s with rest := b :: c :: rest } = run lexicon { s with rest := c :: rest } := by
  have same : next lexicon { s with rest := b :: c :: rest } =
      next lexicon { s with rest := c :: rest } := by
    simp only [next, free, List.dropWhile_cons_of_pos blank, handOut]
  have more (c : Char) (rest : List Char) : hasNext { s with rest := c :: rest } = true := by
    simp [hasNext]
  cases found : next lexicon { s with rest := c :: rest } with
  | ok result => rw [run_next (same.trans found), run_next found]
  | error error => rw [run_stuck (more _ _) (same.trans found), run_stuck (more _ _) found]

theorem delivers_literal (free : s.held = none) (apart : s.last.any Token.isNumber = false)
    (inRange : l.InRange) (front : s.rest.dropWhile isBlank = l.chars ++ rest)
    (ends : NumberEnds rest) : s.Delivers lexicon (.number l.value) rest := by
  obtain ⟨first, tail, same, _⟩ := l.chars_cons
  refine delivers_of_read free (front.trans ?_) (l.read_of_numberEnds inRange apart same ends)
  rw [same]
  rfl

theorem run_literal (free : s.held = none) (apart : s.last.any Token.isNumber = false)
    (inRange : l.InRange) (front : s.rest.dropWhile isBlank = l.chars ++ c :: rest)
    (ends : NumberEnds (c :: rest)) :
    s.run lexicon = run lexicon { s with rest := l.chars ++ ' ' :: c :: rest } := by
  have delivers : s.Delivers lexicon (.number l.value) (c :: rest) :=
    delivers_literal free apart inRange front ends
  have delivers' : Delivers lexicon { s with rest := l.chars ++ ' ' :: c :: rest }
      (.number l.value) (' ' :: c :: rest) :=
    delivers_literal free apart inRange (l.dropWhile_isBlank _) (.inl (by decide))
  have later : run lexicon { s with rest := ' ' :: c :: rest, last := some (.number l.value) } =
      run lexicon { s with rest := c :: rest, last := some (.number l.value) } :=
    run_behind_blank (s := { s with last := some (.number l.value) }) free (by decide)
  rw [run_of_delivers delivers, run_of_delivers delivers', later]

end

/-- A literal within the limits of decimal numbers that stands behind no number, and in front of
nothing that a number goes on with, is handed out whole, with all of its digits. -/
theorem next_literal (lexicon : Lexicon) {s : Scanner} (free : s.held = none)
    (apart : s.last.any Token.isNumber = false) {l : Literal} (inRange : l.InRange)
    {rest : List Char} (front : s.rest.dropWhile isBlank = l.chars ++ rest)
    (stops : Stops isPlainPart rest) :
    s.Delivers lexicon (.number (.finite false (placeValue (l.whole ++ l.fraction.getD []))
      (l.exponentValue - (l.fraction.getD []).length))) rest := by
  rw [← l.value_eq]
  refine delivers_literal free apart inRange front ?_
  cases rest with
  | nil => trivial
  | cons c rest => exact .inl (stops c rfl)

/-- More digits than arithmetic keeps, the last of them and the exponent in another script. -/
def manyDigits : Literal where
  whole := "12345678901234567890123456789012345".toList
  fraction := some ['٦']
  exponent := some ⟨'e', some .minus, ['٥'], rfl, List.all_eq_true.1 rfl, List.cons_ne_nil _ _⟩
  wholeValid := List.all_eq_true.1 rfl
  fractionValid := List.all_eq_true.1 rfl
  digits_ne_nil := List.cons_ne_nil _ _

/-- Behind a variable the literal waits for the product, and a sign ends it. -/
theorem next_literal_manyDigits :
    let s : Scanner := ⟨"x12345678901234567890123456789012345.٦e-٥+1".toList,
      "12345678901234567890123456789012345.٦e-٥+1".toList, some (.item (.var "x")), none⟩
    s.last.any Token.isNumber = false ∧ manyDigits.InRange ∧
      s.rest.dropWhile isBlank = manyDigits.chars ++ ['+', '1'] ∧ Stops isPlainPart ['+', '1'] ∧
      s.Delivers {} (.number (.finite false 123456789012345678901234567890123456 (-6)))
        ['+', '1'] := by
  intro s
  have apart : s.last.any Token.isNumber = false := rfl
  have inRange : manyDigits.InRange := by decide +kernel
  have front : s.rest.dropWhile isBlank = manyDigits.chars ++ ['+', '1'] := by decide +kernel
  have stops : Stops isPlainPart ['+', '1'] := by
    intro c next
    cases next
    decide
  have delivers := next_literal {} (s := s) rfl apart inRange front stops
  have digits : placeValue (manyDigits.whole ++ manyDigits.fraction.getD []) =
      123456789012345678901234567890123456 := by decide +kernel
  have scale : manyDigits.exponentValue - (manyDigits.fraction.getD []).length = -6 := by
    decide +kernel
  rw [digits, scale] at delivers
  exact ⟨apart, inRange, front, stops, delivers⟩

/-! ### Markers without digits -/

/-- Where an exponent marker without digits comes behind a mantissa, the mantissa is handed out as
the number it spells and the text goes on with the marker, as if a blank stood in front of it,
unless a point, another marker or a sign comes next. Then what was read is refused, with the
mantissa. -/
theorem next_mantissa (lexicon : Lexicon) {s : Scanner} (free : s.held = none)
    (apart : s.last.any Token.isNumber = false) {m : Literal} (mantissa : m.exponent = none)
    {marker : Char} (isMarker : Token.isExponentMarker marker = true) {rest : List Char}
    (dangling : beginsExponent rest = false)
    (front : s.rest.dropWhile isBlank = m.chars ++ marker :: rest) :
    (∀ value, Stops misleads rest → Decimal.ofText? (String.ofList m.chars) = some value →
      s.Delivers lexicon (.number value) (marker :: rest) ∧
        s.run lexicon = run lexicon { s with rest := m.chars ++ ' ' :: marker :: rest }) ∧
    ((Stops misleads rest → Decimal.ofText? (String.ofList m.chars) = none) →
      ∃ literal position, m.chars <+: literal ∧
        s.next lexicon = .error (.stuck (.number literal) position s.text)) := by
  rw [m.ofText?_eq_readPlain?]
  constructor
  · intro value stops spelled
    -- The mantissa is a literal of its own, which ends in front of the marker.
    obtain ⟨inRange, rfl⟩ := Literal.inRange_of_readPlain? spelled
    have ends : NumberEnds (marker :: rest) :=
      .inr ⟨isMarker, stops_of_misleads isMarker dangling stops⟩
    exact ⟨delivers_literal free apart inRange front ends,
      run_literal free apart inRange front ends⟩
  · intro refused
    obtain ⟨first, tail, same, starts⟩ := m.chars_cons
    -- What is read goes on behind the mantissa, and spells no number with it.
    obtain ⟨literal, begins, failed⟩ :=
      m.readNumber_refused mantissa isMarker dangling refused same
    have unread : Token.read lexicon s.last first (tail ++ marker :: rest) =
        .error (.number literal) := (Token.read_of_startsNumber starts apart _).trans failed
    rw [same] at front
    exact ⟨literal, _, begins, next_eq_error_iff.2 (.stuck free front unread)⟩

def oneAndAHalf : Literal where
  whole := ['1']
  fraction := some ['5', '0']
  exponent := none
  wholeValid := List.all_eq_true.1 rfl
  fractionValid := List.all_eq_true.1 rfl
  digits_ne_nil := List.cons_ne_nil _ _

theorem next_mantissa_name :
    let lexicon : Lexicon := { variableNames := ["ex"] }
    let s := ofText "1.50ex"
    s.rest.dropWhile isBlank = oneAndAHalf.chars ++ 'e' :: ['x'] ∧ beginsExponent ['x'] = false ∧
      Stops misleads ['x'] ∧
      Decimal.ofText? (String.ofList oneAndAHalf.chars) = some (.finite false 150 (-2)) ∧
      s.Delivers lexicon (.number (.finite false 150 (-2))) ['e', 'x'] ∧
      s.run lexicon = run lexicon { s with rest := "1.50 ex".toList } := by
  intro lexicon s
  have front : s.rest.dropWhile isBlank = oneAndAHalf.chars ++ 'e' :: ['x'] := by decide +kernel
  have dangling : beginsExponent ['x'] = false := by decide
  have stops : Stops misleads ['x'] := by
    intro c next
    cases next
    decide
  have spelled : Decimal.ofText? (String.ofList oneAndAHalf.chars) =
      some (.finite false 150 (-2)) := by decide +kernel
  have handed := (next_mantissa lexicon (s := s) rfl rfl (m := oneAndAHalf) rfl rfl dangling
    front).1 _ stops spelled
  exact ⟨front, dangling, stops, spelled, handed⟩

/-- A marker without digits is not always left to what comes behind: a sign is read along with it,
and the number is refused with both, although the marker is a name and the sign an operator. -/
theorem next_signedMarker_refused :
    (ofText "1.50e+x").next { variableNames := ["e", "x"] } =
        .error (.stuck (.number ['1', '.', '5', '0', 'e', '+']) 0
          ['1', '.', '5', '0', 'e', '+', 'x']) ∧
      ¬∀ (lexicon : Lexicon) (s : Scanner) (m : Literal) (marker : Char) (rest : List Char)
        (value : Decimal), s.held = none → s.last.any Token.isNumber = false → m.exponent = none →
          Token.isExponentMarker marker = true → beginsExponent rest = false →
          s.rest.dropWhile isBlank = m.chars ++ marker :: rest →
          Decimal.ofText? (String.ofList m.chars) = some value →
          s.Delivers lexicon (.number value) (marker :: rest) := by
  have refused : (ofText "1.50e+x").next { variableNames := ["e", "x"] } =
      .error (.stuck (.number ['1', '.', '5', '0', 'e', '+']) 0
        ['1', '.', '5', '0', 'e', '+', 'x']) := rfl
  refine ⟨refused, fun always => ?_⟩
  have spelled : Decimal.ofText? (String.ofList oneAndAHalf.chars) =
      some (.finite false 150 (-2)) := by decide +kernel
  have delivered := always { variableNames := ["e", "x"] } (ofText "1.50e+x") oneAndAHalf 'e'
    ['+', 'x'] _ rfl rfl rfl rfl (by decide) (by decide +kernel) spelled
  -- In front of the first token no product is implied.
  rw [Delivers, if_neg (by decide), refused] at delivered
  cases delivered

end Scanner

end Formula
