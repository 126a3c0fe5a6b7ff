import Formula.Proofs.Text.Class

/-!
Written numbers: digits with an optional point and an optional exponent. A literal in front of a
text that can not make it longer is read as a whole, and its value keeps every digit and the
exponent.
-/

set_option autoImplicit false

namespace Formula

open Formula.Text

inductive Sign where
  | plus
  | minus
  deriving DecidableEq, Repr

def Sign.char : Sign → Char
  | plus => '+'
  | minus => '-'

def Sign.isNegative (s : Sign) : Bool := s == .minus

structure Exponent where
  marker : Char
  sign : Option Sign
  digits : List Char
  markerValid : Token.isExponentMarker marker = true
  digitsValid : ∀ c ∈ digits, isDigit c = true
  digits_ne_nil : digits ≠ []

structure Literal where
  whole : List Char
  fraction : Option (List Char)
  exponent : Option Exponent
  wholeValid : ∀ c ∈ whole, isDigit c = true
  fractionValid : ∀ c ∈ fraction.getD [], isDigit c = true
  digits_ne_nil : whole ++ fraction.getD [] ≠ []

namespace Exponent

def signChars (e : Exponent) : List Char := e.sign.toList.map Sign.char

def chars (e : Exponent) : List Char := e.marker :: (e.signChars ++ e.digits)

def value (e : Exponent) : Int :=
  if e.sign.any Sign.isNegative then -(Decimal.digitsValue e.digits : Int)
  else Decimal.digitsValue e.digits

end Exponent

namespace Literal

def pointChars (l : Literal) : List Char := (l.fraction.map ('.' :: ·)).getD []

def exponentChars (l : Literal) : List Char := (l.exponent.map Exponent.chars).getD []

def chars (l : Literal) : List Char := l.whole ++ (l.pointChars ++ l.exponentChars)

def coefficient (l : Literal) : Nat := Decimal.digitsValue (l.whole ++ l.fraction.getD [])

def power (l : Literal) : Int :=
  (l.exponent.map Exponent.value).getD 0 - (l.fraction.getD []).length

def value (l : Literal) : Decimal := .finite false l.coefficient l.power

def InRange (l : Literal) : Prop :=
  l.power + digitCount l.coefficient - 1 ≤ Decimal.leadingLimit ∧ Decimal.trailingLimit ≤ l.power

instance (l : Literal) : Decidable l.InRange := inferInstanceAs (Decidable (_ ∧ _))

end Literal

/-! ### Values -/

theorem splitSign_of_digits {digits : List Char} (valid : ∀ c ∈ digits, isDigit c = true) :
    Decimal.splitSign digits = (false, digits) := by
  unfold Decimal.splitSign
  split
  · exact absurd (valid '+' List.mem_cons_self) (by decide)
  · exact absurd (valid '-' List.mem_cons_self) (by decide)
  · rfl

theorem readDigits?_of_digits {digits : List Char} (valid : ∀ c ∈ digits, isDigit c = true)
    (someDigit : digits ≠ []) :
    Decimal.readDigits? digits = some (Decimal.digitsValue digits) := by
  have all : digits.all isDigit = true := List.all_eq_true.2 valid
  have notEmpty : digits.isEmpty = false := by simpa using someDigit
  simp [Decimal.readDigits?, all, notEmpty]

theorem isExponentMarker_iff {c : Char} : Token.isExponentMarker c = true ↔ c = 'e' ∨ c = 'E' := by
  simp [Token.isExponentMarker]

theorem Exponent.splitSign (e : Exponent) :
    Decimal.splitSign (e.signChars ++ e.digits) = (e.sign.any Sign.isNegative, e.digits) := by
  cases sign : e.sign with
  | none => simp [signChars, sign, splitSign_of_digits e.digitsValid]
  | some s => cases s <;> simp [signChars, sign] <;> rfl

theorem Exponent.readExponent?_chars (e : Exponent) :
    Decimal.readExponent? e.chars = some e.value := by
  have marker := isExponentMarker_iff.1 e.markerValid
  simp [Decimal.readExponent?, chars, marker, e.splitSign,
    readDigits?_of_digits e.digitsValid e.digits_ne_nil, value]

namespace Literal

theorem readExponent?_exponentChars (l : Literal) :
    Decimal.readExponent? l.exponentChars = some ((l.exponent.map Exponent.value).getD 0) := by
  cases exponent : l.exponent with
  | none => simp [exponentChars, exponent, Decimal.readExponent?]
  | some e => simp [exponentChars, exponent, e.readExponent?_chars]

theorem stops_exponentChars (l : Literal) : Stops isDigit l.exponentChars := by
  intro c first
  cases exponent : l.exponent with
  | none => simp [exponentChars, exponent] at first
  | some e =>
    simp only [exponentChars, exponent, Option.map_some, Option.getD_some, Exponent.chars,
      List.head?_cons, Option.mem_def, Option.some.injEq] at first
    rcases isExponentMarker_iff.1 e.markerValid with marker | marker
    · rw [← first, marker]; decide
    · rw [← first, marker]; decide

theorem stops_pointChars (l : Literal) : Stops isDigit (l.pointChars ++ l.exponentChars) := by
  cases fraction : l.fraction with
  | none => simpa [pointChars, fraction] using l.stops_exponentChars
  | some digits =>
    intro c first
    simp only [pointChars, fraction, Option.map_some, Option.getD_some, List.cons_append,
      List.head?_cons, Option.mem_def, Option.some.injEq] at first
    rw [← first]
    decide

theorem exponentChars_ne_point (l : Literal) (rest : List Char) :
    l.exponentChars ≠ '.' :: rest := by
  cases exponent : l.exponent with
  | none => simp [exponentChars, exponent]
  | some e =>
    have marker := isExponentMarker_iff.1 e.markerValid
    intro same
    simp only [exponentChars, exponent, Option.map_some, Option.getD_some, Exponent.chars,
      List.cons.injEq] at same
    simp [same.1] at marker

theorem readParts?_chars (l : Literal) :
    Decimal.readParts? l.chars = some (l.coefficient, l.power) := by
  have exponent := l.readExponent?_exponentChars
  have someDigit : (l.whole.isEmpty && (l.fraction.getD []).isEmpty) = false := by
    have digits := l.digits_ne_nil
    rw [Ne, List.append_eq_nil_iff] at digits
    simpa using digits
  have valid := l.fractionValid
  simp only [Decimal.readParts?, chars, takeWhile_append_of_stops l.wholeValid l.stops_pointChars,
    dropWhile_append_of_stops l.wholeValid l.stops_pointChars, coefficient, power]
  cases fraction : l.fraction with
  | none =>
    rw [fraction, Option.getD_none] at someDigit
    split
    · rename_i rest parts
      rw [pointChars, fraction] at parts
      exact absurd parts (l.exponentChars_ne_point rest)
    · have someWhole : l.whole ≠ [] := by simpa using someDigit
      simp [pointChars, fraction, someWhole, exponent]
  | some digits =>
    rw [fraction, Option.getD_some] at valid someDigit
    simp only [pointChars, fraction, Option.map_some, Option.getD_some, List.cons_append,
      takeWhile_append_of_stops valid l.stops_exponentChars,
      dropWhile_append_of_stops valid l.stops_exponentChars, someDigit, exponent]
    rfl

theorem chars_cons (l : Literal) :
    ∃ first tail, l.chars = first :: tail ∧ (isDigit first = true ∨ first = '.') := by
  cases whole : l.whole with
  | cons first rest =>
    exact ⟨first, _, by rw [chars, whole]; rfl,
      .inl (l.wholeValid first (by rw [whole]; exact List.mem_cons_self))⟩
  | nil =>
    cases fraction : l.fraction with
    | none => exact absurd (by simp [whole, fraction]) l.digits_ne_nil
    | some digits => exact ⟨'.', _, by rw [chars, whole, pointChars, fraction]; rfl, .inr rfl⟩

theorem splitSign_chars (l : Literal) : Decimal.splitSign l.chars = (false, l.chars) := by
  obtain ⟨first, tail, splitChars, starts⟩ := l.chars_cons
  rw [splitChars]
  unfold Decimal.splitSign
  split
  · rename_i same
    cases same
    exact absurd starts (by decide)
  · rename_i same
    cases same
    exact absurd starts (by decide)
  · rfl

theorem readPlain?_chars (l : Literal) (inRange : l.InRange) :
    Decimal.readPlain? l.chars = some l.value := by
  -- The limits of reading are those of `InRange`, and a literal has no sign of its own.
  have within : ¬(Decimal.leadingLimit < l.power + digitCount l.coefficient - 1 ∨
      l.power < Decimal.trailingLimit) := by
    have limits := inRange
    simp only [InRange] at limits
    omega
  rw [Decimal.readPlain?, l.splitSign_chars]
  simp only [Decimal.readFinite?, l.readParts?_chars, Option.bind_some, Decimal.ofParts?,
    if_neg within, Option.some_or, value]

end Literal

/-! ### Scanning -/

def Extends (previous : Char) : List Char → Prop
  | [] => True
  | c :: rest => Token.extendsNumber previous c = true ∧ Extends c rest

/-- Whether the character goes on with a number whatever its last character is. -/
def isPlainPart (c : Char) : Bool := isDigit c || c = '.' || Token.isExponentMarker c

theorem extendsNumber_of_isPlainPart {c : Char} (plain : isPlainPart c = true) (previous : Char) :
    Token.extendsNumber previous c = true := by
  simp only [isPlainPart, Token.extendsNumber, Bool.or_eq_true] at plain ⊢
  exact .inl plain

theorem Extends.plain {part rest : List Char} (plain : ∀ c ∈ part, isPlainPart c = true)
    (goesOn : ∀ previous, Extends previous rest) (previous : Char) :
    Extends previous (part ++ rest) := by
  induction part generalizing previous with
  | nil => exact goesOn previous
  | cons c part ih =>
    exact ⟨extendsNumber_of_isPlainPart (plain c List.mem_cons_self) previous,
      ih (fun c' member => plain c' (List.mem_cons_of_mem c member)) c⟩

theorem numberTail_append {previous : Char} {tail rest : List Char}
    (goesOn : Extends previous tail)
    (stops : Stops (Token.extendsNumber (tail.getLast?.getD previous)) rest) :
    Token.numberTail previous (tail ++ rest) = (tail, rest) := by
  induction tail generalizing previous with
  | nil =>
    cases rest with
    | nil => rfl
    | cons c rest =>
      have stop := stops c rfl
      simp only [List.getLast?_nil, Option.getD_none] at stop
      simp [Token.numberTail, stop]
  | cons c tail ih =>
    rw [List.getLast?_cons] at stops
    simp [Token.numberTail, goesOn.1, ih goesOn.2 stops]

theorem isPlainPart_of_isDigit {c : Char} (digit : isDigit c = true) : isPlainPart c = true := by
  simp [isPlainPart, digit]

theorem Exponent.extends_chars (e : Exponent) (previous : Char) : Extends previous e.chars := by
  have marker : isPlainPart e.marker = true := by simp [isPlainPart, e.markerValid]
  have digits : ∀ previous, Extends previous e.digits := by
    intro previous
    have nothing : ∀ previous, Extends previous [] := fun _ => trivial
    have alone := Extends.plain
      (fun c member => isPlainPart_of_isDigit (e.digitsValid c member)) nothing previous
    rwa [List.append_nil] at alone
  refine ⟨extendsNumber_of_isPlainPart marker previous, ?_⟩
  cases sign : e.sign with
  | none => simpa [signChars, sign] using digits e.marker
  | some s =>
    have splitChars : e.signChars ++ e.digits = s.char :: e.digits := by simp [signChars, sign]
    rw [splitChars]
    exact ⟨by cases s <;> simp [Token.extendsNumber, e.markerValid, Sign.char], digits s.char⟩

namespace Literal

theorem mem_pointChars {l : Literal} {c : Char} (member : c ∈ l.pointChars) :
    isDigit c = true ∨ c = '.' := by
  have valid := l.fractionValid
  cases fraction : l.fraction with
  | none => simp [pointChars, fraction] at member
  | some digits =>
    simp only [pointChars, fraction, Option.map_some, Option.getD_some, List.mem_cons] at member
    rw [fraction, Option.getD_some] at valid
    exact member.symm.imp_left (valid c)

theorem extends_chars (l : Literal) (previous : Char) : Extends previous l.chars := by
  have exponent : ∀ previous, Extends previous l.exponentChars := by
    intro previous
    cases exponent : l.exponent with
    | none => simp [exponentChars, exponent, Extends]
    | some e => simpa [exponentChars, exponent] using e.extends_chars previous
  refine Extends.plain (fun c member => isPlainPart_of_isDigit (l.wholeValid c member)) ?_ previous
  refine Extends.plain (fun c member => ?_) exponent
  rcases mem_pointChars member with digit | rfl
  · exact isPlainPart_of_isDigit digit
  · decide

theorem getLast?_chars (l : Literal) {last : Char} (ends : last ∈ l.chars.getLast?) :
    isDigit last = true ∨ last = '.' := by
  cases exponent : l.exponent with
  | some e =>
    have splitChars : l.chars =
        (l.whole ++ l.pointChars ++ e.marker :: e.signChars) ++ e.digits := by
      simp [chars, exponentChars, exponent, Exponent.chars]
    rw [splitChars, List.getLast?_append, List.getLast?_eq_some_getLast e.digits_ne_nil,
      Option.some_or, Option.mem_def, Option.some.injEq] at ends
    exact .inl (e.digitsValid last (ends ▸ List.getLast_mem e.digits_ne_nil))
  | none =>
    have member := List.mem_of_getLast? ends
    simp only [chars, exponentChars, exponent, Option.map_none, Option.getD_none,
      List.append_nil, List.mem_append] at member
    rcases member with member | member
    · exact .inl (l.wholeValid last member)
    · exact mem_pointChars member

theorem not_isExponentMarker {c : Char} (plain : isDigit c = true ∨ c = '.') :
    Token.isExponentMarker c = false := by
  rcases plain with digit | rfl
  · rw [Bool.eq_false_iff]
    intro marker
    rcases isExponentMarker_iff.1 marker with rfl | rfl
    · exact absurd digit (by decide)
    · exact absurd digit (by decide)
  · rfl

theorem splitNumber_chars (l : Literal) {first : Char} {tail rest : List Char}
    (same : l.chars = first :: tail) (stops : Stops isPlainPart rest) :
    Token.splitNumber first (tail ++ rest) = (l.chars, rest) := by
  have goesOn := l.extends_chars first
  rw [same] at goesOn
  -- A sign would go on with the literal only behind a marker, and no marker ends it.
  have noMarker : Token.isExponentMarker (tail.getLast?.getD first) = false := by
    refine not_isExponentMarker (l.getLast?_chars ?_)
    rw [same, List.getLast?_cons, Option.mem_def]
  have stops' : Stops (Token.extendsNumber (tail.getLast?.getD first)) rest := by
    intro c next
    have plain := stops c next
    simp only [isPlainPart] at plain
    simp [Token.extendsNumber, noMarker, plain]
  simp only [Token.splitNumber, numberTail_append goesOn.2 stops', same]
  split
  · rename_i c last
    rw [last, Option.getD_some] at noMarker
    rw [noMarker, if_neg Bool.false_ne_true]
  · rename_i last
    rw [List.getLast?_eq_none_iff.1 last]

theorem read_chars (l : Literal) (inRange : l.InRange) {lexicon : Lexicon} {last : Option Token}
    (apart : last.any Token.isNumber = false) {first : Char} {tail rest : List Char}
    (same : l.chars = first :: tail) (stops : Stops isPlainPart rest) :
    Token.read lexicon last first (tail ++ rest) = .ok (.number l.value, rest) := by
  have starts : (isDigit first || decide (first = '.')) = true := by
    obtain ⟨first', tail', same', starts⟩ := l.chars_cons
    rw [same'] at same
    cases same
    simpa using starts
  simp only [Token.read, starts, apart, Token.readNumber, l.splitNumber_chars same stops,
    l.readPlain?_chars inRange, if_true, Bool.false_eq_true, if_false]

end Literal

end Formula
