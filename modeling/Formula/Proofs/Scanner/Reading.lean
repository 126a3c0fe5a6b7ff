import Formula.Proofs.Scanner.Run
import Formula.Proofs.Token.Cut

/-!
Texts as pieces: the tokens that are read from a text, each with its characters and the blanks in
front of them. Every piece is read in front of the text that actually stands behind it. Products
that are implied are no pieces.
-/

set_option autoImplicit false

namespace Formula

open Formula.Text

/-- A token with the characters that it is read from and the blanks in front of them. -/
structure Piece where
  gap : List Char
  chars : List Char
  token : Token

def sourceOf (pieces : List Piece) : List Char := pieces.flatMap fun p => p.gap ++ p.chars

def lastOf (last : Option Token) (tokens : List Token) : Option Token :=
  tokens.foldl (fun _ token => some token) last

/-- Behind the given token, a text is read piece by piece up to the rest. -/
inductive Reading (lexicon : Lexicon) :
    Option Token → List Char → List Piece → List Char → Prop where
  | stop {last : Option Token} {rest : List Char} : Reading lexicon last rest [] rest
  | piece {last : Option Token} {text gap tail rest rest' : List Char} {c : Char} {token : Token}
      {pieces : List Piece} (split : text = gap ++ c :: (tail ++ rest))
      (blank : ∀ b ∈ gap, isBlank b = true) (visible : isBlank c = false)
      (done : Token.read lexicon last c (tail ++ rest) = .ok (token, rest))
      (more : Reading lexicon (some token) rest pieces rest') :
      Reading lexicon last text (⟨gap, c :: tail, token⟩ :: pieces) rest'

/-- The text is read as the pieces, with nothing but blanks behind them. -/
structure ReadAs (lexicon : Lexicon) (text : List Char) (pieces : List Piece) (rest : List Char) :
    Prop where
  reading : Reading lexicon none text pieces rest
  blank : ∀ c ∈ rest, isBlank c = true

/-- Nothing can be read at the front of the text. -/
def Stuck (lexicon : Lexicon) (last : Option Token) (text : List Char) : Prop :=
  ∀ c rest, text.dropWhile isBlank = c :: rest →
    ∃ fault, Token.read lexicon last c rest = .error fault

theorem sourceOf_cons (p : Piece) (pieces : List Piece) :
    sourceOf (p :: pieces) = p.gap ++ p.chars ++ sourceOf pieces := List.flatMap_cons

theorem dropWhile_gap {gap rest : List Char} {c : Char} (blank : ∀ b ∈ gap, isBlank b = true)
    (visible : isBlank c = false) : (gap ++ c :: rest).dropWhile isBlank = c :: rest := by
  refine dropWhile_append_of_stops blank fun c' next => ?_
  cases next
  exact visible

/-! ### The characters of a token -/

theorem Extends.forall {P : Char → Prop} (each : ∀ previous c,
    Token.extendsNumber previous c = true → P c) {previous : Char} {chars : List Char}
    (goesOn : Extends previous chars) : ∀ c ∈ chars, P c := by
  induction chars generalizing previous with
  | nil => exact nofun
  | cons c chars ih =>
    intro c' member
    rcases List.mem_cons.1 member with rfl | later
    · exact each previous c' goesOn.1
    · exact ih goesOn.2 c' later

theorem Token.not_isBlank_of_extendsNumber (previous c : Char)
    (goesOn : extendsNumber previous c = true) : isBlank c = false := by
  rw [Bool.eq_false_iff]
  intro blank
  have delimited : Delimited [c] := delimited_of_blanks (by simpa using blank)
  rw [not_extendsNumber (delimited c rfl).1 (delimited c rfl).2] at goesOn
  cases goesOn

theorem Literal.visible (l : Literal) : ∀ c ∈ l.chars, isBlank c = false :=
  Extends.forall Token.not_isBlank_of_extendsNumber (l.extends_chars ' ')

section
variable {lexicon : Lexicon} {last : Option Token} {text rest : List Char} {pieces : List Piece}

theorem Token.Taken.visible {chars : List Char} {token : Token}
    (taken : Token.Taken lexicon last chars token) : ∀ c ∈ chars, isBlank c = false := by
  cases taken with
  | number starts _ spelled =>
    obtain ⟨l, same, _⟩ := Literal.exists_of_readPlain? starts spelled
    exact same ▸ l.visible
  | operator valid _ =>
    simp only [isOperatorSymbol, String.toList_ofList, Bool.and_eq_true, List.all_eq_true] at valid
    exact fun c member => not_isBlank_of_isOperatorChar (valid.2 c member)
  | name lexable _ =>
    obtain ⟨_, _, same, _, inside⟩ := chars_of_isLexableName lexable
    rw [String.toList_ofList] at same
    rw [same]
    exact fun c member => not_isBlank_of_isNameChar (inside c member)
  | opening opens => simpa using (Token.standsAlone_opening opens).visible
  | closing closes => simpa using (Token.standsAlone_closing closes).visible
  | separator =>
    intro c member
    rw [List.mem_singleton.1 member]
    decide

namespace Reading

theorem source_eq (reading : Reading lexicon last text pieces rest) :
    text = sourceOf pieces ++ rest := by
  induction reading with
  | stop => rfl
  | piece split _ _ _ _ ih =>
    rw [split, ih, sourceOf_cons]
    simp

theorem append {pieces' : List Piece} {rest' : List Char}
    (reading : Reading lexicon last text pieces rest)
    (more : Reading lexicon (lastOf last (pieces.map Piece.token)) rest pieces' rest') :
    Reading lexicon last text (pieces ++ pieces') rest' := by
  induction reading with
  | stop => exact more
  | piece split blank visible done _ ih => exact .piece split blank visible done (ih more)

/-- What a piece is read from, and behind which token, whatever comes behind it. -/
theorem taken (reading : Reading lexicon last text pieces rest) :
    ∀ p ∈ pieces, (∀ b ∈ p.gap, isBlank b = true) ∧ p.chars ≠ [] ∧
      ∃ before, Token.Taken lexicon before p.chars p.token := by
  induction reading with
  | stop => exact nofun
  | @piece _ _ _ tail _ _ c _ _ _ blank _ done _ ih =>
    intro p member
    rcases List.mem_cons.1 member with rfl | later
    · obtain ⟨chars, parts, taken⟩ := Token.taken_of_read done
      rw [← List.cons_append, List.append_cancel_right_eq] at parts
      exact ⟨blank, List.cons_ne_nil c tail, _, parts ▸ taken⟩
    · exact ih p later

theorem mark {gap : List Char} {c : Char} {token : Token} (alone : Token.StandsAlone c token)
    (blank : ∀ b ∈ gap, isBlank b = true) (rest : List Char) :
    Reading lexicon last (gap ++ c :: rest) [⟨gap, [c], token⟩] rest :=
  .piece rfl blank alone.visible (alone.read lexicon last rest) .stop

/-- A text may be cut anywhere behind the pieces that are read and go on differently. -/
theorem cut {x y : List Char} (reading : Reading lexicon last text pieces rest)
    (keep : List Char) (split : rest = keep ++ x) (delimited : Delimited y) :
    Reading lexicon last (sourceOf pieces ++ (keep ++ y)) pieces (keep ++ y) := by
  induction reading with
  | stop => exact .stop
  | @piece last text gap tail rest rest' c token pieces _ blank visible done more ih =>
    -- What is read lies in front of the cut, so that the token does not reach over it.
    have source : rest = (sourceOf pieces ++ keep) ++ x := by
      rw [more.source_eq, split, List.append_assoc]
    rw [source] at done
    have done' := Token.read_cut done delimited
    rw [List.append_assoc] at done'
    refine .piece ?_ blank visible done' (ih split)
    simp [sourceOf_cons]

theorem followed {y : List Char} (reading : Reading lexicon last text pieces rest)
    (delimited : Delimited y) : Reading lexicon last (text ++ y) pieces (rest ++ y) := by
  have cut := reading.cut rest (List.append_nil rest).symm delimited
  rwa [← List.append_assoc, ← reading.source_eq] at cut

theorem sameBehind {last' : Option Token} (reading : Reading lexicon last text pieces rest)
    (same : Token.SameBehind last last') : Reading lexicon last' text pieces rest := by
  cases reading with
  | stop => exact .stop
  | piece split blank visible done more =>
    rw [same.read] at done
    exact .piece split blank visible done more

theorem exists_middle {front back : List Piece}
    (reading : Reading lexicon last text (front ++ back) rest) :
    ∃ middle, Reading lexicon last text front middle ∧
      Reading lexicon (lastOf last (front.map Piece.token)) middle back rest := by
  induction front generalizing last text with
  | nil => exact ⟨text, .stop, reading⟩
  | cons p front ih =>
    cases reading with
    | piece split blank visible done more =>
      obtain ⟨middle, before, behind⟩ := ih more
      exact ⟨middle, .piece split blank visible done before, behind⟩

end Reading

/-- Every text is read up to a place where nothing more can be read. -/
theorem exists_reading (lexicon : Lexicon) (last : Option Token) (text : List Char) :
    ∃ pieces rest, Reading lexicon last text pieces rest ∧
      Stuck lexicon (lastOf last (pieces.map Piece.token)) rest := by
  -- Induction on the length: a token that is read takes at least the character that it begins with.
  induction length : text.length using Nat.strongRecOn generalizing last text with
  | ind n ih =>
    have whole := List.takeWhile_append_dropWhile (p := isBlank) (l := text)
    cases front : text.dropWhile isBlank with
    | nil =>
      refine ⟨[], text, .stop, fun c rest next => ?_⟩
      rw [front] at next
      cases next
    | cons c rest =>
      cases found : Token.read lexicon last c rest with
      | error fault =>
        refine ⟨[], text, .stop, fun c' rest' next => ⟨fault, ?_⟩⟩
        rw [front] at next
        cases next
        exact found
      | ok result =>
        obtain ⟨token, rest'⟩ := result
        obtain ⟨tail, rfl⟩ := Token.exists_tail_of_read found
        rw [front] at whole
        have shorter : rest'.length < n := by
          have lengths := congrArg List.length whole
          simp only [List.length_append, List.length_cons] at lengths
          omega
        have visible : isBlank c = false := by
          have first := List.head?_dropWhile_not isBlank text
          rw [front] at first
          exact first
        obtain ⟨pieces, stop, reading, stuck⟩ := ih _ shorter (some token) rest' rfl
        exact ⟨_, stop, .piece whole.symm (List.all_eq_true.1 List.all_takeWhile) visible found
          reading, stuck⟩

/-! ### Trimmed texts -/

namespace Reading
variable {p : Piece}

theorem regap (reading : Reading lexicon last text (p :: pieces) rest) (gap : List Char)
    (blank : ∀ b ∈ gap, isBlank b = true) :
    Reading lexicon last (gap ++ (p.chars ++ (sourceOf pieces ++ rest)))
      ({ p with gap } :: pieces) rest := by
  cases reading with
  | piece _ _ visible done more =>
    rw [← more.source_eq]
    exact .piece rfl blank visible done more

theorem last_visible (reading : Reading lexicon last text pieces rest) :
    ∀ c ∈ (sourceOf pieces).getLast?, isBlank c = false := by
  intro c ends
  obtain rfl | ⟨front, p, rfl⟩ := List.eq_nil_or_concat pieces
  · cases ends
  · obtain ⟨_, someChar, _, taken⟩ := reading.taken p (by simp)
    have chars : sourceOf (front.concat p) = (sourceOf front ++ p.gap) ++ p.chars := by
      simp [sourceOf]
    have behind := List.getLast?_eq_some_getLast someChar
    rw [chars, List.getLast?_append, behind, Option.some_or, ← behind] at ends
    exact taken.visible c (List.mem_of_mem_getLast? ends)

/-- A text that is read up to blanks is read alike where it is trimmed. -/
theorem trimmed (reading : Reading lexicon last text pieces rest)
    (complete : ∀ c ∈ rest, isBlank c = true) :
    ∃ pieces', Reading lexicon last (trim text) pieces' [] ∧ (∀ p ∈ pieces'.head?, p.gap = []) ∧
      pieces'.map Piece.token = pieces.map Piece.token := by
  cases pieces with
  | nil =>
    rw [reading.source_eq, sourceOf, List.flatMap_nil, List.nil_append, trim_of_blank complete]
    exact ⟨[], .stop, nofun, rfl⟩
  | cons p pieces =>
    have alone := reading.cut [] rfl (y := []) nofun
    have flush := alone.regap [] nofun
    have ends := flush.last_visible
    obtain ⟨blank, someChar, _, taken⟩ := reading.taken p List.mem_cons_self
    rw [sourceOf_cons, List.nil_append] at ends
    have first : Stops isBlank (p.chars ++ sourceOf pieces) := by
      obtain ⟨c, tail, chars⟩ := List.exists_cons_of_ne_nil someChar
      rw [chars]
      intro c' next
      cases next
      exact taken.visible c (by rw [chars]; exact List.mem_cons_self)
    refine ⟨{ p with gap := [] } :: pieces, ?_, fun p' next => by cases next; rfl, rfl⟩
    rw [reading.source_eq, sourceOf_cons, List.append_assoc, List.append_assoc,
      ← List.append_assoc p.chars, trim_around blank complete (by simp [someChar]) first ends]
    simpa using flush

theorem untrimmed (reading : Reading lexicon last (trim text) pieces []) :
    ∃ pieces' rest, Reading lexicon last text pieces' rest ∧ (∀ c ∈ rest, isBlank c = true) ∧
      pieces'.map Piece.token = pieces.map Piece.token := by
  obtain ⟨lead, trail, parts, blank, blank'⟩ := trim_parts text
  cases pieces with
  | nil =>
    rw [reading.source_eq] at parts
    refine ⟨[], text, .stop, fun c member => ?_, rfl⟩
    rw [parts] at member
    rcases List.mem_append.1 member with front | behind
    · exact blank c front
    · exact blank' c behind
  | cons p pieces =>
    have followed := reading.followed (delimited_of_blanks blank')
    -- The blanks in front of the text go to the first piece, and those behind it to the rest.
    have blankGap : ∀ b ∈ lead ++ p.gap, isBlank b = true := by
      intro b member
      rcases List.mem_append.1 member with front | behind
      · exact blank b front
      · exact (reading.taken p List.mem_cons_self).1 b behind
    refine ⟨{ p with gap := lead ++ p.gap } :: pieces, trail, ?_, blank', rfl⟩
    rw [parts, reading.source_eq]
    have widened := followed.regap (lead ++ p.gap) blankGap
    simpa [sourceOf_cons] using widened

end Reading

end

end Formula
