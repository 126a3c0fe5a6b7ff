import Formula.Proofs.Literal
import Formula.Proofs.Token.Longest
import Formula.Scanner

/-!
Words: texts that are read as one token when a blank or nothing comes behind them. Names and symbols
are words of their meanings, as no longer prefix of a run can have a meaning of its own.
-/

set_option autoImplicit false

namespace Formula

open Formula.Text

structure Word where
  text : String
  token : Token

def Spaced (rest : List Char) : Prop := ∀ c ∈ rest.head?, isBlank c = true

/-- Behind the given token the word is read as its own token, with no product implied before it. -/
structure Word.Reads (lexicon : Lexicon) (last : Option Token) (w : Word) : Prop where
  ne_nil : w.text.toList ≠ []
  firstVisible : ∀ c ∈ w.text.toList.head?, isBlank c = false
  lastVisible : ∀ c ∈ w.text.toList.getLast?, isBlank c = false
  reads : ∀ first tail rest, w.text.toList = first :: tail → Spaced rest →
    Token.read lexicon last first (tail ++ rest) = .ok (w.token, rest)
  notImplied : Scanner.implies lexicon last w.token = false

theorem Spaced.stops {p : Char → Bool} {rest : List Char} (spaced : Spaced rest)
    (apart : ∀ c, p c = true → isBlank c = false) : Stops p rest := by
  intro c next
  rw [Bool.eq_false_iff]
  intro inside
  have blank := spaced c next
  rw [apart c inside] at blank
  cases blank

theorem not_isBlank_of_isPlainPart {c : Char} (plain : isPlainPart c = true) :
    isBlank c = false := by
  simp only [isPlainPart, Bool.or_eq_true, decide_eq_true_eq] at plain
  rcases plain with (digit | rfl) | marker
  · exact not_isBlank_of_isDigit digit
  · decide
  · rcases isExponentMarker_iff.1 marker with rfl | rfl
    · decide
    · decide

/-! ### Longest prefixes -/

theorem longestKnown_of_whole {α : Type} {meaning : List Char → Option α} {seen run : List Char}
    {a : α} (known : meaning (seen ++ run) = some a) (someChar : run ≠ []) :
    Token.longestKnown meaning seen run = some (a, []) :=
  Token.longestKnown_eq_some_iff.2 ⟨run, someChar, (List.append_nil run).symm, known,
    fun _ someMore front => absurd (List.prefix_nil.1 front) someMore⟩

namespace Token

/-! ### The class of the first character -/

theorem read_of_isNameStart {c : Char} (starts : isNameStart c = true) (lexicon : Lexicon)
    (last : Option Token) (rest : List Char) :
    read lexicon last c rest = readName lexicon (c :: rest) := by
  have apart : c ∉ marks ∧ isDigit c = false := by
    simp only [isNameStart, Bool.or_eq_true, decide_eq_true_eq] at starts
    rcases starts with rfl | letter
    · decide
    · exact ⟨not_mem_marks_of_isLetter letter, not_isDigit_of_isLetter letter⟩
  obtain ⟨noMark, noDigit⟩ := apart
  simp only [marks, List.mem_cons, List.not_mem_nil, not_or] at noMark
  simp [read, isOpeningChar, isClosingChar, isOperatorChar, operatorChars, noDigit, noMark,
    starts]

theorem read_of_isOperatorChar {c : Char} (operator : isOperatorChar c = true) (lexicon : Lexicon)
    (last : Option Token) (rest : List Char) :
    read lexicon last c rest = readOperator lexicon last (c :: rest) := by
  have others : (operatorChars.all fun c => !(isDigit c || decide (c = '.')) && c != ',' &&
      !isOpeningChar c && !isClosingChar c) = true := by decide +kernel
  have apart := List.all_eq_true.1 others c (List.contains_iff_mem.1 operator)
  simp only [Bool.and_eq_true, Bool.not_eq_true', bne_iff_ne, ne_eq] at apart
  obtain ⟨⟨⟨noNumber, noSeparator⟩, noOpening⟩, noClosing⟩ := apart
  simp only [read, noNumber, noSeparator, noOpening, noClosing, operator, Bool.false_eq_true,
    if_false, if_true]

end Token

/-! ### Words by their kind -/

def isLexableName (name : String) : Bool :=
  match name.toList with
  | [] => false
  | first :: rest => isNameStart first && rest.all isNameChar

theorem isLexableName_of_isFunctionName {name : String} (valid : isFunctionName name = true) :
    isLexableName name = true := by
  unfold isFunctionName at valid
  unfold isLexableName
  split
  · rename_i chars
    rw [chars] at valid
    exact valid
  · rename_i first rest chars
    rw [chars] at valid
    simp only [Bool.and_eq_true, List.all_eq_true] at valid ⊢
    exact ⟨valid.1, fun c member => isNameChar_of_isFunctionNameChar (valid.2 c member)⟩

theorem chars_of_isLexableName {name : String} (lexable : isLexableName name = true) :
    ∃ first tail, name.toList = first :: tail ∧ isNameStart first = true ∧
      ∀ c ∈ first :: tail, isNameChar c = true := by
  unfold isLexableName at lexable
  split at lexable
  · cases lexable
  · rename_i first tail chars
    simp only [Bool.and_eq_true, List.all_eq_true] at lexable
    refine ⟨first, tail, chars, lexable.1, ?_⟩
    rintro c (_ | ⟨_, member⟩)
    · exact isNameChar_of_isNameStart lexable.1
    · exact lexable.2 c member

section
variable {lexicon : Lexicon} {last : Option Token}

theorem visible_ends {p : Char → Bool} {chars : List Char} (inside : ∀ c ∈ chars, p c = true)
    (apart : ∀ c, p c = true → isBlank c = false) :
    (∀ c ∈ chars.head?, isBlank c = false) ∧ ∀ c ∈ chars.getLast?, isBlank c = false :=
  ⟨fun c member => apart c (inside c (List.mem_of_mem_head? member)),
    fun c member => apart c (inside c (List.mem_of_mem_getLast? member))⟩

/-- A name with a meaning is read where the run of name characters ends with it: the longest prefix
of the run that has a meaning is all of it then. -/
theorem Token.read_of_whole_name {name : String} {i : Item} (lexable : isLexableName name = true)
    (known : lexicon.name? name = some i) {first : Char} {tail rest : List Char}
    (same : name.toList = first :: tail) (stops : Stops isNameChar rest) :
    read lexicon last first (tail ++ rest) = .ok (.item i, rest) := by
  obtain ⟨first', tail', chars, starts, inside⟩ := chars_of_isLexableName lexable
  rw [same] at chars
  cases chars
  have whole : longestKnown (fun name => lexicon.name? (String.ofList name)) [] (first :: tail) =
      some (i, []) := by
    refine longestKnown_of_whole ?_ (List.cons_ne_nil first tail)
    rw [List.nil_append, ← same, String.ofList_toList, known]
  rw [read_of_isNameStart starts, readName, ← List.cons_append,
    takeWhile_append_of_stops inside stops, dropWhile_append_of_stops inside stops]
  simp [whole]

theorem Word.reads_name {name : String} {i : Item} (lexable : isLexableName name = true)
    (known : lexicon.name? name = some i)
    (notImplied : Scanner.implies lexicon last (.item i) = false) :
    Word.Reads lexicon last ⟨name, .item i⟩ := by
  obtain ⟨first, tail, chars, starts, inside⟩ := chars_of_isLexableName lexable
  have ends := visible_ends inside fun _ => not_isBlank_of_isNameChar
  rw [← chars] at ends
  refine ⟨by simp [chars], ends.1, ends.2, fun _ _ _ same spaced => ?_, notImplied⟩
  exact Token.read_of_whole_name lexable known same
    (spaced.stops fun _ => not_isBlank_of_isNameChar)

theorem startsValue_of_implies {token : Token}
    (implied : Scanner.implies lexicon last token = true) : token.startsValue = true := by
  simp only [Scanner.implies, Bool.and_eq_true] at implied
  exact implied.2

theorem not_implied_of_not_startsValue {token : Token} (noValue : token.startsValue = false) :
    Scanner.implies lexicon last token = false := by
  simp [Scanner.implies, noValue]

theorem chars_of_isOperatorSymbol {symbol : String} (valid : isOperatorSymbol symbol = true) :
    symbol.toList ≠ [] ∧ ∀ c ∈ symbol.toList, isOperatorChar c = true := by
  simpa only [isOperatorSymbol, Bool.and_eq_true, Bool.not_eq_true', List.isEmpty_eq_false_iff,
    List.all_eq_true] using valid

theorem Token.read_of_whole_symbol {symbol : String} {op : Operator}
    (valid : isOperatorSymbol symbol = true)
    (known : lexicon.operator? (arityBehind last) symbol = some op) {first : Char}
    {tail rest : List Char} (same : symbol.toList = first :: tail)
    (stops : Stops isOperatorChar rest) :
    read lexicon last first (tail ++ rest) = .ok (.operator op, rest) := by
  obtain ⟨someChar, inside⟩ := chars_of_isOperatorSymbol valid
  have whole : longestKnown
      (fun symbol => lexicon.operator? (arityBehind last) (String.ofList symbol)) []
      symbol.toList = some (op, []) := by
    refine longestKnown_of_whole ?_ someChar
    rw [List.nil_append, String.ofList_toList, known]
  rw [same] at inside whole
  rw [read_of_isOperatorChar (inside first List.mem_cons_self), readOperator,
    ← List.cons_append, takeWhile_append_of_stops inside stops,
    dropWhile_append_of_stops inside stops]
  simp [whole]

theorem Word.reads_operator {symbol : String} {op : Operator}
    (valid : isOperatorSymbol symbol = true)
    (known : lexicon.operator? (arityBehind last) symbol = some op) :
    Word.Reads lexicon last ⟨symbol, .operator op⟩ := by
  obtain ⟨someChar, inside⟩ := chars_of_isOperatorSymbol valid
  have ends := visible_ends inside fun _ => not_isBlank_of_isOperatorChar
  refine ⟨someChar, ends.1, ends.2, fun _ _ _ same spaced => ?_,
    not_implied_of_not_startsValue rfl⟩
  exact Token.read_of_whole_symbol valid known same
    (spaced.stops fun _ => not_isBlank_of_isOperatorChar)

theorem Word.reads_literal {l : Literal} (inRange : l.InRange)
    (apart : last.any Token.isNumber = false)
    (notImplied : Scanner.implies lexicon last (.number l.value) = false) :
    Word.Reads lexicon last ⟨String.ofList l.chars, .number l.value⟩ := by
  obtain ⟨first, tail, chars, starts⟩ := l.chars_cons
  have visible : ∀ c, isDigit c = true ∨ c = '.' → isBlank c = false := by
    rintro c (digit | rfl)
    · exact not_isBlank_of_isDigit digit
    · decide
  refine ⟨by simp [chars], ?_, ?_, ?_, notImplied⟩
  · intro c member
    simp only [String.toList_ofList, chars, List.head?_cons, Option.mem_def,
      Option.some.injEq] at member
    exact visible c (member ▸ starts)
  · intro c member
    rw [String.toList_ofList] at member
    exact visible c (l.getLast?_chars member)
  · intro first' tail' rest same spaced
    rw [String.toList_ofList] at same
    exact l.read_chars inRange apart same (spaced.stops fun _ => not_isBlank_of_isPlainPart)

theorem Word.reads_char {c : Char} {token : Token} (visible : isBlank c = false)
    (reads : ∀ rest, Token.read lexicon last c rest = .ok (token, rest))
    (notImplied : Scanner.implies lexicon last token = false) :
    Word.Reads lexicon last ⟨String.singleton c, token⟩ := by
  refine ⟨by simp, by simpa using visible, by simpa using visible, ?_, notImplied⟩
  intro first tail rest same _
  rw [String.toList_singleton, List.cons.injEq] at same
  rw [← same.1, ← same.2, List.nil_append, reads]

theorem Word.reads_separator : Word.Reads lexicon last ⟨String.singleton ',', .separator⟩ :=
  reads_char (by decide) (fun _ => rfl) (not_implied_of_not_startsValue rfl)

end

end Formula
