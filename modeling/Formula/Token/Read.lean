import Formula.Lexicon
import Formula.Decimal.Text

/-!
Reading one token from the front of a text. Numbers are read as far as their characters go,
operators and names as the longest prefix of a run that has a meaning.
-/

set_option autoImplicit false

namespace Formula

open Formula.Text

inductive ReadFault where
  | character (c : Char)
  | number (literal : List Char)
  | operator (run : List Char)
  | name (run : List Char)
  deriving DecidableEq, Repr

namespace Token

def isExponentMarker (c : Char) : Bool := c = 'e' || c = 'E'

/-- Whether a number goes on with the character; a sign only follows an exponent marker. -/
def extendsNumber (previous c : Char) : Bool :=
  isDigit c || c = '.' || isExponentMarker c || (isExponentMarker previous && (c = '+' || c = '-'))

def numberTail (previous : Char) : List Char → List Char × List Char
  | [] => ([], [])
  | c :: rest =>
    if extendsNumber previous c then
      let (tail, rest') := numberTail c rest
      (c :: tail, rest')
    else ([], c :: rest)

/-- The literal at the front of a text that starts with a digit or point, and the rest. An exponent
marker at its end belongs to the rest. -/
def splitNumber (first : Char) (rest : List Char) : List Char × List Char :=
  let (tail, rest') := numberTail first rest
  match tail.getLast? with
  | some last =>
    if isExponentMarker last then (first :: tail.dropLast, last :: rest')
    else (first :: tail, rest')
  | none => ([first], rest')

/-- The longest prefix of a run that has a meaning, with what is left of the run. -/
def longestKnown {α : Type} (meaning : List Char → Option α) (seen : List Char) :
    List Char → Option (α × List Char)
  | [] => none
  | c :: rest =>
    let seen' := seen ++ [c]
    (longestKnown meaning seen' rest).or ((meaning seen').map fun a => (a, rest))

def readNumber (first : Char) (rest : List Char) : Except ReadFault (Token × List Char) :=
  let (literal, rest') := splitNumber first rest
  match Decimal.readPlain? literal with
  | some value => .ok (number value, rest')
  | none => .error (.number literal)

def readOperator (lexicon : Lexicon) (last : Option Token) (text : List Char) :
    Except ReadFault (Token × List Char) :=
  let run := text.takeWhile isOperatorChar
  let meaning symbol := lexicon.operator? (arityBehind last) (String.ofList symbol)
  match longestKnown meaning [] run with
  | some (op, left) => .ok (operator op, left ++ text.dropWhile isOperatorChar)
  | none => .error (.operator run)

def readName (lexicon : Lexicon) (text : List Char) : Except ReadFault (Token × List Char) :=
  let run := text.takeWhile isNameChar
  match longestKnown (fun name => lexicon.name? (String.ofList name)) [] run with
  | some (i, left) => .ok (.item i, left ++ text.dropWhile isNameChar)
  | none => .error (.name run)

def isOpeningChar (c : Char) : Bool := c = '(' || c = '\x7b' || c = '['

def isClosingChar (c : Char) : Bool := c = ')' || c = '\x7d' || c = ']'

/-- Reads the token at the front of a text that starts with the given character. Two numbers may not
stand beside each other. -/
def read (lexicon : Lexicon) (last : Option Token) (c : Char) (rest : List Char) :
    Except ReadFault (Token × List Char) :=
  if isDigit c || c = '.' then
    if last.any isNumber then .error (.character c) else readNumber c rest
  else if c = ',' then .ok (.separator, rest)
  else if isOpeningChar c then .ok (.opening, rest)
  else if isClosingChar c then .ok (.closing, rest)
  else if isOperatorChar c then readOperator lexicon last (c :: rest)
  else if isNameStart c then readName lexicon (c :: rest)
  else .error (.character c)

theorem length_numberTail (previous : Char) (text : List Char) :
    (numberTail previous text).1.length + (numberTail previous text).2.length = text.length := by
  induction text generalizing previous with
  | nil => rfl
  | cons c rest ih =>
    unfold numberTail
    split
    · simp only [List.length_cons]
      have := ih c
      omega
    · simp

theorem length_splitNumber (first : Char) (rest : List Char) :
    (splitNumber first rest).2.length < rest.length + 1 := by
  have lengths := length_numberTail first rest
  unfold splitNumber
  generalize numberTail first rest = parts at lengths ⊢
  obtain ⟨tail, rest'⟩ := parts
  rcases tail with _ | ⟨c, tail⟩
  · simp only [List.getLast?_nil, List.length_nil] at lengths ⊢
    omega
  · simp only [List.getLast?_cons, List.length_cons] at lengths ⊢
    split
    · simp only [List.length_cons]
      omega
    · simp only
      omega

theorem length_longestKnown {α : Type} {meaning : List Char → Option α} {seen run : List Char}
    {a : α} {left : List Char} (found : longestKnown meaning seen run = some (a, left)) :
    left.length < run.length := by
  induction run generalizing seen with
  | nil => simp [longestKnown] at found
  | cons c rest ih =>
    simp only [longestKnown, Option.or_eq_some_iff, Option.map_eq_some_iff, Prod.mk.injEq] at found
    rcases found with longer | ⟨_, _, _, _, rfl⟩
    · exact Nat.lt_succ_of_lt (ih longer)
    · exact Nat.lt_succ_self _

theorem length_run (p : Char → Bool) (text : List Char) :
    (text.takeWhile p).length + (text.dropWhile p).length = text.length := by
  rw [← List.length_append, List.takeWhile_append_dropWhile]

theorem length_readNumber {first : Char} {rest rest' : List Char} {token : Token}
    (done : readNumber first rest = .ok (token, rest')) : rest'.length < rest.length + 1 := by
  have shorter := length_splitNumber first rest
  simp only [readNumber] at done
  split at done
  · cases done
    exact shorter
  · cases done

theorem length_readOperator {lexicon : Lexicon} {last : Option Token} {text rest : List Char}
    {token : Token} (done : readOperator lexicon last text = .ok (token, rest)) :
    rest.length < text.length := by
  have whole := length_run isOperatorChar text
  simp only [readOperator] at done
  split at done
  · rename_i found
    cases done
    have shorter := length_longestKnown found
    simp only [List.length_append]
    omega
  · cases done

theorem length_readName {lexicon : Lexicon} {text rest : List Char} {token : Token}
    (done : readName lexicon text = .ok (token, rest)) : rest.length < text.length := by
  have whole := length_run isNameChar text
  simp only [readName] at done
  split at done
  · rename_i found
    cases done
    have shorter := length_longestKnown found
    simp only [List.length_append]
    omega
  · cases done

theorem length_read {lexicon : Lexicon} {last : Option Token} {c : Char} {rest rest' : List Char}
    {token : Token} (done : read lexicon last c rest = .ok (token, rest')) :
    rest'.length < rest.length + 1 := by
  simp only [read] at done
  repeat' split at done
  · cases done
  · exact length_readNumber done
  · cases done
    exact Nat.lt_succ_self _
  · cases done
    exact Nat.lt_succ_self _
  · cases done
    exact Nat.lt_succ_self _
  · exact length_readOperator done
  · exact length_readName done
  · cases done

end Token

end Formula
