import Formula.Token.Read
import Formula.Text.Quoted

/-!
Scanning a text into tokens, one call at a time. Where a value follows a value and products may be
implied, a multiplication is handed out first and the token that was read is held for the next call.
-/

set_option autoImplicit false

namespace Formula

open Formula.Text

/-- Why a scanner has no next token. Positions count characters of the trimmed text. -/
inductive ScanError where
  | atEnd (text : List Char)
  | stuck (fault : ReadFault) (position : Nat) (text : List Char)
  deriving DecidableEq, Repr

def quoteList (text : List Char) : String := String.ofList (quoteChars text)

def ScanError.message : ScanError → String
  | .atEnd text => "Unexpected end of expression " ++ quoteList text
  | .stuck (.character c) position _ =>
    "Unable to parse char " ++ quoteList [c] ++ " (Code:" ++ toString c.toNat ++ ") at ["
      ++ toString position ++ "]"
  | .stuck (.number literal) position _ =>
    "Invalid number " ++ quoteList literal ++ " at [" ++ toString position ++ "]"
  | .stuck (.operator run) position text =>
    "Unknown operator " ++ quoteList run ++ " at [" ++ toString position ++ "] in expression "
      ++ quoteList text
  | .stuck (.name run) position text =>
    "Unknown function or variable " ++ quoteList run ++ " at pos " ++ toString position
      ++ " in expression " ++ quoteList text

/-- The trimmed text, what is left of it, the token handed out last, and a token held back. -/
structure Scanner where
  text : List Char
  rest : List Char
  last : Option Token
  held : Option Token

namespace Scanner

def start (text : List Char) : Scanner :=
  { text := trim text, rest := trim text, last := none, held := none }

def ofText (text : String) : Scanner := start text.toList

def hasNext (s : Scanner) : Bool := s.held.isSome || !s.rest.isEmpty

def impliedProduct : Token := .operator .multiplication

def implies (lexicon : Lexicon) (last : Option Token) (token : Token) : Bool :=
  lexicon.impliedProducts && last.any Token.mayMultiply && token.startsValue

/-- Hands out a token that was read, or the multiplication implied in front of it. -/
def handOut (lexicon : Lexicon) (s : Scanner) (token : Token) (rest : List Char) :
    Token × Scanner :=
  if implies lexicon s.last token then
    (impliedProduct, { s with rest, last := some impliedProduct, held := some token })
  else (token, { s with rest, last := some token })

def next (lexicon : Lexicon) (s : Scanner) : Except ScanError (Token × Scanner) :=
  match s.held with
  | some token => .ok (token, { s with last := some token, held := none })
  | none =>
    match s.rest.dropWhile isBlank with
    | [] => .error (.atEnd s.text)
    | c :: rest =>
      match Token.read lexicon s.last c rest with
      | .ok (token, rest') => .ok (handOut lexicon s token rest')
      | .error fault => .error (.stuck fault (s.text.length - (rest.length + 1)) s.text)

/-- How much a scanner can still do: every call that succeeds lowers it. -/
def remaining (s : Scanner) : Nat := 2 * s.rest.length + if s.held.isSome then 1 else 0

theorem remaining_next {lexicon : Lexicon} {s s' : Scanner} {token : Token}
    (done : s.next lexicon = .ok (token, s')) : s'.remaining < s.remaining := by
  unfold next at done
  -- A token held back counts for one, and a character for two, so that a product may be handed out
  -- before the token that it stands in front of.
  split at done
  · rename_i held
    cases done
    simp [remaining, held]
  · rename_i held
    have whole := Token.length_run isBlank s.rest
    split at done
    · cases done
    · rename_i c rest front
      simp only [front, List.length_cons] at whole
      split at done
      · rename_i token' rest' found
        have shorter := Token.length_read found
        simp only [Except.ok.injEq] at done
        unfold handOut at done
        split at done
        · cases done
          simp only [remaining, held, Option.isSome_some, Option.isSome_none]
          split <;> omega
        · cases done
          simp only [remaining, held, Option.isSome_none]
          split <;> omega
      · cases done

def run (lexicon : Lexicon) (s : Scanner) : List Token × Option ScanError :=
  if s.hasNext then
    match _done : s.next lexicon with
    | .ok (token, s') =>
      let (tokens, error?) := run lexicon s'
      (token :: tokens, error?)
    | .error error => ([], some error)
  else ([], none)
termination_by s.remaining
decreasing_by exact remaining_next _done

end Scanner

end Formula
