import Formula.Scanner

/-!
Calls on one scanner in any order, also behind errors. A call that fails leaves the scanner in front
of the character at which it failed, behind the blanks that were passed on the way. Looking for that
character is not stopped by the end of the text, so that passing the end is an answer of its own.
-/

set_option autoImplicit false

namespace Formula.Scanner

open Formula.Text

inductive Call where
  | hasNext
  | next
  deriving DecidableEq, Repr

inductive Answer where
  | more (more : Bool)
  | token (token : Token)
  | failed (error : ScanError)
  | beyond

/-- Blanks are left and nothing else, so that a search for another character passes the end. -/
def runsOut (s : Scanner) : Bool := !s.rest.isEmpty && s.rest.all isBlank

def skipBlanks (s : Scanner) : Scanner := { s with rest := s.rest.dropWhile isBlank }

def call (lexicon : Lexicon) (s : Scanner) : Call → Answer × Scanner
  | .hasNext => (.more s.hasNext, s)
  | .next =>
    match s.next lexicon with
    | .ok (token, s') => (.token token, s')
    | .error error => (if s.runsOut then .beyond else .failed error, s.skipBlanks)

def answers (lexicon : Lexicon) (s : Scanner) : List Call → List Answer
  | [] => []
  | c :: calls => (s.call lexicon c).1 :: answers lexicon (s.call lexicon c).2 calls

def after (lexicon : Lexicon) (s : Scanner) (calls : List Call) : Scanner :=
  calls.foldl (fun s c => (s.call lexicon c).2) s

end Formula.Scanner
