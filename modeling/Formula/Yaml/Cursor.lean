/-!
Places in a YAML text. Some characters end a line without starting a new one as far as columns are
concerned: only the line feed does that.
-/

set_option autoImplicit false

namespace Formula.Yaml

/-- The versions of the language, which differ in the forms of scalars and in a few indicators. -/
inductive Version where
  | oneOne
  | oneTwo
  deriving DecidableEq, Repr

/-- What is left of a text, how long that is, and where in the text it begins. -/
structure Cursor where
  rest : List Char
  left : Nat
  line : Nat := 0
  column : Nat := 0

def isBreak (c : Char) : Bool := c = '\n' || c = '\u0085' || c = '\u2028' || c = '\u2029'

def isWhite (c : Char) : Bool := c = ' ' || c = '\t'

def endsLine : Option Char → Bool
  | none => true
  | some c => isBreak c

def endsWord : Option Char → Bool
  | none => true
  | some c => c = ' ' || isBreak c

def isCut : Option Char → Bool
  | none => true
  | some c => isWhite c || isBreak c

def isMarker : List Char → Bool
  | '-' :: '-' :: '-' :: rest => isCut rest.head?
  | '.' :: '.' :: '.' :: rest => isCut rest.head?
  | _ => false

namespace Cursor

def ofText (text : List Char) : Cursor := { rest := text, left := text.length }

def head? (c : Cursor) : Option Char := c.rest.head?

def second? (c : Cursor) : Option Char := c.rest[1]?

/-- Moves over one character; a byte order mark has no width. -/
def step (c : Cursor) : Cursor :=
  match c.rest with
  | [] => c
  | char :: rest =>
    if char = '\n' then { rest, left := c.left - 1, line := c.line + 1, column := 0 }
    else { rest, left := c.left - 1, line := c.line
           column := if char = '\uFEFF' then c.column else c.column + 1 }

def skip (c : Cursor) : Nat → Cursor
  | 0 => c
  | count + 1 => c.step.skip count

def takeWhile (p : Char → Bool) (c : Cursor) : List Char × Cursor :=
  let taken := c.rest.takeWhile p
  (taken, c.skip taken.length)

def dropWhile (p : Char → Bool) (c : Cursor) : Cursor := (c.takeWhile p).2

def skipSpaces (c : Cursor) : Cursor := c.dropWhile (· = ' ')

def toLineEnd (c : Cursor) : List Char × Cursor := c.takeWhile (!isBreak ·)

def breakLine? (c : Cursor) : Option (Char × Cursor) :=
  match c.head? with
  | some char =>
    if isBreak char then some (if char = '\u0085' then '\n' else char, c.step) else none
  | none => none

def atMarker (c : Cursor) : Bool := c.column = 0 && isMarker c.rest

end Cursor

/-- What line ends between parts of a scalar count as: a single line feed as a space, and of several
ones all but the first as they are. -/
def foldBreaks (first : Char) (more : List Char) : List Char :=
  if first ≠ '\n' then first :: more else if more.isEmpty then [' '] else more

end Formula.Yaml
