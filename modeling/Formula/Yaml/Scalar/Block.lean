import Formula.Yaml.Cursor
import Formula.Yaml.ReadError

/-!
The texts of block scalars. Lines are kept or folded; what becomes of the line ends behind the last
line is said in the header, as may be how far the lines are indented.
-/

set_option autoImplicit false

namespace Formula.Yaml

/-- What becomes of the line ends behind a block scalar. -/
inductive Chomping where
  | strip
  | clip
  | keep
  deriving DecidableEq

def chomping? : Option Char → Option Chomping
  | some '+' => some .keep
  | some '-' => some .strip
  | _ => none

def increment? : Option Char → Except ReadError (Option Nat)
  | some c =>
    if c = '0' then .error .malformed
    else .ok (if '1' ≤ c && c ≤ '9' then some (c.toNat - 48) else none)
  | none => .ok none

/-- The indicators of a block scalar, in one order or the other, and the place behind them. -/
def blockIndicators (c : Cursor) : Except ReadError (Chomping × Option Nat × Cursor) := do
  match chomping? c.head? with
  | some chomping =>
    match ← increment? c.step.head? with
    | some increment => return (chomping, some increment, c.skip 2)
    | none => return (chomping, none, c.step)
  | none =>
    match ← increment? c.head? with
    | none => return (.clip, none, c)
    | some increment =>
      match chomping? c.step.head? with
      | some chomping => return (chomping, some increment, c.skip 2)
      | none => return (.clip, some increment, c.step)

def skipHeaderLine (c : Cursor) : Except ReadError Cursor :=
  let c' := c.skipSpaces
  let c'' := if c'.head? = some '#' then c'.toLineEnd.2 else c'
  match c''.head?, c''.breakLine? with
  | none, _ => .ok c''
  | some _, some (_, next) => .ok next
  | some _, none => .error .malformed

/-- Where the indentation is looked for: the line ends so far, latest first, the column of the first
of them, and the most spaces on a line. -/
structure BlockStart where
  breaks : List Char := []
  first : Option Nat := none
  most : Nat := 0

def findIndent (start : BlockStart) : (fuel : Nat) → Cursor → BlockStart × Cursor
  | 0, c => (start, c)
  | fuel + 1, c =>
    if c.head? = some ' ' then
      findIndent { start with most := max start.most c.step.column } fuel c.step
    else match c.breakLine? with
      | none => (start, c)
      | some (lineEnd, c') =>
        findIndent
          { start with breaks := lineEnd :: start.breaks, first := start.first.or (some c.column) }
          fuel c'

def toIndent (indent : Nat) : (fuel : Nat) → Cursor → Cursor
  | 0, c => c
  | fuel + 1, c =>
    if c.column < indent && c.head? = some ' ' then toIndent indent fuel c.step else c

/-- Skips lines without content, up to the content of the first other line. -/
def blockBreaks (indent : Nat) (breaks : List Char) : (fuel : Nat) → Cursor → List Char × Cursor
  | 0, c => (breaks.reverse, c)
  | fuel + 1, c =>
    let c' := toIndent indent indent c
    match c'.breakLine? with
    | none => (breaks.reverse, c')
    | some (lineEnd, next) => blockBreaks indent (lineEnd :: breaks) fuel next

/-- What has been read of a block scalar: its characters, latest first, the end of its last line,
the line ends behind that, and the place behind those. -/
structure BlockText where
  out : List Char := []
  lineEnd : List Char := []
  breaks : List Char
  next : Cursor

/-- Whether a line can be joined to its neighbour: it does not begin with a blank. -/
def isFlush (c : Cursor) : Bool := !c.head?.any isWhite

/-- Goes on with the lines of a block scalar. Only a scalar without indentation has to look out for
document markers. -/
def blockFrom (folded : Bool) (indent : Nat) (marked : Bool) (s : BlockText) :
    (fuel : Nat) → BlockText
  | 0 => s
  | fuel + 1 =>
    if s.next.column = indent && !s.next.rest.isEmpty then
      let (content, c) := s.next.toLineEnd
      let out := content.reverse ++ (s.breaks.reverse ++ s.out)
      let (lineEnd, c') := match c.breakLine? with
        | none => ([], c)
        | some (lineEnd, c') => ([lineEnd], c')
      let (breaks, next) := blockBreaks indent [] (c'.left + 1) c'
      let ended : BlockText := { out, lineEnd, breaks, next }
      if marked && next.atMarker || next.column ≠ indent || next.rest.isEmpty then ended
      else
        -- Two flush lines are joined by a space, or by the empty lines between them.
        let joint :=
          if folded && lineEnd = ['\n'] && isFlush s.next && isFlush next then
            if breaks.isEmpty then [' '] else []
          else lineEnd
        blockFrom folded indent marked { ended with out := joint ++ out } fuel
    else s

def BlockText.finish (s : BlockText) (chomping : Chomping) : List Char :=
  s.out.reverse ++ (if chomping = .strip then [] else s.lineEnd)
    ++ (if chomping = .keep then s.breaks else [])

/-- Reads a block scalar inside a block of the given column, which is negative outside of all
blocks. The place is that of its sign. -/
def blockScalar (folded : Bool) (parent : Int) (c : Cursor) :
    Except ReadError (List Char × Cursor) := do
  let (chomping, increment, behind) ← blockIndicators c.step
  if !endsWord behind.head? then .error .malformed
  let body ← skipHeaderLine behind
  let least := (parent + 1).toNat
  let (indent, breaks, next) ← match increment with
    | some increment =>
      let indent := max least 1 + increment - 1
      let (breaks, next) := blockBreaks indent [] (body.left + 1) body
      pure (indent, breaks, next)
    | none =>
      let (start, next) := findIndent {} (body.left + 1) body
      -- The first line may be empty, but if it has spaces no other line may have more.
      if start.first.any fun first => 0 < first && first < start.most then .error .malformed
      pure (max least start.most, start.breaks.reverse, next)
  let marked := least = 0 && increment.isNone
  let s := blockFrom folded indent marked { breaks, next } (body.left + 1)
  return (s.finish chomping, s.next)

end Formula.Yaml
