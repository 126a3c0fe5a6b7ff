import Formula.Yaml.Cursor

/-!
The texts of plain scalars. Blanks and line ends inside one are folded; it ends at a tab, at a colon
that is set off, at a comment, at an indicator of a flow collection, at a line that is indented too
little and at a document marker.
-/

set_option autoImplicit false

namespace Formula.Yaml

def flowStops : List Char := [',', ':', '?', '[', ']', '\x7b', '\x7d']

def plainRun (version : Version) (flow : Bool) : List Char → Nat
  | [] => 0
  | c :: rest =>
    -- A colon that is not cut off goes on with the scalar even inside flow collections, and so does
    -- a question mark in the later version.
    if c = ':' && !isCut rest.head? || c = '?' && version == .oneTwo then
      plainRun version flow rest + 1
    else if isCut (some c) || c = ':' || flow && flowStops.contains c then 0
    else plainRun version flow rest + 1

/-- What lies between two parts of a plain scalar: the text it stands for, whether it reaches to
another line, whether the scalar can not go on behind it, and the place behind it. -/
structure PlainGap where
  filling : List Char
  crossed : Bool
  closed : Bool
  next : Cursor

/-- The line ends and spaces behind a line end, up to a document marker, which is looked for. -/
def plainBreaks (breaks : List Char) : (fuel : Nat) → Cursor → List Char × Bool × Cursor
  | 0, c => (breaks.reverse, false, c)
  | fuel + 1, c =>
    if c.head? = some ' ' then plainBreaks breaks fuel c.step
    else match c.breakLine? with
      | none => (breaks.reverse, false, c)
      | some (lineEnd, c') =>
        if isMarker c'.rest then ((lineEnd :: breaks).reverse, true, c')
        else plainBreaks (lineEnd :: breaks) fuel c'

def plainGap (c : Cursor) : PlainGap :=
  let (blanks, c') := c.takeWhile (· = ' ')
  match c'.breakLine? with
  | none => { filling := blanks, crossed := false, closed := blanks.isEmpty, next := c' }
  | some (lineEnd, c'') =>
    if isMarker c''.rest then { filling := [], crossed := true, closed := true, next := c'' }
    else
      let (more, marked, next) := plainBreaks [] (c''.left + 1) c''
      { filling := foldBreaks lineEnd more, crossed := true, closed := marked, next }

structure PlainScalar where
  text : List Char
  crossed : Bool
  next : Cursor

/-- Goes on with a plain scalar behind a gap; the characters so far come latest first. -/
def plainFrom (version : Version) (flow : Bool) (indent : Int) (out : List Char) (gap : PlainGap) :
    (fuel : Nat) → PlainScalar
  | 0 => { text := out.reverse, crossed := gap.crossed, next := gap.next }
  | fuel + 1 =>
    let c := gap.next
    let run := plainRun version flow c.rest
    if run = 0 || c.head? = some '#' then
      { text := out.reverse, crossed := gap.crossed, next := c }
    else
      let out' := (c.rest.take run).reverse ++ (gap.filling.reverse ++ out)
      let gap' := plainGap (c.skip run)
      if gap'.closed || !flow && gap'.next.column < indent then
        { text := out'.reverse, crossed := gap'.crossed, next := gap'.next }
      else plainFrom version flow indent out' gap' fuel

def plainScalar (version : Version) (flow : Bool) (indent : Int) (c : Cursor) : PlainScalar :=
  plainFrom version flow indent [] { filling := [], crossed := false, closed := false, next := c }
    (c.left + 1)

end Formula.Yaml
