import Formula.Yaml.Cursor
import Formula.Yaml.ReadError

/-!
The texts of quoted scalars, as code points: an escape may ask for half of a surrogate pair. Line
ends are folded; between double quotes an escaped line end leaves nothing behind.
-/

set_option autoImplicit false

namespace Formula.Yaml

def hexValue? (c : Char) : Option Nat :=
  if '0' ≤ c && c ≤ '9' then some (c.toNat - 48)
  else if 'a' ≤ c && c ≤ 'f' then some (c.toNat - 87)
  else if 'A' ≤ c && c ≤ 'F' then some (c.toNat - 55)
  else none

def simpleEscape? (c : Char) : Option Char :=
  ([('0', '\x00'), ('a', '\x07'), ('b', '\x08'), ('t', '\t'), ('\t', '\t'), ('n', '\n'),
    ('v', '\x0b'), ('f', '\x0c'), ('r', '\r'), ('e', '\x1b'), (' ', ' '), ('"', '"'), ('/', '/'),
    ('\\', '\\'), ('N', '\u0085'), ('_', '\u00a0'), ('L', '\u2028'), ('P', '\u2029')].find?
      fun entry => entry.1 == c).map (·.2)

def hexLength? (c : Char) : Option Nat :=
  if c = 'x' then some 2 else if c = 'u' then some 4 else if c = 'U' then some 8 else none

def hexNumber? (digits : List Char) : Option Nat :=
  digits.foldlM (fun value c => (hexValue? c).map (16 * value + ·)) 0

/-- The line ends and blanks behind a line end; there may be no document marker between them. -/
def quotedBreaks (breaks : List Char) :
    (fuel : Nat) → Cursor → Except ReadError (List Char × Cursor)
  | 0, _ => .error .malformed
  | fuel + 1, c =>
    if isMarker c.rest then .error .malformed
    else
      let c' := c.dropWhile isWhite
      match c'.breakLine? with
      | none => .ok (breaks.reverse, c')
      | some (lineEnd, c'') => quotedBreaks (lineEnd :: breaks) fuel c''

def quotedGap (c : Cursor) : Except ReadError (List Char × Cursor) :=
  let (blanks, c') := c.takeWhile isWhite
  match c'.breakLine? with
  | none => .ok (blanks, c')
  | some (lineEnd, c'') =>
    (quotedBreaks [] (c''.left + 1) c'').map fun (more, next) =>
      (foldBreaks lineEnd more, next)

/-- The code points that an escape stands for; the place is behind the backslash. -/
def quotedEscape (c : Cursor) : Except ReadError (List Nat × Cursor) :=
  match c.head? with
  | none => .error .malformed
  | some char =>
    match simpleEscape? char, hexLength? char with
    | some plain, _ => .ok ([plain.toNat], c.step)
    | none, some length =>
      let digits := c.step.rest.take length
      if digits.length < length then .error .malformed
      else match hexNumber? digits with
        | none => .error .malformed
        | some code =>
          if code < 0x110000 then .ok ([code], c.step.skip length) else .error .beyondUnicode
    | none, none =>
      match c.breakLine? with
      | none => .error .malformed
      | some (_, c') =>
        (quotedBreaks [] (c'.left + 1) c').map fun (more, next) =>
          (more.map Char.toNat, next)

/-- Goes on with a quoted scalar; the code points so far come latest first. -/
def quotedFrom (double : Bool) (out : List Nat) :
    (fuel : Nat) → Cursor → Except ReadError (List Nat × Cursor)
  | 0, _ => .error .malformed
  | fuel + 1, c =>
    match c.head? with
    | none => .error .malformed
    | some char =>
      if !double && char = '\'' && c.second? = some '\'' then
        quotedFrom double (char.toNat :: out) fuel (c.skip 2)
      else if char = (if double then '"' else '\'') then .ok (out.reverse, c.step)
      else if double && char = '\\' then do
        let (codes, next) ← quotedEscape c.step
        quotedFrom double (codes.reverse ++ out) fuel next
      else if isWhite char || isBreak char then do
        let (gap, next) ← quotedGap c
        quotedFrom double ((gap.map Char.toNat).reverse ++ out) fuel next
      else quotedFrom double (char.toNat :: out) fuel c.step

def quotedScalar (double : Bool) (c : Cursor) : Except ReadError (List Nat × Cursor) :=
  quotedFrom double [] (c.left + 1) c.step

end Formula.Yaml
