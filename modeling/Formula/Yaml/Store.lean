import Formula.Yaml.ReadError

/-!
Data that share parts or hold themselves, in a table. A collection holds the places of its parts,
and it may be put into the table before it has any. Such a table is what a reader makes of a text.
-/

set_option autoImplicit false

namespace Formula.Yaml

abbrev Place := Nat

inductive Cell where
  | scalar (value : Datum)
  | list (elements : List Place)
  | tuple (elements : List Place)
  | set (elements : List Place)
  | mapping (entries : List (Place × Place))
  | ordered (entries : List (Place × Place))

abbrev Store := Array Cell

def fraction? : Datum → Option (Int × Nat)
  | .truth value => some (if value then 1 else 0, 1)
  | .integer value => some (value, 1)
  | .double value => (Double.parts? value).map fun (negative, mantissa, power) =>
    let magnitude : Int := mantissa * twoPower power.toNat
    (if negative then -magnitude else magnitude, twoPower (-power).toNat)
  | _ => none

/-- Whether two scalars are the same key; numbers and truth values are compared by value. -/
def sameScalar : Datum → Datum → Bool
  | .absent, .absent => true
  | .text text, .text text' => text == text'
  | .broken codes, .broken codes' => codes == codes'
  | .day d, .day d' => d == d'
  | .moment m, .moment m' => m.same m'
  | .bytes bytes, .bytes bytes' => bytes == bytes'
  | d, d' =>
    match fraction? d, fraction? d' with
    | some (n, q), some (n', q') => n * q' == n' * q
    | none, none =>
      match d, d' with
      | .double x, .double x' => x.toBits == x'.toBits
      | _, _ => false
    | _, _ => false

namespace Store

def cell (s : Store) (place : Place) : Cell := s.getD place (.scalar .absent)

/-- Whether two places hold the same key; `depth` bounds how deep tuples are compared. -/
def sameKey (s : Store) : (depth : Nat) → Place → Place → Bool
  | 0, place, place' => place == place'
  | depth + 1, place, place' =>
    place == place' ||
      match s.cell place, s.cell place' with
      | .scalar d, .scalar d' => sameScalar d d'
      | .tuple elements, .tuple elements' =>
        elements.length == elements'.length
          && (elements.zip elements').all fun (e, e') => sameKey s depth e e'
      | _, _ => false

def unfit? (s : Store) : (depth : Nat) → Place → Option String
  | 0, _ => none
  | depth + 1, place =>
    match s.cell place with
    | .scalar _ => none
    | .tuple elements => elements.findSome? (unfit? s depth)
    | .list _ => some "list"
    | .set _ => some "set"
    | .mapping _ => some "dict"
    | .ordered _ => some "ordereddict"

/-- The datum at a place. Inside the collections at the places of `around`, these are not shown
again; so the depth of a datum is less than twice the size of the table. -/
def datumIn (s : Store) (around : List Place) : (depth : Nat) → Place → Datum
  | 0, _ => .absent
  | depth + 1, place =>
    let part := datumIn s (place :: around) depth
    match s.cell place with
    | .scalar d => d
    | .tuple elements => .tuple (elements.map part)
    | .set elements => .set (elements.map part)
    | .list elements =>
      if around.contains place then .again .list else .list (elements.map part)
    | .mapping entries =>
      if around.contains place then .again .mapping
      else .mapping (entries.map fun (key, value) => (part key, part value))
    | .ordered entries =>
      if around.contains place then .again .ordered
      else .ordered (entries.map fun (key, value) => (part key, part value))

def datum (s : Store) (place : Place) : Datum := s.datumIn [] (2 * s.size + 2) place

def fits (s : Store) (key place : Place) : Bool := s.sameKey (s.size + 1) key place

def find? (s : Store) (entries : List (Place × Place)) (key : Place) : Option Place :=
  (entries.find? fun entry => s.fits key entry.1).map (·.2)

/-- Puts a value behind a key, in the place of the value that was there. -/
def put (s : Store) (entries : List (Place × Place)) (key value : Place) : List (Place × Place) :=
  if (s.find? entries key).isSome then
    entries.map fun entry => if s.fits key entry.1 then (entry.1, value) else entry
  else entries ++ [(key, value)]

def entries? (s : Store) (place : Place) : Option (List (Place × Place)) :=
  match s.cell place with
  | .mapping entries => some entries
  | .ordered entries => some entries
  | _ => none

end Store

structure Document where
  store : Store
  root : Place

/-- A reader finds the data that a text holds. It fails with `malformed` where the text is at fault,
and otherwise for a reason of its own. -/
abbrev TextReader := List Char → Except ReadError Document

end Formula.Yaml
