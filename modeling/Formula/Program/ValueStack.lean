import Formula.Decimal.Basic

/-!
A stack of numbers in an array of slots, the free ones empty. A full stack grows by a fifth of its
capacity and one slot more; it never shrinks.
-/

set_option autoImplicit false

namespace Formula

structure ValueStack where
  slots : Array (Option Decimal)
  size : Nat
  deriving Repr

namespace ValueStack

def ofCapacity (capacity : Nat) : ValueStack :=
  { slots := Array.replicate capacity none, size := 0 }

def create? (capacity : Int) : Option ValueStack :=
  if capacity ≤ 0 then none else some (ofCapacity capacity.toNat)

def defaultCapacity : Nat := 5

def empty : ValueStack := ofCapacity defaultCapacity

def capacity (s : ValueStack) : Nat := s.slots.size

def grownCapacity (capacity : Nat) : Nat := 6 * capacity / 5 + 1

def grow (slots : Array (Option Decimal)) : Array (Option Decimal) :=
  slots ++ Array.replicate (grownCapacity slots.size - slots.size) none

def push (s : ValueStack) (value : Decimal) : ValueStack :=
  let slots := if s.size = s.slots.size then grow s.slots else s.slots
  { slots := slots.setIfInBounds s.size (some value), size := s.size + 1 }

def pop? (s : ValueStack) : Option (Decimal × ValueStack) :=
  match s.size with
  | 0 => none
  | below + 1 =>
    (s.slots[below]?.join).map fun value =>
      (value, { slots := s.slots.setIfInBounds below none, size := below })

/-- Pops a number of values and puts them, the topmost last, in front of the given ones. -/
def popOnto (values : List Decimal) (s : ValueStack) : Nat → Option (List Decimal × ValueStack)
  | 0 => some (values, s)
  | count + 1 => s.pop?.bind fun (value, s') => popOnto (value :: values) s' count

end ValueStack

end Formula
