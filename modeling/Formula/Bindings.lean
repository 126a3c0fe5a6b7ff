import Formula.Decimal.Basic

/-!
Values bound to variable names. Each name has at most one value, and binding it again replaces that.
-/

set_option autoImplicit false

namespace Formula

structure Bindings where
  entries : List (String × Decimal) := []
  deriving Repr

namespace Bindings

def get? (bindings : Bindings) (name : String) : Option Decimal :=
  (bindings.entries.find? fun entry => entry.1 == name).map (·.2)

def contains (bindings : Bindings) (name : String) : Bool := (bindings.get? name).isSome

def set (bindings : Bindings) (name : String) (value : Decimal) : Bindings :=
  { entries := (name, value) :: bindings.entries.filter fun entry => entry.1 != name }

def ofList (entries : List (String × Decimal)) : Bindings :=
  entries.foldl (fun bindings (name, value) => bindings.set name value) {}

def names (bindings : Bindings) : List String := bindings.entries.map (·.1)

def sorted (bindings : Bindings) : List (String × Decimal) :=
  bindings.entries.mergeSort fun left right => left.1 ≤ right.1

theorem mem_entries_set {bindings : Bindings} {name : String} {value : Decimal}
    {entry : String × Decimal} (member : entry ∈ (bindings.set name value).entries) :
    entry = (name, value) ∨ entry ∈ bindings.entries :=
  (List.mem_cons.1 member).imp_right fun old => (List.mem_filter.1 old).1

theorem get?_set (bindings : Bindings) (name name' : String) (value : Decimal) :
    (bindings.set name value).get? name' =
      if name' = name then some value else bindings.get? name' := by
  by_cases same : name' = name
  · simp [get?, set, same]
  · have unseen : ∀ entry : String × Decimal,
        decide ((entry.1 != name) = true ∧ (entry.1 == name') = true) = (entry.1 == name') := by
      intro entry
      by_cases found : entry.1 = name'
      · simp [found, same]
      · simp [found]
    have other : (name == name') = false := by simp [Ne.symm same]
    simp only [get?, set, List.find?_cons, other, List.find?_filter, unseen, same, if_false]

end Bindings

end Formula
