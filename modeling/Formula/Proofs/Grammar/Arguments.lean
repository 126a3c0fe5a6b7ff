import Formula.Proofs.Grammar.Balance
import Formula.Proofs.Grammar.Nesting

/-!
The arguments of calls. Arguments that a call lacks can be made up for elsewhere in the formula: by
operands side by side, by arguments too many, or by an operand behind a function without arguments.
As much is lacking as there is too much, so that each call has its own arguments where nothing is
lacking, and where there is nothing too much.
-/

set_option autoImplicit false

namespace Formula

namespace Place

/-- The separators of the bracket that is opened behind the place. -/
def ownSeparators (p : Place) : Nat :=
  match p.after with
  | .opening :: after => Formula.ownSeparators 0 after
  | _ => 0

end Place

/-! ### Separators of all brackets -/

section
variable {tokens : List Token} {depth : Nat}

end

/-! ### Functions without arguments -/

namespace Place

end Place

section
variable {tokens : List Token}

end

def Function.magnitude : Function := Function.exact "abs" (fun x => .ok x.abs) (Eq.refl true)

end Formula
