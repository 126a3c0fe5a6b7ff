import Formula.Proofs.Conversion.Brackets

/-!
Arguments between brackets. Tokens lead out of the brackets that they close, and behind each bracket
that is opened there come its arguments, up to where it is closed, with its own separators between
them.
-/

set_option autoImplicit false

namespace Formula

/-- The tokens lead out of so many brackets, and each separator among them is inside of some. -/
inductive LeadsOut : Nat → List Token → Prop where
  | nil : LeadsOut 0 []
  | item {depth : Nat} {tokens : List Token} (i : Item) (out : LeadsOut depth tokens) :
      LeadsOut depth (.item i :: tokens)
  | opening {depth : Nat} {tokens : List Token} (out : LeadsOut (depth + 1) tokens) :
      LeadsOut depth (.opening :: tokens)
  | closing {depth : Nat} {tokens : List Token} (out : LeadsOut depth tokens) :
      LeadsOut (depth + 1) (.closing :: tokens)
  | separator {depth : Nat} {tokens : List Token} (out : LeadsOut (depth + 1) tokens) :
      LeadsOut (depth + 1) (.separator :: tokens)

/-- The separators that belong to the bracket that is so many brackets out, up to where it is
closed. -/
def ownSeparators : Nat → List Token → Nat
  | _, [] => 0
  | depth, .item _ :: tokens => ownSeparators depth tokens
  | depth, .opening :: tokens => ownSeparators (depth + 1) tokens
  | 0, .closing :: _ => 0
  | depth + 1, .closing :: tokens => ownSeparators depth tokens
  | 0, .separator :: tokens => ownSeparators 0 tokens + 1
  | depth + 1, .separator :: tokens => ownSeparators (depth + 1) tokens

section
variable {tokens : List Token} {depth : Nat}

theorem LeadsOut.behind {front : List Token} (out : LeadsOut depth (front ++ tokens)) :
    ∃ depth', LeadsOut depth' tokens := by
  induction front generalizing depth with
  | nil => exact ⟨depth, out⟩
  | cons token front ih => cases out <;> exact ih ‹_›

/-! ### Arguments and their separators -/

end

end Formula
