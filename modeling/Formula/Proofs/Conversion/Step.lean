import Formula.Conversion

/-!
What a token does to what waits and what has been put out, said once. Everything that waits is put
out in the same way, whether an operator, a separator, a closing bracket or the end asks for it.
-/

set_option autoImplicit false

namespace Formula

def Item.isOperand : Item → Bool
  | .number _ | .var _ => true
  | .operator _ | .function _ => false

def Waiting.isBracket : Waiting → Bool
  | .bracket => true
  | .operator _ | .function _ => false

def bracketCount (waiting : List Waiting) : Nat := waiting.countP Waiting.isBracket

theorem bracketCount_bracket (waiting : List Waiting) :
    bracketCount (.bracket :: waiting) = bracketCount waiting + 1 := List.countP_cons_of_pos rfl

theorem bracketCount_of_item? {first : Waiting} {i : Item} (found : first.item? = some i)
    (waiting : List Waiting) : bracketCount (first :: waiting) = bracketCount waiting := by
  cases first with
  | operator op => rfl
  | function f => rfl
  | bracket => cases found

theorem isOperand_of_item? {first : Waiting} {i : Item} (found : first.item? = some i) :
    i.isOperand = false := by
  cases first <;> cases found <;> rfl

def Token.needsBracket : Token → Bool
  | .closing | .separator => true
  | .item _ | .opening => false

def Token.refusal (text : String) : Token → ConversionError
  | .separator => .misplacedSeparator text
  | .closing | .opening | .item _ => .unopened text

namespace Yard

/-- The second yard is the first with some of the latest waiting operators and functions put out. -/
inductive PutsOut : Yard → Yard → Prop where
  | nothing (yard : Yard) : PutsOut yard yard
  | latest {first : Waiting} {i : Item} {waiting : List Waiting} {output : List Item} {yard' : Yard}
      (found : first.item? = some i) (more : PutsOut ⟨waiting, i :: output⟩ yard') :
      PutsOut ⟨first :: waiting, output⟩ yard'

/-- The yard behind a token that is taken in, one constructor for each way to take one in. -/
inductive Pushed (yard : Yard) : Token → Yard → Prop where
  | operand {i : Item} (value : i.isOperand = true) :
      Pushed yard (.item i) ⟨yard.waiting, i :: yard.output⟩
  | waits {first : Waiting} {i : Item} {yard' : Yard} (found : first.item? = some i)
      (released : PutsOut yard yard') :
      Pushed yard (.item i) ⟨first :: yard'.waiting, yard'.output⟩
  | opening : Pushed yard .opening ⟨.bracket :: yard.waiting, yard.output⟩
  | separator {waiting : List Waiting} {output : List Item}
      (above : PutsOut yard ⟨.bracket :: waiting, output⟩) :
      Pushed yard .separator ⟨.bracket :: waiting, output⟩
  | closing {waiting : List Waiting} {output : List Item} {yard' : Yard}
      (above : PutsOut yard ⟨.bracket :: waiting, output⟩)
      (call : PutsOut ⟨waiting, output⟩ yard') : Pushed yard .closing yard'

section
variable {text : String} {yard yard' : Yard} {token : Token}

theorem putsOut_release (coming : Operator) (waiting : List Waiting) (output : List Item) :
    PutsOut ⟨waiting, output⟩ (release coming waiting output) := by
  induction waiting generalizing output with
  | nil => exact .nothing _
  | cons first waiting ih =>
    cases first with
    | operator op =>
      rw [release]
      split
      · exact .latest rfl (ih (.operator op :: output))
      · exact .nothing _
    | function f => exact .nothing _
    | bracket => exact .nothing _

theorem toBracket?_cases (waiting : List Waiting) (output : List Item) :
    (bracketCount waiting = 0 ∧ toBracket? waiting output = none) ∨
      ∃ waiting' output', toBracket? waiting output = some ⟨.bracket :: waiting', output'⟩ ∧
        PutsOut ⟨waiting, output⟩ ⟨.bracket :: waiting', output'⟩ := by
  induction waiting generalizing output with
  | nil => exact .inl ⟨rfl, rfl⟩
  | cons first waiting ih =>
    cases first with
    | operator op =>
      exact (ih (.operator op :: output)).imp id fun ⟨waiting', output', found, put⟩ =>
        ⟨waiting', output', found, .latest rfl put⟩
    | function f =>
      exact (ih (.function f :: output)).imp id fun ⟨waiting', output', found, put⟩ =>
        ⟨waiting', output', found, .latest rfl put⟩
    | bracket => exact .inr ⟨waiting, output, rfl, .nothing _⟩

theorem putsOut_closeBracket (waiting : List Waiting) (output : List Item) :
    PutsOut ⟨waiting, output⟩ (closeBracket ⟨.bracket :: waiting, output⟩) := by
  cases waiting with
  | nil => exact .nothing _
  | cons first waiting =>
    cases first with
    | operator op => exact .nothing _
    | function f => exact .latest rfl (.nothing _)
    | bracket => exact .nothing _

theorem drain?_cases (waiting : List Waiting) (output : List Item) :
    (0 < bracketCount waiting ∧ drain? waiting output = none) ∨
      ∃ items, drain? waiting output = some items ∧
        PutsOut ⟨waiting, output⟩ ⟨[], items.reverse⟩ := by
  induction waiting generalizing output with
  | nil => exact .inr ⟨output.reverse, rfl, by rw [List.reverse_reverse]; exact .nothing _⟩
  | cons first waiting ih =>
    cases first with
    | operator op =>
      exact (ih (.operator op :: output)).imp id fun ⟨items, found, put⟩ =>
        ⟨items, found, .latest rfl put⟩
    | function f =>
      exact (ih (.function f :: output)).imp id fun ⟨items, found, put⟩ =>
        ⟨items, found, .latest rfl put⟩
    | bracket => exact .inl ⟨by rw [bracketCount_bracket]; exact Nat.succ_pos _, rfl⟩

theorem push_cases (text : String) (yard : Yard) (token : Token) :
    (∃ yard', push text yard token = .ok yard' ∧ Pushed yard token yard') ∨
      (push text yard token = .error (token.refusal text) ∧ token.needsBracket = true ∧
        bracketCount yard.waiting = 0) := by
  cases token with
  | item i =>
    left
    cases i with
    | number value => exact ⟨_, rfl, .operand rfl⟩
    | var name => exact ⟨_, rfl, .operand rfl⟩
    | function f => exact ⟨_, rfl, .waits rfl (.nothing yard)⟩
    | operator op => exact ⟨_, rfl, .waits rfl (putsOut_release op yard.waiting yard.output)⟩
  | opening => exact .inl ⟨_, rfl, .opening⟩
  | separator =>
    obtain ⟨noneWaits, nothing⟩ | ⟨waiting', output', found, above⟩ :=
      toBracket?_cases yard.waiting yard.output
    · exact .inr ⟨by simp only [push, nothing]; rfl, rfl, noneWaits⟩
    · exact .inl ⟨_, by simp only [push, found], .separator above⟩
  | closing =>
    obtain ⟨noneWaits, nothing⟩ | ⟨waiting', output', found, above⟩ :=
      toBracket?_cases yard.waiting yard.output
    · exact .inr ⟨by simp only [push, nothing]; rfl, rfl, noneWaits⟩
    · exact .inl ⟨_, by simp only [push, found],
        .closing above (putsOut_closeBracket waiting' output')⟩

theorem pushed_of_push (done : push text yard token = .ok yard') : Pushed yard token yard' := by
  obtain ⟨_, taken, pushed⟩ | ⟨failed, _, _⟩ := push_cases text yard token
  · rw [taken] at done
    cases done
    exact pushed
  · rw [failed] at done
    cases done

theorem putsOut_of_drain? {items : List Item}
    (done : drain? yard.waiting yard.output = some items) : PutsOut yard ⟨[], items.reverse⟩ := by
  obtain ⟨_, nothing⟩ | ⟨_, drained, put⟩ := drain?_cases yard.waiting yard.output
  · rw [nothing] at done
    cases done
  · rw [drained] at done
    cases done
    exact put

theorem exists_pushed_of_foldlM {tokens : List Token}
    (done : (token :: tokens).foldlM (push text) yard = .ok yard') :
    ∃ next, Pushed yard token next ∧ tokens.foldlM (push text) next = .ok yard' := by
  rw [List.foldlM_cons] at done
  cases taken : push text yard token with
  | error error => rw [taken] at done; cases done
  | ok next =>
    rw [taken] at done
    exact ⟨next, pushed_of_push taken, done⟩

end

end Yard

end Formula
