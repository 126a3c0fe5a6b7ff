import Mathlib.Data.List.Induction
import Formula.Proofs.Conversion.Order

/-!
Which formulas are converted. The brackets that wait are those opened and not yet closed, so that a
closing bracket or a separator finds one exactly if it stands inside of brackets, and what waits can
be put out in the end exactly if every bracket has been closed.
-/

set_option autoImplicit false

namespace Formula

open Formula.Text

def Token.isOpening : Token → Bool
  | .opening => true
  | .item _ | .closing | .separator => false

def Token.isClosing : Token → Bool
  | .closing => true
  | .item _ | .opening | .separator => false

def openings (tokens : List Token) : Nat := tokens.countP Token.isOpening

def closings (tokens : List Token) : Nat := tokens.countP Token.isClosing

/-- No more brackets are closed than have been opened before, all are closed in the end, and each
separator stands where a bracket is open. -/
structure WellBracketed (tokens : List Token) : Prop where
  closings_le : ∀ front, front <+: tokens → closings front ≤ openings front
  openings_eq : openings tokens = closings tokens
  separatorsInside : ∀ front rest, tokens = front ++ .separator :: rest →
    closings front < openings front

/-- Wherever a token needs a bracket there is an open one, the given number being open before. -/
def Inside (depth : Nat) (tokens : List Token) : Prop :=
  ∀ front token rest, tokens = front ++ token :: rest → token.needsBracket = true →
    closings front < openings front + depth

section
variable {tokens : List Token} {token : Token} {depth : Nat}

theorem openings_append (front rest : List Token) :
    openings (front ++ rest) = openings front + openings rest := List.countP_append

theorem closings_append (front rest : List Token) :
    closings (front ++ rest) = closings front + closings rest := List.countP_append

theorem openings_cons (token : Token) (tokens : List Token) :
    openings (token :: tokens) = openings [token] + openings tokens :=
  openings_append [token] tokens

theorem closings_cons (token : Token) (tokens : List Token) :
    closings (token :: tokens) = closings [token] + closings tokens :=
  closings_append [token] tokens

theorem inside_nil : Inside depth [] := by
  intro front token rest split
  simp at split

theorem inside_cons {depth' : Nat}
    (behind : depth' + closings [token] = depth + openings [token]) :
    Inside depth (token :: tokens) ↔
      (token.needsBracket = true → 0 < depth) ∧ Inside depth' tokens := by
  constructor
  · intro inside
    refine ⟨fun needs => ?_, fun front token' rest split needs => ?_⟩
    · have first := inside [] token tokens rfl needs
      simpa [openings, closings] using first
    · have later := inside (token :: front) token' rest (by rw [split]; rfl) needs
      rw [openings_cons, closings_cons] at later
      omega
  · rintro ⟨first, later⟩ front token' rest split needs
    cases front with
    | nil =>
      cases split
      simpa [openings, closings] using first needs
    | cons token front =>
      cases split
      have inside := later front token' rest rfl needs
      rw [openings_cons, closings_cons]
      omega

theorem closings_le_of_inside (inside : Inside 0 tokens) {front : List Token}
    (isPrefix : front <+: tokens) : closings front ≤ openings front := by
  obtain ⟨rest, rfl⟩ := isPrefix
  induction front using List.reverseRecOn generalizing rest with
  | nil => exact Nat.le_refl 0
  | append_singleton front token ih =>
    rw [List.append_assoc] at inside
    have before := ih ([token] ++ rest) inside
    rw [openings_append, closings_append]
    cases token with
    | closing =>
      exact inside front .closing rest rfl rfl
    | opening => exact Nat.le_trans before (Nat.le_add_right _ _)
    | item i => exact before
    | separator => exact before

theorem wellBracketed_iff_inside :
    WellBracketed tokens ↔ Inside 0 tokens ∧ openings tokens = closings tokens := by
  constructor
  · intro well
    refine ⟨fun front token rest split needs => ?_, well.openings_eq⟩
    cases token with
    | item i => cases needs
    | opening => cases needs
    | separator => exact well.separatorsInside front rest split
    | closing =>
      have upTo := well.closings_le (front ++ [.closing]) ⟨rest, by rw [split]; simp⟩
      rw [openings_append, closings_append] at upTo
      exact upTo
  · rintro ⟨inside, equal⟩
    exact ⟨fun _ => closings_le_of_inside inside, equal,
      fun front rest split => inside front .separator rest split rfl⟩

end

/-! ### Brackets that wait -/

namespace Yard

theorem bracketCount_of_putsOut {yard yard' : Yard} (put : PutsOut yard yard') :
    bracketCount yard'.waiting = bracketCount yard.waiting := by
  induction put with
  | nothing yard => rfl
  | latest found _ ih => rw [ih, bracketCount_of_item? found]

/-- A token that is taken in finds the bracket it needs, and the brackets that wait behind it are one
more or less if it is a bracket. -/
theorem bracketCount_of_pushed {yard yard' : Yard} {token : Token}
    (pushed : Pushed yard token yard') :
    (token.needsBracket = true → 0 < bracketCount yard.waiting) ∧
      bracketCount yard'.waiting + closings [token] =
        bracketCount yard.waiting + openings [token] := by
  cases pushed with
  | operand _ => exact ⟨nofun, rfl⟩
  | waits found released =>
    rw [bracketCount_of_item? found, bracketCount_of_putsOut released]
    exact ⟨nofun, rfl⟩
  | opening => exact ⟨nofun, bracketCount_bracket yard.waiting⟩
  | separator above =>
    rw [← bracketCount_of_putsOut above, bracketCount_bracket]
    exact ⟨fun _ => Nat.succ_pos _, rfl⟩
  | closing above call =>
    rw [← bracketCount_of_putsOut above, bracketCount_bracket, bracketCount_of_putsOut call]
    exact ⟨fun _ => Nat.succ_pos _, rfl⟩

/-- Tokens are taken in as long as each that needs a bracket stands inside of one, and the first that
does not is refused. -/
theorem foldlM_cases (text : String) (yard : Yard) (tokens : List Token) :
    (∃ yard', tokens.foldlM (push text) yard = .ok yard' ∧
      Inside (bracketCount yard.waiting) tokens ∧
      bracketCount yard'.waiting + closings tokens =
        bracketCount yard.waiting + openings tokens) ∨
    ∃ front token rest, tokens = front ++ token :: rest ∧
      tokens.foldlM (push text) yard = .error (token.refusal text) ∧ token.needsBracket = true ∧
      Inside (bracketCount yard.waiting) front ∧
      closings front = openings front + bracketCount yard.waiting := by
  -- The brackets that wait are those that have been opened and not been closed, whatever else
  -- waits.
  induction tokens generalizing yard with
  | nil => exact .inl ⟨yard, rfl, inside_nil, rfl⟩
  | cons token tokens ih =>
    rw [List.foldlM_cons]
    obtain ⟨next, taken, pushed⟩ | ⟨refused, needs, noneWaits⟩ := push_cases text yard token
    · rw [taken]
      obtain ⟨enough, count⟩ := bracketCount_of_pushed pushed
      obtain ⟨yard', done, inside, count'⟩ | ⟨front, token', rest, split, failed, needs, inside,
        outside⟩ := ih next
      · refine .inl ⟨yard', done, (inside_cons count).2 ⟨enough, inside⟩, ?_⟩
        rw [openings_cons, closings_cons]
        omega
      · refine .inr ⟨token :: front, token', rest, by rw [split]; rfl, failed, needs,
          (inside_cons count).2 ⟨enough, inside⟩, ?_⟩
        rw [openings_cons, closings_cons]
        omega
    · rw [refused]
      refine .inr ⟨[], token, tokens, rfl, rfl, needs, inside_nil, ?_⟩
      rw [noneWaits]
      rfl

end Yard

/-! ### Accepted and refused tokens -/

def Accepted (tokens : List Token) : Prop :=
  WellBracketed tokens ∧ ∃ token ∈ tokens, token.isItem = true

/-- Why tokens can not be arranged: the first token that lacks a bracket around it, a bracket that is
left open, or nothing to put out. -/
inductive Refused (text : String) (tokens : List Token) : ConversionError → Prop where
  | outside {front rest : List Token} {token : Token} (split : tokens = front ++ token :: rest)
      (needs : token.needsBracket = true) (inside : Inside 0 front)
      (allClosed : closings front = openings front) : Refused text tokens (token.refusal text)
  | unclosed (inside : Inside 0 tokens) (leftOpen : closings tokens < openings tokens) :
      Refused text tokens (.unclosed text)
  | nothing (well : WellBracketed tokens) (noItem : ∀ token ∈ tokens, token.isItem = false) :
      Refused text tokens (.noOperands text)

theorem Refused.not_accepted {text : String} {tokens : List Token} {error : ConversionError}
    (refused : Refused text tokens error) : ¬Accepted tokens := by
  rintro ⟨well, token, member, isItem⟩
  have inside := (wellBracketed_iff_inside.1 well).1
  cases refused with
  | @outside front rest token' split needs _ allClosed =>
    have opened := inside front token' rest split needs
    omega
  | unclosed _ leftOpen =>
    have equal := well.openings_eq
    omega
  | nothing _ noItem =>
    rw [noItem token member] at isItem
    cases isItem

theorem isItem_eq_false_of_filterMap {tokens : List Token}
    (nothing : tokens.filterMap Token.item? = []) : ∀ token ∈ tokens, token.isItem = false := by
  intro token member
  rw [Token.isItem, List.filterMap_eq_nil_iff.1 nothing token member]
  rfl

theorem arrange_cases (text : String) (tokens : List Token) :
    (∃ items, arrange text tokens none = .ok items ∧ Accepted tokens) ∨
      ∃ error, arrange text tokens none = .error error ∧ Refused text tokens error := by
  rw [arrange]
  obtain ⟨yard, pushed, inside, count⟩ | ⟨front, token, rest, split, failed, needs, inside, equal⟩ :=
    Yard.foldlM_cases text {} tokens
  · have start : bracketCount ({} : Yard).waiting = 0 := rfl
    rw [start, Nat.zero_add] at count
    rw [start] at inside
    rw [pushed]
    change (∃ items, yard.finish text = .ok items ∧ _) ∨
      ∃ error, yard.finish text = .error error ∧ _
    unfold Yard.finish
    obtain ⟨leftOpen, nothing⟩ | ⟨items, drained, put⟩ :=
      Yard.drain?_cases yard.waiting yard.output
    · rw [nothing]
      exact .inr ⟨_, rfl, .unclosed inside (by omega)⟩
    · have noneWaits : 0 = bracketCount yard.waiting := Yard.bracketCount_of_putsOut put
      have well : WellBracketed tokens := wellBracketed_iff_inside.2 ⟨inside, by omega⟩
      -- What is put out are the items among the tokens, so that it is nothing only if they are.
      have perm : items.Perm (tokens.filterMap Token.item? ++ []) :=
        (Yard.perm_of_drain? drained).trans (Yard.contents_foldlM pushed)
      rw [List.append_nil] at perm
      rw [drained]
      cases items with
      | nil => exact .inr ⟨_, rfl, .nothing well (isItem_eq_false_of_filterMap perm.nil_eq.symm)⟩
      | cons i items =>
        obtain ⟨token, inTokens, found⟩ := List.mem_filterMap.1 (perm.mem_iff.1 List.mem_cons_self)
        exact .inl ⟨_, rfl, well, token, inTokens, by rw [Token.isItem, found]; rfl⟩
  · rw [failed]
    exact .inr ⟨_, rfl, .outside split needs inside equal⟩

/-- A formula that can be scanned to its end is converted exactly if no more brackets are closed than
have been opened before, all brackets are closed in the end, each separator stands inside of
brackets, and some token is neither a bracket nor a separator. In every other case it is refused for
its brackets and separators. -/
theorem toPostfix_ok_iff_accepted {lexicon : Lexicon} {text : String} {tokens : List Token}
    (someChar : text.toList.all isBlank = false)
    (scanned : (Scanner.ofText text).run lexicon = (tokens, none)) :
    ((∃ items, toPostfix lexicon text = .ok items) ↔
      WellBracketed tokens ∧ ∃ token ∈ tokens, token.isItem = true) ∧
    (¬(WellBracketed tokens ∧ ∃ token ∈ tokens, token.isItem = true) →
      ∃ error, toPostfix lexicon text = .error error ∧ Refused text tokens error) := by
  have arranged : toPostfix lexicon text = arrange text tokens none := by
    rw [toPostfix, someChar, if_neg Bool.false_ne_true, scanned]
  rw [arranged]
  obtain ⟨items, done, accepted⟩ | ⟨error, failed, refused⟩ := arrange_cases text tokens
  · exact ⟨⟨fun _ => accepted, fun _ => ⟨items, done⟩⟩, fun notAccepted =>
      absurd accepted notAccepted⟩
  · refine ⟨⟨?_, fun accepted => absurd accepted refused.not_accepted⟩, fun _ =>
      ⟨error, failed, refused⟩⟩
    rintro ⟨items, done⟩
    rw [failed] at done
    cases done

theorem toPostfix_ok_iff_accepted_separators :
    (∃ tokens, "[1, 2)".toList.all isBlank = false ∧
      (Scanner.ofText "[1, 2)").run {} = (tokens, none) ∧ formatTokens tokens = "( 1 , 2 )" ∧
      WellBracketed tokens ∧ ∃ token ∈ tokens, token.isItem = true) ∧
    ∃ tokens, "(1), 2".toList.all isBlank = false ∧
      (Scanner.ofText "(1), 2").run {} = (tokens, none) ∧ formatTokens tokens = "( 1 ) , 2" ∧
      ∃ error, toPostfix {} "(1), 2" = .error error ∧ Refused "(1), 2" tokens error := by
  have visible : "[1, 2)".toList.all isBlank = false := by decide
  have visible' : "(1), 2".toList.all isBlank = false := by decide
  have scanned : (Scanner.ofText "[1, 2)").run {} =
      (((Scanner.ofText "[1, 2)").run {}).1, none) := Prod.ext rfl (by decide +kernel)
  have scanned' : (Scanner.ofText "(1), 2").run {} =
      (((Scanner.ofText "(1), 2").run {}).1, none) := Prod.ext rfl (by decide +kernel)
  have converted : (toPostfix {} "[1, 2)").isOk = true := by decide +kernel
  have refused : (toPostfix {} "(1), 2").isOk = false := by decide +kernel
  refine ⟨⟨_, visible, scanned, by decide +kernel, ?_⟩, _, visible', scanned',
    by decide +kernel, ?_⟩
  · refine (toPostfix_ok_iff_accepted visible scanned).1.1 ?_
    cases result : toPostfix {} "[1, 2)" with
    | ok items => exact ⟨items, rfl⟩
    | error error => rw [result] at converted; cases converted
  · refine (toPostfix_ok_iff_accepted visible' scanned').2 fun accepted => ?_
    obtain ⟨items, done⟩ := (toPostfix_ok_iff_accepted visible' scanned').1.2 accepted
    rw [done] at refused
    cases refused

end Formula
