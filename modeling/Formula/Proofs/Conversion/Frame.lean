import Formula.Proofs.Conversion.Brackets
import Formula.Proofs.Conversion.Pending

/-!
What tokens do to a yard they do alike above anything that waits behind a bracket, and behind
anything that has been put out. Brackets around tokens that are converted by themselves put out just
what these are converted into.
-/

set_option autoImplicit false

namespace Formula.Yard

/-- Nothing waits, or a bracket is the latest that does: nothing can be put out. -/
inductive Walled : List Waiting → Prop where
  | nothing : Walled []
  | bracket (waiting : List Waiting) : Walled (.bracket :: waiting)

def atop (yard : Yard) (below : List Waiting) (before : List Item) : Yard :=
  ⟨yard.waiting ++ below, yard.output ++ before⟩

section
variable {text : String} {yard yard' : Yard} {token : Token} {below : List Waiting}

theorem release_atop (coming : Operator) (waiting : List Waiting) (output before : List Item)
    (walled : Walled below) : release coming (waiting ++ below) (output ++ before) =
      (release coming waiting output).atop below before := by
  induction waiting generalizing output with
  | nil => cases walled <;> rfl
  | cons first waiting ih =>
    cases first with
    | operator op =>
      rw [List.cons_append, release, release]
      split
      · exact ih (.operator op :: output)
      · rfl
    | function f => rfl
    | bracket => rfl

theorem toBracket?_atop {waiting : List Waiting} {output : List Item}
    (found : toBracket? waiting output = some yard) (below : List Waiting) (before : List Item) :
    toBracket? (waiting ++ below) (output ++ before) = some (yard.atop below before) := by
  induction waiting generalizing output with
  | nil => cases found
  | cons first waiting ih =>
    cases first with
    | operator op => exact ih found
    | function f => exact ih found
    | bracket =>
      cases found
      rfl

theorem closeBracket_atop (waiting : List Waiting) (output before : List Item)
    (walled : Walled below) :
    (atop ⟨.bracket :: waiting, output⟩ below before).closeBracket =
      (closeBracket ⟨.bracket :: waiting, output⟩).atop below before := by
  cases waiting with
  | nil => cases walled <;> rfl
  | cons first waiting => cases first <;> rfl

theorem separated_of_push (done : push text yard .separator = .ok yard') :
    ∃ waiting output, toBracket? yard.waiting yard.output = some ⟨.bracket :: waiting, output⟩ ∧
      PutsOut yard ⟨.bracket :: waiting, output⟩ ∧ yard' = ⟨.bracket :: waiting, output⟩ := by
  obtain ⟨_, nothing⟩ | ⟨waiting, output, found, put⟩ := toBracket?_cases yard.waiting yard.output
  · simp only [push, nothing] at done
    cases done
  · simp only [push, found] at done
    cases done
    exact ⟨waiting, output, found, put, rfl⟩

theorem closed_of_push (done : push text yard .closing = .ok yard') :
    ∃ waiting output, toBracket? yard.waiting yard.output = some ⟨.bracket :: waiting, output⟩ ∧
      PutsOut yard ⟨.bracket :: waiting, output⟩ ∧
      yard' = closeBracket ⟨.bracket :: waiting, output⟩ := by
  obtain ⟨_, nothing⟩ | ⟨waiting, output, found, put⟩ := toBracket?_cases yard.waiting yard.output
  · simp only [push, nothing] at done
    cases done
  · simp only [push, found] at done
    cases done
    exact ⟨waiting, output, found, put, rfl⟩

theorem push_atop (done : push text yard token = .ok yard') (text' : String)
    (walled : Walled below) (before : List Item) :
    push text' (yard.atop below before) token = .ok (yard'.atop below before) := by
  -- Only operators, separators and closing brackets look at what waits, and none looks below a
  -- wall.
  cases token with
  | item i =>
    cases i with
    | number value =>
      cases done
      rfl
    | var name =>
      cases done
      rfl
    | function f =>
      cases done
      rfl
    | operator op =>
      cases done
      rw [push, atop, release_atop op yard.waiting yard.output before walled]
      rfl
  | opening =>
    cases done
    rfl
  | separator =>
    obtain ⟨waiting, output, found, _, rfl⟩ := separated_of_push done
    rw [push, atop, toBracket?_atop found]
  | closing =>
    obtain ⟨waiting, output, found, _, rfl⟩ := closed_of_push done
    rw [push, atop, toBracket?_atop found]
    exact congrArg Except.ok (closeBracket_atop waiting output before walled)

theorem foldlM_atop {tokens : List Token} (done : tokens.foldlM (push text) yard = .ok yard')
    (text' : String) (walled : Walled below) (before : List Item) :
    tokens.foldlM (push text') (yard.atop below before) = .ok (yard'.atop below before) := by
  induction tokens generalizing yard with
  | nil =>
    cases done
    rfl
  | cons token tokens ih =>
    rw [List.foldlM_cons] at done ⊢
    cases taken : push text yard token with
    | error error => rw [taken] at done; cases done
    | ok next =>
      rw [taken] at done
      rw [push_atop taken text' walled before]
      exact ih done

/-- What tokens put out does not depend on what has been put out before. -/
theorem exists_added {tokens : List Token} {waiting : List Waiting} {output : List Item}
    (done : tokens.foldlM (push text) ⟨waiting, output⟩ = .ok yard') :
    ∃ waiting' added, yard' = ⟨waiting', added ++ output⟩ ∧ ∀ (text' : String) (before : List Item),
      tokens.foldlM (push text') ⟨waiting, before⟩ = .ok ⟨waiting', added ++ before⟩ := by
  obtain ⟨_, _, inside, _⟩ | ⟨_, _, _, _, failed, _⟩ := foldlM_cases text ⟨waiting, output⟩ tokens
  · obtain ⟨⟨waiting', added⟩, alone, _⟩ | ⟨front, token, rest, split, _, needs, _, outside⟩ :=
      foldlM_cases text ⟨waiting, []⟩ tokens
    · have framed (text' : String) (before : List Item) :
          tokens.foldlM (push text') ⟨waiting, before⟩ = .ok ⟨waiting', added ++ before⟩ := by
        simpa [atop] using foldlM_atop alone text' .nothing before
      exact ⟨waiting', added, Except.ok.inj (done.symm.trans (framed text output)), framed⟩
    · have enough := inside front token rest split needs
      simp only at enough outside
      omega
  · rw [failed] at done
    cases done

/-! ### The end of tokens -/

theorem drain?_append (waiting : List Waiting) (output before : List Item) :
    drain? waiting (output ++ before) = (drain? waiting output).map (before.reverse ++ ·) := by
  induction waiting generalizing output with
  | nil => rw [drain?, drain?, List.reverse_append, Option.map_some]
  | cons first waiting ih =>
    cases first with
    | operator op => exact ih (.operator op :: output)
    | function f => exact ih (.function f :: output)
    | bracket => rfl

theorem toBracket?_of_drain? {waiting : List Waiting} {output items : List Item}
    (drained : drain? waiting output = some items) (below : List Waiting) (before : List Item) :
    toBracket? (waiting ++ .bracket :: below) (output ++ before) =
      some ⟨.bracket :: below, items.reverse ++ before⟩ := by
  induction waiting generalizing output with
  | nil =>
    cases drained
    rw [List.reverse_reverse]
    rfl
  | cons first waiting ih =>
    cases first with
    | operator op => exact ih drained
    | function f => exact ih drained
    | bracket => cases drained

theorem arrange_ok_iff {tokens : List Token} {items : List Item} :
    arrange text tokens none = .ok items ↔ items ≠ [] ∧ ∃ yard,
      tokens.foldlM (push text) {} = .ok yard ∧ drain? yard.waiting yard.output = some items := by
  constructor
  · intro done
    obtain ⟨_, yard, pushed, drained⟩ := drained_of_arrange done
    refine ⟨fun nothing => ?_, yard, pushed, drained⟩
    rw [arrange, pushed] at done
    replace done : yard.finish text = .ok items := done
    rw [finish, drained, nothing] at done
    cases done
  · rintro ⟨someItem, yard, pushed, drained⟩
    rw [arrange, pushed]
    change yard.finish text = .ok items
    rw [finish, drained]
    cases items with
    | nil => exact absurd rfl someItem
    | cons i items => rfl

/-! ### Brackets around tokens -/

/-- Each function that waits has its bracket above it. -/
inductive Shielded : List Waiting → Prop where
  | nothing : Shielded []
  | operator {waiting : List Waiting} (op : Operator) (below : Shielded waiting) :
      Shielded (.operator op :: waiting)
  | bracket {waiting : List Waiting} (below : Shielded waiting) : Shielded (.bracket :: waiting)
  | call {waiting : List Waiting} (f : Function) (below : Shielded waiting) :
      Shielded (.bracket :: .function f :: waiting)

/-- Brackets around tokens put out what the tokens are converted into, and nothing that waits. -/
theorem foldlM_bracketed {tokens : List Token} {items : List Item} {waiting : List Waiting}
    (inner : arrange text tokens none = .ok items) (text' : String) (shielded : Shielded waiting)
    (output : List Item) :
    (.opening :: (tokens ++ [.closing])).foldlM (push text') ⟨waiting, output⟩ =
      .ok ⟨waiting, items.reverse ++ output⟩ := by
  obtain ⟨_, yard, pushed, drained⟩ := arrange_ok_iff.1 inner
  have inside := foldlM_atop pushed text' (.bracket waiting) output
  have closed : push text' (yard.atop (.bracket :: waiting) output) .closing =
      .ok ⟨waiting, items.reverse ++ output⟩ := by
    rw [push, atop, toBracket?_of_drain? drained waiting output]
    cases shielded <;> rfl
  have opened : push text' ⟨waiting, output⟩ .opening =
    .ok (atop {} (.bracket :: waiting) output) := rfl
  exact (pushAll_cons _ opened).trans ((pushAll_append _ inside).trans (pushAll_cons [] closed))

theorem shielded_of_putsOut (put : PutsOut yard yard') (shielded : Shielded yard.waiting) :
    Shielded yard'.waiting := by
  induction put with
  | nothing yard => exact shielded
  | latest found _ ih =>
    cases shielded with
    | operator op below => exact ih below
    | bracket below => cases found
    | call f below => cases found

theorem shielded_closeBracket {waiting : List Waiting} (output : List Item)
    (shielded : Shielded (.bracket :: waiting)) :
    Shielded (closeBracket ⟨.bracket :: waiting, output⟩).waiting := by
  cases shielded with
  | call f below => exact below
  | bracket below =>
    have plain := below
    cases below <;> exact plain

def callsBracketed : List Token → Bool
  | [] => true
  | .item (.function _) :: rest => rest.head?.any Token.isOpening && callsBracketed rest
  | _ :: rest => callsBracketed rest

/-- What waits in front of the tokens: a function without its bracket only where this is opened at
once. -/
inductive Ready (tokens : List Token) : List Waiting → Prop where
  | shielded {waiting : List Waiting} (below : Shielded waiting) : Ready tokens waiting
  | called {waiting : List Waiting} (f : Function) (below : Shielded waiting)
      (next : tokens.head?.any Token.isOpening = true) : Ready tokens (.function f :: waiting)

theorem callsBracketed_tail {tokens : List Token}
    (calls : callsBracketed (token :: tokens) = true) : callsBracketed tokens = true := by
  unfold callsBracketed at calls
  split at calls
  · rename_i nothing
    cases nothing
  · rename_i same
    cases same
    exact (Bool.and_eq_true_iff.1 calls).2
  · rename_i same
    cases same
    exact calls

theorem ready_push {tokens : List Token} (done : push text yard token = .ok yard')
    (calls : callsBracketed (token :: tokens) = true)
    (ready : Ready (token :: tokens) yard.waiting) : Ready tokens yard'.waiting := by
  obtain ⟨waiting, output⟩ := yard
  -- Directly behind a function its bracket is opened. Any other token keeps what waits shielded,
  -- unless it is a function itself.
  cases ready with
  | called f below next =>
    cases token with
    | opening =>
      cases done
      exact .shielded (.call f below)
    | item i => cases next
    | closing => cases next
    | separator => cases next
  | shielded below =>
    cases token with
    | item i =>
      cases i with
      | number value =>
        cases done
        exact .shielded below
      | var name =>
        cases done
        exact .shielded below
      | function f =>
        cases done
        exact .called f below (Bool.and_eq_true_iff.1 calls).1
      | operator op =>
        cases done
        have put := putsOut_release op waiting output
        exact .shielded (.operator op (shielded_of_putsOut put below))
    | opening =>
      cases done
      exact .shielded (.bracket below)
    | separator =>
      obtain ⟨_, _, _, put, rfl⟩ := separated_of_push done
      exact .shielded (shielded_of_putsOut put below)
    | closing =>
      obtain ⟨_, output', _, put, rfl⟩ := closed_of_push done
      exact .shielded (shielded_closeBracket output' (shielded_of_putsOut put below))

theorem ready_foldlM {front rest : List Token} (done : front.foldlM (push text) yard = .ok yard')
    (calls : callsBracketed (front ++ rest) = true) (ready : Ready (front ++ rest) yard.waiting) :
    Ready rest yard'.waiting := by
  induction front generalizing yard with
  | nil =>
    cases done
    exact ready
  | cons token front ih =>
    rw [List.foldlM_cons] at done
    cases taken : push text yard token with
    | error error => rw [taken] at done; cases done
    | ok next =>
      rw [taken] at done
      exact ih done (callsBracketed_tail calls) (ready_push taken calls ready)

end

end Yard

def operandsOf (tokens : List Token) : List Item :=
  (tokens.filterMap Token.item?).filter Item.isOperand

/-- Where a variable stands, the items of other tokens are put out if these stand there in brackets;
the operands in front of the variable are those in front of it in the program. -/
theorem arrange_substitute {text inner : String} {front tokens rest : List Token} {name : String}
    {items innerItems : List Item}
    (converted : arrange text (front ++ .item (.var name) :: rest) none = .ok items)
    (calls : Yard.callsBracketed (front ++ .item (.var name) :: rest) = true)
    (innerConverted : arrange inner tokens none = .ok innerItems) :
    ∃ before behind, items = before ++ .var name :: behind ∧
      before.filter Item.isOperand = operandsOf front ∧
      ∀ text', arrange text' (front ++ .opening :: (tokens ++ .closing :: rest)) none =
        .ok (before ++ innerItems ++ behind) := by
  obtain ⟨_, yard, pushed, drained⟩ := Yard.arrange_ok_iff.1 converted
  obtain ⟨someItem, _⟩ := Yard.arrange_ok_iff.1 innerConverted
  rw [List.foldlM_append] at pushed
  cases first : front.foldlM (Yard.push text) {} with
  | error error => rw [first] at pushed; cases pushed
  | ok reached =>
    obtain ⟨waiting, output⟩ := reached
    rw [first] at pushed
    replace pushed : rest.foldlM (Yard.push text) ⟨waiting, .var name :: output⟩ = .ok yard :=
      pushed
    -- The token behind the functions in front is a variable, so that each of them has its bracket.
    have shielded : Yard.Shielded waiting := by
      cases Yard.ready_foldlM first calls (.shielded .nothing) with
      | shielded below => exact below
      | called _ _ next => cases next
    -- The tokens behind put out the same, whatever has been put out in the place of the variable.
    obtain ⟨waiting', added, rfl, framed⟩ := Yard.exists_added pushed
    rw [Yard.drain?_append, Option.map_eq_some_iff] at drained
    obtain ⟨behind, drained, rfl⟩ := drained
    refine ⟨output.reverse, behind, by simp, ?_, fun text' => Yard.arrange_ok_iff.2
      ⟨by simp [someItem], ⟨waiting', added ++ (innerItems.reverse ++ output)⟩, ?_, ?_⟩⟩
    · have operands := Yard.operands_foldlM first
      rw [List.append_nil, List.filter_reverse] at operands
      rw [List.filter_reverse]
      exact List.reverse_eq_iff.2 operands
    · have reached : front.foldlM (Yard.push text') {} = .ok ⟨waiting, output⟩ := by
        simpa [Yard.atop] using Yard.foldlM_atop first text' .nothing []
      have bracketed := Yard.foldlM_bracketed innerConverted text' shielded output
      have parts : front ++ .opening :: (tokens ++ .closing :: rest) =
        front ++ (.opening :: (tokens ++ [.closing]) ++ rest) := by simp
      rw [parts]
      exact (Yard.pushAll_append _ reached).trans ((Yard.pushAll_append rest bracketed).trans
        (framed text' (innerItems.reverse ++ output)))
    · rw [Yard.drain?_append, drained]
      simp

end Formula
