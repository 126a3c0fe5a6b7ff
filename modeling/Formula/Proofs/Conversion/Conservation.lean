import Formula.Proofs.Conversion.Step

/-!
Converting loses and invents nothing: what waits and what has been put out are together what came
in, without the brackets and separators.
-/

set_option autoImplicit false

namespace Formula

def Token.item? : Token → Option Item
  | .item i => some i
  | .opening | .closing | .separator => none

namespace Yard

def contents (yard : Yard) : List Item := yard.waiting.filterMap Waiting.item? ++ yard.output

theorem contents_of_putsOut {yard yard' : Yard} (put : PutsOut yard yard') :
    yard'.contents.Perm yard.contents := by
  induction put with
  | nothing yard => exact .refl _
  | @latest first i waiting output yard' found _ ih =>
    refine ih.trans ?_
    rw [contents, contents, List.filterMap_cons_some found]
    exact List.perm_middle

theorem contents_of_pushed {yard yard' : Yard} {token : Token} (pushed : Pushed yard token yard') :
    yard'.contents.Perm (token.item?.toList ++ yard.contents) := by
  cases pushed with
  | operand _ => exact List.perm_middle
  | @waits first i next found released =>
    rw [contents, List.filterMap_cons_some found]
    exact (contents_of_putsOut released).cons i
  | opening => exact .refl _
  | separator above => exact contents_of_putsOut above
  | closing above call =>
    have opened := contents_of_putsOut above
    exact (contents_of_putsOut call).trans opened

theorem perm_of_drain? {yard : Yard} {items : List Item}
    (done : drain? yard.waiting yard.output = some items) : items.Perm yard.contents :=
  (List.reverse_perm items).symm.trans (contents_of_putsOut (putsOut_of_drain? done))

theorem contents_foldlM {text : String} {yard yard' : Yard} {tokens : List Token}
    (done : tokens.foldlM (push text) yard = .ok yard') :
    yard'.contents.Perm (tokens.filterMap Token.item? ++ yard.contents) := by
  -- What earlier tokens left in the yard stays in it, and is counted once.
  induction tokens generalizing yard with
  | nil =>
    cases done
    exact .refl _
  | cons token tokens ih =>
    obtain ⟨next, pushed, done⟩ := exists_pushed_of_foldlM done
    refine (ih done).trans (((contents_of_pushed pushed).append_left _).trans ?_)
    cases found : token.item? with
    | none =>
      rw [List.filterMap_cons_none found]
      exact .refl _
    | some i =>
      rw [List.filterMap_cons_some found]
      exact List.perm_middle

end Yard

theorem drained_of_arrange {text : String} {tokens : List Token} {stop : Option ScanError}
    {items : List Item} (done : arrange text tokens stop = .ok items) :
    stop = none ∧ ∃ yard, tokens.foldlM (Yard.push text) {} = .ok yard ∧
      Yard.drain? yard.waiting yard.output = some items := by
  rw [arrange] at done
  cases pushed : tokens.foldlM (Yard.push text) {} with
  | error error => rw [pushed] at done; cases done
  | ok yard =>
    rw [pushed] at done
    cases stop with
    | some error => cases done
    | none =>
      replace done : yard.finish text = .ok items := done
      unfold Yard.finish at done
      split at done
      · cases done
      · cases done
      · cases done
        exact ⟨rfl, yard, rfl, ‹_›⟩

/-- The items of a converted formula are those of its tokens. -/
theorem arrange_perm {text : String} {tokens : List Token} {stop : Option ScanError}
    {items : List Item} (done : arrange text tokens stop = .ok items) :
    items.Perm (tokens.filterMap Token.item?) := by
  obtain ⟨_, yard, pushed, drained⟩ := drained_of_arrange done
  have start : yard.contents.Perm (tokens.filterMap Token.item? ++ []) :=
    Yard.contents_foldlM pushed
  rw [List.append_nil] at start
  exact (Yard.perm_of_drain? drained).trans start

theorem scanned_of_toPostfix {lexicon : Lexicon} {text : String} {items : List Item}
    (converted : toPostfix lexicon text = .ok items) :
    ∃ tokens, (Scanner.ofText text).run lexicon = (tokens, none) ∧
      arrange text tokens none = .ok items := by
  unfold toPostfix at converted
  split at converted
  · cases converted
  · rcases scanned : (Scanner.ofText text).run lexicon with ⟨tokens, stop⟩
    rw [scanned] at converted
    obtain ⟨rfl, _⟩ := drained_of_arrange converted
    exact ⟨tokens, rfl, converted⟩

end Formula
