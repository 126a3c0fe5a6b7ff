import Formula.Proofs.Token.Known
import Formula.Scanner

/-!
The run of a scanner, call by call: what a call says about the rest of the run, and what holds of
all tokens because it holds of each that is read.
-/

set_option autoImplicit false

namespace Formula.Scanner

open Formula.Text

variable {lexicon : Lexicon}

theorem run_done {s : Scanner} (nothing : s.hasNext = false) : s.run lexicon = ([], none) := by
  rw [run, if_neg (by rw [nothing]; exact Bool.false_ne_true)]

theorem hasNext_of_next {s s' : Scanner} {token : Token} (done : s.next lexicon = .ok (token, s')) :
    s.hasNext = true := by
  cases nothing : s.hasNext with
  | true => rfl
  | false =>
    simp only [hasNext, Bool.or_eq_false_iff, Option.isSome_eq_false_iff,
      Option.isNone_iff_eq_none, Bool.not_eq_eq_eq_not, Bool.not_false, List.isEmpty_iff] at nothing
    simp [next, nothing] at done

theorem run_next {s s' : Scanner} {token : Token} (done : s.next lexicon = .ok (token, s')) :
    s.run lexicon = (token :: (s'.run lexicon).1, (s'.run lexicon).2) := by
  rw [run, if_pos (hasNext_of_next done)]
  split
  · rename_i found
    rw [done] at found
    cases found
    rfl
  · rename_i found
    rw [done] at found
    cases found

theorem run_stuck {s : Scanner} {error : ScanError} (more : s.hasNext = true)
    (stuck : s.next lexicon = .error error) : s.run lexicon = ([], some error) := by
  rw [run, if_pos more]
  split
  · rename_i found
    rw [stuck] at found
    cases found
  · rename_i found
    rw [stuck] at found
    cases found
    rfl

/-- The ways to hand out a token: it was held back, it is read, or it is the product in front of a
token that is read. -/
inductive Hands (lexicon : Lexicon) (s : Scanner) : Token → Scanner → Prop where
  | held {token : Token} (waiting : s.held = some token) :
      Hands lexicon s token { s with last := some token, held := none }
  | read {c : Char} {rest rest' : List Char} {token : Token} (free : s.held = none)
      (front : s.rest.dropWhile isBlank = c :: rest)
      (found : Token.read lexicon s.last c rest = .ok (token, rest'))
      (notImplied : implies lexicon s.last token = false) :
      Hands lexicon s token { s with rest := rest', last := some token }
  | product {c : Char} {rest rest' : List Char} {token : Token} (free : s.held = none)
      (front : s.rest.dropWhile isBlank = c :: rest)
      (found : Token.read lexicon s.last c rest = .ok (token, rest'))
      (implied : implies lexicon s.last token = true) :
      Hands lexicon s impliedProduct
        { s with rest := rest', last := some impliedProduct, held := some token }

theorem next_eq_ok_iff {s s' : Scanner} {token : Token} :
    s.next lexicon = .ok (token, s') ↔ Hands lexicon s token s' := by
  constructor
  · intro done
    unfold next at done
    -- The branches of `next` in turn: a token held back, the end, and a token that is read or not.
    split at done
    · rename_i waiting
      cases done
      exact .held waiting
    · rename_i free
      split at done
      · cases done
      · rename_i front
        split at done
        · rename_i found
          simp only [Except.ok.injEq, handOut] at done
          split at done
          · rename_i implied
            cases done
            exact .product free front found implied
          · rename_i notImplied
            cases done
            exact .read free front found (Bool.eq_false_iff.2 notImplied)
        · cases done
  · rintro (waiting | ⟨free, front, found, notImplied⟩ | ⟨free, front, found, implied⟩)
    · simp [next, waiting]
    · simp [next, free, front, found, handOut, notImplied]
    · simp [next, free, front, found, handOut, implied]

theorem forall_next {P : Token → Prop}
    (reads : ∀ {last c rest token rest'},
      Token.read lexicon last c rest = .ok (token, rest') → P token)
    (product : P impliedProduct) {s s' : Scanner} {token : Token}
    (held : ∀ token ∈ s.held, P token) (done : s.next lexicon = .ok (token, s')) :
    P token ∧ ∀ token ∈ s'.held, P token := by
  cases next_eq_ok_iff.1 done with
  | held waiting => exact ⟨held token waiting, nofun⟩
  | read _ _ found _ => exact ⟨reads found, held⟩
  | product _ _ found _ =>
    refine ⟨product, fun token' same => ?_⟩
    cases same
    exact reads found

/-- What holds of every token that is read and of products holds of all tokens of a run. -/
theorem forall_run {P : Token → Prop}
    (reads : ∀ {last c rest token rest'},
      Token.read lexicon last c rest = .ok (token, rest') → P token)
    (product : P impliedProduct) (s : Scanner) (held : ∀ token ∈ s.held, P token) :
    ∀ token ∈ (s.run lexicon).1, P token := by
  -- The token held back is part of the invariant: it was read, but has not been handed out yet.
  induction s using run.induct lexicon with
  | case1 s _ token s' done _ _ _ ih =>
    obtain ⟨first, held'⟩ := forall_next reads product held done
    rw [run_next done]
    intro token' member
    rcases List.mem_cons.1 member with rfl | later
    · exact first
    · exact ih held' token' later
  | case2 s more error stuck =>
    rw [run_stuck more stuck]
    exact nofun
  | case3 s done =>
    rw [run_done (by simpa using done)]
    exact nofun

theorem known_of_mem_run (text : String) :
    ∀ token ∈ ((ofText text).run lexicon).1, token.Known lexicon :=
  forall_run Token.known_of_read (.inl rfl) (ofText text) nofun

end Formula.Scanner
