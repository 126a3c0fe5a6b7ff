import Mathlib.Data.List.Infix
import Formula.Proofs.Conversion.Brackets
import Formula.Proofs.Scanner.Calls

/-!
Where errors point. An error of scanning names the characters that could not be read, and its
position is where they stand in the trimmed text, which is the text that the error is about. In the
text as it was given they stand as many characters further behind as there are blanks in front.
-/

set_option autoImplicit false

namespace Formula

open Formula.Text

def ReadFault.chars : ReadFault → List Char
  | .character c => [c]
  | .number literal => literal
  | .operator run => run
  | .name run => run

/-! ### Faults -/

namespace Token

theorem takeWhile_ne_nil {p : Char → Bool} {c : Char} (inside : p c = true) (rest : List Char) :
    (c :: rest).takeWhile p ≠ [] := by
  rw [List.takeWhile_cons_of_pos inside]
  exact List.cons_ne_nil _ _

theorem chars_of_unread {lexicon : Lexicon} {last : Option Token} {c : Char} {rest : List Char}
    {fault : ReadFault} (unread : read lexicon last c rest = .error fault) :
    fault.chars ≠ [] ∧ fault.chars <+: c :: rest := by
  have alone : [c] ≠ [] ∧ [c] <+: c :: rest :=
    ⟨List.cons_ne_nil _ _, List.cons_prefix_cons.2 ⟨rfl, List.nil_prefix⟩⟩
  -- Each way to read fails with a fault of its own, which holds the run that it was about.
  obtain ⟨way, decided, same⟩ := exists_way lexicon c
  rw [same] at unread
  cases decided with
  | number starts =>
    dsimp only at unread
    split at unread
    · cases unread
      exact alone
    · obtain ⟨tail, rest', split⟩ := splitNumber_starts c rest
      have parts := splitNumber_parts c rest
      simp only [readNumber, split] at unread parts
      split at unread
      · cases unread
      · cases unread
        exact ⟨List.cons_ne_nil _ _, rest', parts⟩
  | operator inside =>
    simp only [readOperator] at unread
    split at unread
    · cases unread
    · cases unread
      exact ⟨takeWhile_ne_nil inside rest, List.takeWhile_prefix _⟩
  | name starts =>
    simp only [readName] at unread
    split at unread
    · cases unread
    · cases unread
      exact ⟨takeWhile_ne_nil (isNameChar_of_isNameStart starts) rest, List.takeWhile_prefix _⟩
  | separator => cases unread
  | opening _ => cases unread
  | closing _ => cases unread
  | nothing =>
    cases unread
    exact alone

end Token

/-! ### Positions -/

/-- The error tells about the text, and if about a place, then what could not be read stands
there. -/
def ScanError.PointsInto (text : List Char) : ScanError → Prop
  | .atEnd text' => text' = text
  | .stuck fault position text' =>
    text' = text ∧ fault.chars ≠ [] ∧ fault.chars <+: text.drop position

theorem ScanError.message_stuck (fault : ReadFault) (position : Nat) (text : List Char) :
    ∃ before between behind : String, (stuck fault position text).message =
      before ++ quoteList fault.chars ++ between ++ toString position ++ behind := by
  cases fault with
  | character c =>
    refine ⟨"Unable to parse char ", " (Code:" ++ toString c.toNat ++ ") at [", "]", ?_⟩
    -- The equations of `message` take long to derive; its value on this fault does not.
    delta message
    simp only [ReadFault.chars, String.append_assoc]
  | number literal => exact ⟨"Invalid number ", " at [", "]", rfl⟩
  | operator run =>
    exact ⟨"Unknown operator ", " at [", "] in expression " ++ quoteList text,
      String.append_assoc⟩
  | name run =>
    exact ⟨"Unknown function or variable ", " at pos ", " in expression " ++ quoteList text,
      String.append_assoc⟩

namespace Scanner

section
variable {lexicon : Lexicon} {text : List Char} {s : Scanner} {error : ScanError}

theorem Fails.pointsInto (ends : EndsText text s) (fails : Fails lexicon s error) :
    error.PointsInto (trim text) := by
  cases fails with
  | atEnd => exact ends.same
  | @stuck c rest fault _ front unread =>
    have behind := ends.suffix_of_front front
    obtain ⟨someChar, begins⟩ := Token.chars_of_unread unread
    refine ⟨ends.same, someChar, ?_⟩
    rwa [ends.same, ← List.length_cons, ← List.suffix_iff_eq_drop.1 behind]

theorem pointsInto_of_run (ends : EndsText text s) (stopped : (s.run lexicon).2 = some error) :
    error.PointsInto (trim text) := by
  induction s using run.induct lexicon with
  | case1 s _ token s' done _ _ _ ih =>
    rw [run_next done] at stopped
    exact ih (ends.next done) stopped
  | case2 s more error' stuck =>
    rw [run_stuck more stuck, Option.some.injEq] at stopped
    subst stopped
    exact (next_eq_error_iff.1 stuck).pointsInto ends
  | case3 s done =>
    rw [run_done (by simpa using done)] at stopped
    cases stopped

end

end Scanner

/-! ### Texts as they are given -/

/-- A place of the trimmed text is behind the blanks in front of the text. -/
theorem Text.drop_trim_prefix_drop (text : List Char) (position : Nat) :
    (trim text).drop position <+: text.drop ((text.takeWhile isBlank).length + position) := by
  have behind : text.drop (text.takeWhile isBlank).length = text.dropWhile isBlank :=
    calc text.drop (text.takeWhile isBlank).length
        = (text.takeWhile isBlank ++ text.dropWhile isBlank).drop
            (text.takeWhile isBlank).length := by rw [List.takeWhile_append_dropWhile]
      _ = text.dropWhile isBlank := List.drop_left
  rw [← List.drop_drop, behind]
  exact List.IsPrefix.drop (trim_prefix_dropWhile text) position

theorem stopped_of_toPostfix {lexicon : Lexicon} {text : String} {error : ScanError}
    (failed : toPostfix lexicon text = .error (.scan error)) :
    ((Scanner.ofText text).run lexicon).2 = some error := by
  unfold toPostfix at failed
  split at failed
  · cases failed
  · rcases scanned : (Scanner.ofText text).run lexicon with ⟨tokens, stop⟩
    simp only [scanned, arrange] at failed
    obtain ⟨yard, pushed, _⟩ | ⟨_, token, _, _, refused, _⟩ := Yard.foldlM_cases text {} tokens
    · rw [pushed] at failed
      cases stop with
      | some error' =>
        cases failed
        rfl
      | none =>
        change yard.finish text = _ at failed
        unfold Yard.finish at failed
        split at failed <;> cases failed
    · rw [refused] at failed
      cases token <;> cases failed

/-- Where a formula can not be scanned, the error is about the trimmed text. The characters that its
message names stand at its position there, and behind the blanks in front of the text as it was
given. -/
theorem position_of_toPostfix {lexicon : Lexicon} {text : String} {fault : ReadFault}
    {position : Nat} {whole : List Char}
    (failed : toPostfix lexicon text = .error (.scan (.stuck fault position whole))) :
    whole = trim text.toList ∧ fault.chars ≠ [] ∧ fault.chars <+: whole.drop position ∧
      fault.chars <+: text.toList.drop ((text.toList.takeWhile isBlank).length + position) ∧
      ∃ before between behind : String,
        (ConversionError.scan (.stuck fault position whole)).message =
          before ++ quoteList fault.chars ++ between ++ toString position ++ behind := by
  have ends : Scanner.EndsText text.toList (.ofText text) := ⟨rfl, List.suffix_refl _⟩
  obtain ⟨rfl, someChar, points⟩ := Scanner.pointsInto_of_run ends (stopped_of_toPostfix failed)
  exact ⟨rfl, someChar, points, points.trans (drop_trim_prefix_drop _ _),
    ScanError.message_stuck fault position _⟩

theorem eq_error_of_map {α : Type} {result : Except ConversionError α} {error : ConversionError}
    (failed : result.map (fun _ => ()) = .error error) : result = .error error := by
  cases result with
  | ok value => cases failed
  | error error' =>
    cases failed
    rfl

theorem position_of_toPostfix_unknownName :
    toPostfix {} "\t 2 * foo " =
        .error (.scan (.stuck (.name ['f', 'o', 'o']) 4 "2 * foo".toList)) ∧
      ['f', 'o', 'o'] <+: "2 * foo".toList.drop 4 ∧
      ['f', 'o', 'o'] <+: "\t 2 * foo ".toList.drop (2 + 4) := by
  have failed : toPostfix {} "\t 2 * foo " =
      .error (.scan (.stuck (.name ['f', 'o', 'o']) 4 "2 * foo".toList)) :=
    eq_error_of_map (by decide +kernel)
  obtain ⟨_, _, trimmed, given, _⟩ := position_of_toPostfix failed
  exact ⟨failed, trimmed, given⟩

/-- Behind a blank the position is not the one in the text that was given. -/
theorem position_behind_blank :
    toPostfix {} " @" = .error (.scan (.stuck (.character '@') 0 ['@'])) ∧
      ¬∀ (lexicon : Lexicon) (text : String) (fault : ReadFault) (position : Nat)
        (whole : List Char),
        toPostfix lexicon text = .error (.scan (.stuck fault position whole)) →
          fault.chars <+: text.toList.drop position := by
  have failed : toPostfix {} " @" = .error (.scan (.stuck (.character '@') 0 ['@'])) :=
    eq_error_of_map (by decide +kernel)
  refine ⟨failed, fun always => ?_⟩
  have points := always {} " @" _ 0 _ failed
  exact absurd points (by decide)

end Formula
