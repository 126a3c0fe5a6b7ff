import Formula.Proofs.Scanner.Run
import Formula.Scanner.Calls

/-!
Calls on the scanner of a text in any order. What is left always ends the trimmed text, so that
there is a character that is not blank wherever something is left, and the search for it ends inside
the text. A call that fails only passes blanks, and the next one fails at the same character for the
same reason.
-/

set_option autoImplicit false

namespace Formula

open Formula.Text

/-- The error tells about the text, and if about a place, then about one inside it. -/
def ScanError.Within (text : List Char) : ScanError → Prop
  | .atEnd text' => text' = text
  | .stuck _ position text' => text' = text ∧ position < text.length

namespace Scanner

def Answer.stuck (more : Bool) (error : ScanError) : Call → Answer
  | .hasNext => .more more
  | .next => .failed error

section
variable {lexicon : Lexicon} {s : Scanner} {error : ScanError}

/-! ### One call -/

theorem hasNext_eq_false_iff : s.hasNext = false ↔ s.held = none ∧ s.rest = [] := by
  simp [hasNext]

/-- The ways to fail: nothing is held, and behind the blanks there is nothing, or nothing that is
read. -/
inductive Fails (lexicon : Lexicon) (s : Scanner) : ScanError → Prop where
  | atEnd (free : s.held = none) (blank : s.rest.dropWhile isBlank = []) :
      Fails lexicon s (.atEnd s.text)
  | stuck {c : Char} {rest : List Char} {fault : ReadFault} (free : s.held = none)
      (front : s.rest.dropWhile isBlank = c :: rest)
      (unread : Token.read lexicon s.last c rest = .error fault) :
      Fails lexicon s (.stuck fault (s.text.length - (rest.length + 1)) s.text)

theorem next_eq_error_iff : s.next lexicon = .error error ↔ Fails lexicon s error := by
  constructor
  · intro failed
    unfold next at failed
    split at failed
    · cases failed
    · rename_i free
      split at failed
      · rename_i blank
        cases failed
        exact .atEnd free blank
      · rename_i front
        split at failed
        · cases failed
        · rename_i unread
          cases failed
          exact .stuck free front unread
  · rintro (⟨free, blank⟩ | ⟨free, front, unread⟩)
    · simp [next, free, blank]
    · simp [next, free, front, unread]

theorem call_next_of_fails (fails : Fails lexicon s error) :
    s.call lexicon .next = (if s.runsOut then .beyond else .failed error, s.skipBlanks) := by
  rw [call, next_eq_error_iff.2 fails]

theorem fails_of_call_next (failed : (s.call lexicon .next).1 = .failed error) :
    Fails lexicon s error ∧ s.runsOut = false := by
  rw [← next_eq_error_iff]
  unfold call at failed
  cases found : s.next lexicon with
  | ok result =>
    rw [found] at failed
    cases failed
  | error error' =>
    rw [found] at failed
    cases inside : s.runsOut with
    | false =>
      rw [inside] at failed
      cases failed
      exact ⟨rfl, rfl⟩
    | true =>
      rw [inside] at failed
      cases failed

/-! ### Blanks passed -/

theorem skipBlanks_of_stops (stops : Stops isBlank s.rest) : s.skipBlanks = s := by
  rw [skipBlanks, dropWhile_of_stops stops]

theorem runsOut_of_stops (stops : Stops isBlank s.rest) : s.runsOut = false := by
  unfold runsOut
  cases rest : s.rest with
  | nil => rfl
  | cons c rest' =>
    have visible : isBlank c = false := stops c (by rw [rest]; rfl)
    rw [List.all_cons, visible]
    rfl

theorem stops_skipBlanks (s : Scanner) : Stops isBlank s.skipBlanks.rest := stops_dropWhile s.rest

theorem Fails.skipBlanks (fails : Fails lexicon s error) : Fails lexicon s.skipBlanks error := by
  have same : s.skipBlanks.rest.dropWhile isBlank = s.rest.dropWhile isBlank :=
    dropWhile_of_stops (stops_skipBlanks s)
  cases fails with
  | atEnd free blank => exact .atEnd free (same.trans blank)
  | stuck free front unread => exact .stuck free (same.trans front) unread

theorem hasNext_skipBlanks (inside : s.runsOut = false) : s.skipBlanks.hasNext = s.hasNext := by
  have nothingLeft : s.skipBlanks.rest = [] ↔ s.rest = [] := by
    constructor
    · intro blank
      have allBlank : s.rest.all isBlank = true := by
        rw [← List.takeWhile_append_dropWhile (p := isBlank) (l := s.rest),
          show s.rest.dropWhile isBlank = [] from blank, List.append_nil]
        exact List.all_takeWhile
      simpa [runsOut, allBlank] using inside
    · intro empty
      rw [skipBlanks, empty]
      rfl
  have same : s.skipBlanks.rest.isEmpty = s.rest.isEmpty := by
    rw [Bool.eq_iff_iff, List.isEmpty_iff, List.isEmpty_iff, nothingLeft]
  rw [hasNext, same]
  rfl

/-- Behind a failed call every further call fails alike, and changes nothing. -/
theorem call_of_failed (failed : (s.call lexicon .next).1 = .failed error) (c : Call) :
    (s.call lexicon .next).2.call lexicon c =
      (.stuck s.hasNext error c, (s.call lexicon .next).2) := by
  obtain ⟨fails, inside⟩ := fails_of_call_next failed
  rw [call_next_of_fails fails]
  cases c with
  | hasNext =>
    change (Answer.more s.skipBlanks.hasNext, s.skipBlanks) = _
    rw [hasNext_skipBlanks inside]
    rfl
  | next =>
    have stops := stops_skipBlanks s
    rw [call_next_of_fails fails.skipBlanks, runsOut_of_stops stops, skipBlanks_of_stops stops]
    rfl

/-! ### What is left -/

theorem text_and_rest_of_next {s' : Scanner} {token : Token}
    (done : s.next lexicon = .ok (token, s')) : s'.text = s.text ∧ s'.rest <:+ s.rest := by
  have shorter {c : Char} {rest rest' : List Char} {token : Token}
      (front : s.rest.dropWhile isBlank = c :: rest)
      (found : Token.read lexicon s.last c rest = .ok (token, rest')) : rest' <:+ s.rest := by
    obtain ⟨tail, rfl⟩ := Token.exists_tail_of_read found
    have behind : rest' <:+ c :: (tail ++ rest') := ⟨c :: tail, rfl⟩
    exact (front ▸ behind).trans (List.dropWhile_suffix isBlank)
  cases next_eq_ok_iff.1 done with
  | held _ => exact ⟨rfl, List.suffix_refl _⟩
  | read _ front found _ => exact ⟨rfl, shorter front found⟩
  | product _ front found _ => exact ⟨rfl, shorter front found⟩

structure EndsText (text : List Char) (s : Scanner) : Prop where
  same : s.text = trim text
  suffix : s.rest <:+ trim text

theorem EndsText.suffix_of_front {text : List Char} (ends : EndsText text s) {c : Char}
    {rest : List Char} (front : s.rest.dropWhile isBlank = c :: rest) : c :: rest <:+ trim text :=
  (front ▸ List.dropWhile_suffix isBlank : c :: rest <:+ s.rest).trans ends.suffix

theorem EndsText.next {text : List Char} (ends : EndsText text s) {s' : Scanner} {token : Token}
    (done : s.next lexicon = .ok (token, s')) : EndsText text s' := by
  obtain ⟨same, shorter⟩ := text_and_rest_of_next done
  exact ⟨same.trans ends.same, shorter.trans ends.suffix⟩

theorem EndsText.call {text : List Char} (ends : EndsText text s) (c : Call) :
    EndsText text (s.call lexicon c).2 := by
  cases c with
  | hasNext => exact ends
  | next =>
    unfold Scanner.call
    cases done : s.next lexicon with
    | ok result => exact ends.next done
    | error error => exact ⟨ends.same, (List.dropWhile_suffix isBlank).trans ends.suffix⟩

theorem EndsText.after {text : List Char} (ends : EndsText text s) (calls : List Call) :
    EndsText text (s.after lexicon calls) := by
  induction calls generalizing s with
  | nil => exact ends
  | cons c calls ih => exact ih (ends.call c)

theorem endsText_after (lexicon : Lexicon) (text : String) (calls : List Call) :
    EndsText text.toList ((ofText text).after lexicon calls) :=
  EndsText.after ⟨rfl, List.suffix_refl _⟩ calls

theorem EndsText.runsOut_eq_false {text : List Char} (ends : EndsText text s) :
    s.runsOut = false := by
  cases ranOut : s.runsOut with
  | false => rfl
  | true =>
    obtain ⟨someChar, blank⟩ : s.rest ≠ [] ∧ ∀ c ∈ s.rest, isBlank c = true := by
      simpa [runsOut] using ranOut
    obtain ⟨front, parts⟩ := ends.suffix
    have last : s.rest.getLast someChar ∈ (trim text).getLast? := by
      rw [← parts, List.getLast?_append, List.getLast?_eq_some_getLast someChar]
      rfl
    have visible := last_visible_of_trim text _ last
    rw [blank _ (List.getLast_mem someChar)] at visible
    cases visible

theorem after_eq_replicate (calls : List Call) :
    s.after lexicon calls = s.after lexicon (List.replicate (calls.count .next) .next) := by
  induction calls generalizing s with
  | nil => rfl
  | cons c calls ih =>
    cases c with
    | hasNext => exact ih
    | next =>
      rw [List.count_cons_self, List.replicate_succ]
      exact ih

theorem answers_append (calls later : List Call) : s.answers lexicon (calls ++ later) =
    s.answers lexicon calls ++ (s.after lexicon calls).answers lexicon later := by
  induction calls generalizing s with
  | nil => rfl
  | cons c calls ih =>
    rw [List.cons_append, answers, answers, ih]
    rfl

theorem answers_of_failed (failed : (s.call lexicon .next).1 = .failed error) (calls : List Call) :
    (s.call lexicon .next).2.answers lexicon calls = calls.map (.stuck s.hasNext error) := by
  induction calls with
  | nil => rfl
  | cons c calls ih => rw [answers, call_of_failed failed, ih, List.map_cons]

theorem Fails.within {text : List Char} (ends : EndsText text s) (fails : Fails lexicon s error) :
    error.Within (trim text) := by
  cases fails with
  | atEnd => exact ends.same
  | @stuck c rest _ _ front =>
    have inside := (ends.suffix_of_front front).length_le
    rw [List.length_cons] at inside
    exact ⟨ends.same, by rw [ends.same]; omega⟩

theorem hasNext_eq_false_iff_atEnd {text : List Char} (ends : EndsText text s) :
    s.hasNext = false ↔ (s.call lexicon .next).1 = .failed (.atEnd (trim text)) := by
  constructor
  · intro nothing
    obtain ⟨free, empty⟩ := hasNext_eq_false_iff.1 nothing
    have fails : Fails lexicon s (.atEnd s.text) := .atEnd free (by rw [empty]; rfl)
    rw [call_next_of_fails fails, ends.runsOut_eq_false, ends.same]
    rfl
  · intro failed
    -- An error at the end only says that blanks are left at most; here there are none either.
    obtain ⟨fails, inside⟩ := fails_of_call_next failed
    obtain ⟨free, blank⟩ : s.held = none ∧ s.rest.dropWhile isBlank = [] := by
      generalize trim text = text' at fails
      cases fails with
      | atEnd free blank => exact ⟨free, blank⟩
    have nothing : s.skipBlanks.hasNext = false := hasNext_eq_false_iff.2 ⟨free, blank⟩
    rwa [hasNext_skipBlanks inside] at nothing

end

/-- Calls on the scanner of a text in any order, also behind errors. A call for a token hands one
out or fails with an error about the text, and never looks behind its end; there is no more exactly
where it would tell that the text has ended; asking for more changes no later answer; and once it
has failed, it fails for that reason ever after, with as much more as before. -/
theorem answers_in_any_order (lexicon : Lexicon) (text : String) (calls : List Call) :
    let s := (ofText text).after lexicon calls
    ((∃ token, (s.call lexicon .next).1 = .token token) ∨
      ∃ error, (s.call lexicon .next).1 = .failed error ∧ error.Within (trim text.toList)) ∧
    (s.hasNext = false ↔ (s.call lexicon .next).1 = .failed (.atEnd (trim text.toList))) ∧
    (∀ calls' later, calls'.count .next = calls.count .next →
      ((ofText text).after lexicon calls').answers lexicon later = s.answers lexicon later) ∧
    ∀ error, (s.call lexicon .next).1 = .failed error → ∀ later,
      (ofText text).answers lexicon (calls ++ .next :: later) =
        (ofText text).answers lexicon calls ++
          .failed error :: later.map (.stuck s.hasNext error) := by
  intro s
  -- The invariant of all calls is that the scanner has an end of the trimmed text before it.
  have ends : EndsText text.toList s := endsText_after lexicon text calls
  refine ⟨?_, hasNext_eq_false_iff_atEnd ends, fun calls' later same => ?_,
    fun error failed later => ?_⟩
  · cases done : s.next lexicon with
    | ok result => exact .inl ⟨result.1, by rw [call, done]⟩
    | error error =>
      have fails := next_eq_error_iff.1 done
      refine .inr ⟨error, ?_, fails.within ends⟩
      rw [call_next_of_fails fails, ends.runsOut_eq_false]
      rfl
  · rw [after_eq_replicate calls', same, ← after_eq_replicate]
  · rw [answers_append, answers, failed, answers_of_failed failed]

set_option maxRecDepth 2000 in
/-- A variable is held back behind a product, and a symbol that nothing is known of stops the
scanner, with blanks in front of it. -/
theorem answers_in_any_order_stuck : ∃ error,
    error.message = "Unknown operator '$' at [4] in expression 'xx \\t$'" ∧
      (ofText " xx \t$").answers { variableNames := ["x"] }
        [.next, .next, .hasNext, .next, .next, .hasNext, .next] =
      [.token (.item (.var "x")), .token (.operator .multiplication), .more true,
        .token (.item (.var "x")), .failed error, .more true, .failed error] := by
  refine ⟨.stuck (.operator ['$']) 4 ['x', 'x', ' ', '\t', '$'], by decide +kernel, ?_⟩
  exact (answers_in_any_order { variableNames := ["x"] } " xx \t$"
    [.next, .next, .hasNext, .next]).2.2.2 _ rfl [.hasNext, .next]

end Scanner

end Formula
