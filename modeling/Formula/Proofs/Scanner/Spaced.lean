import Formula.Proofs.Conversion.Pending
import Formula.Proofs.Scanner.Run
import Formula.Proofs.Token.Word

/-!
Texts of words with single spaces between them are scanned into the tokens of their words.
-/

set_option autoImplicit false

namespace Formula

open Formula.Text

def spacedText (words : List Word) : String := " ".intercalate (words.map Word.text)

/-- Each word is read behind the word in front of it, the first one behind the given token. -/
def ReadsAll (lexicon : Lexicon) : Option Token → List Word → Prop
  | _, [] => True
  | last, w :: words => w.Reads lexicon last ∧ ReadsAll lexicon (some w.token) words

def lastToken (last : Option Token) (words : List Word) : Option Token :=
  (words.getLast?.map Word.token).or last

section
variable {lexicon : Lexicon} {last : Option Token}

theorem lastToken_cons (last : Option Token) (w : Word) (words : List Word) :
    lastToken last (w :: words) = lastToken (some w.token) words := by
  cases words with
  | nil => rfl
  | cons w' words => simp [lastToken, List.getLast?_cons]

theorem lastToken_append (last : Option Token) (words words' : List Word) :
    lastToken last (words ++ words') = lastToken (lastToken last words) words' := by
  induction words generalizing last with
  | nil => rfl
  | cons w words ih => rw [List.cons_append, lastToken_cons, lastToken_cons, ih]

theorem lastToken_append_cons (last : Option Token) (words words' : List Word) (w : Word) :
    lastToken last (words ++ w :: words') = lastToken (some w.token) words' := by
  rw [lastToken_append, lastToken_cons]

theorem readsAll_append {words words' : List Word} (reads : ReadsAll lexicon last words)
    (reads' : ReadsAll lexicon (lastToken last words) words') :
    ReadsAll lexicon last (words ++ words') := by
  induction words generalizing last with
  | nil => exact reads'
  | cons w words ih =>
    rw [lastToken_cons] at reads'
    exact ⟨reads.1, ih reads.2 reads'⟩

/-! ### The characters of spaced words -/

def behind (words : List Word) : List Char := words.flatMap fun w => ' ' :: w.text.toList

theorem spacedText_cons (w : Word) (words : List Word) :
    (spacedText (w :: words)).toList = w.text.toList ++ behind words := by
  induction words generalizing w with
  | nil => simp [spacedText, behind]
  | cons w' words ih =>
    have inner := ih w'
    simp only [spacedText, List.map_cons, String.toList_intercalate] at inner ⊢
    rw [List.intercalate_cons_cons, inner]
    simp [behind]

theorem spaced_behind (words : List Word) : Spaced (behind words) := by
  cases words with
  | nil => intro c next; cases next
  | cons w words =>
    intro c next
    cases next
    decide

theorem last_visible_of_readsAll {w : Word} {words : List Word}
    (reads : ReadsAll lexicon last (w :: words)) :
    ∀ c ∈ (w.text.toList ++ behind words).getLast?, isBlank c = false := by
  induction words generalizing last w with
  | nil => simpa [behind] using reads.1.lastVisible
  | cons w' words ih =>
    have inner := ih reads.2
    have splitWords : w.text.toList ++ behind (w' :: words) =
        (w.text.toList ++ [' ']) ++ (w'.text.toList ++ behind words) := by simp [behind]
    have someChar : w'.text.toList ++ behind words ≠ [] := by simp [reads.2.1.ne_nil]
    rw [splitWords, List.getLast?_append, List.getLast?_eq_some_getLast someChar,
      Option.some_or]
    rwa [List.getLast?_eq_some_getLast someChar] at inner

theorem first_visible_of_readsAll {w : Word} {words : List Word}
    (reads : ReadsAll lexicon last (w :: words)) :
    ∀ c ∈ (w.text.toList ++ behind words).head?, isBlank c = false := by
  have visible := reads.1.firstVisible
  have someChar := reads.1.ne_nil
  cases chars : w.text.toList with
  | nil => exact absurd chars someChar
  | cons c rest =>
    rw [chars] at visible
    exact visible

/-! ### Scanning -/

namespace Scanner

theorem next_word {s : Scanner} {w : Word} {rest : List Char} (reads : w.Reads lexicon s.last)
    (free : s.held = none) (front : s.rest.dropWhile isBlank = w.text.toList ++ rest)
    (spaced : Spaced rest) :
    s.next lexicon = .ok (w.token, { s with rest, last := some w.token }) := by
  obtain ⟨first, tail, chars⟩ := List.exists_cons_of_ne_nil reads.ne_nil
  rw [chars, List.cons_append] at front
  simp only [next, free, front, reads.reads first tail rest chars spaced, handOut,
    reads.notImplied, Bool.false_eq_true, if_false]

theorem run_behind {s : Scanner} {words : List Word} (reads : ReadsAll lexicon s.last words)
    (free : s.held = none) (rest : s.rest = behind words) :
    s.run lexicon = (words.map Word.token, none) := by
  induction words generalizing s with
  | nil => exact run_done (by simp [hasNext, free, rest, behind])
  | cons w words ih =>
    have front : s.rest.dropWhile isBlank = w.text.toList ++ behind words := by
      rw [rest, behind, List.flatMap_cons, List.cons_append,
        List.dropWhile_cons_of_pos (by decide)]
      exact dropWhile_of_stops (first_visible_of_readsAll reads)
    rw [run_next (next_word reads.1 free front (spaced_behind words))]
    have later := ih (s := { s with rest := behind words, last := some w.token }) reads.2 free rfl
    rw [later, List.map_cons]

end Scanner

/-- A text of words is scanned into their tokens, up to its end. -/
theorem run_spacedText {words : List Word} (reads : ReadsAll lexicon none words) :
    (Scanner.ofText (spacedText words)).run lexicon = (words.map Word.token, none) := by
  cases words with
  | nil => exact Scanner.run_done (by decide)
  | cons w words =>
    -- The text has no blanks at its ends, so that trimming leaves it as it is.
    have first := first_visible_of_readsAll reads
    have trimmed := trim_of_visible_ends first (last_visible_of_readsAll reads)
    have front : (Scanner.ofText (spacedText (w :: words))).rest.dropWhile isBlank =
        w.text.toList ++ behind words := by
      rw [Scanner.ofText, Scanner.start, spacedText_cons, trimmed]
      exact dropWhile_of_stops first
    rw [Scanner.run_next (Scanner.next_word reads.1 rfl front (spaced_behind words)),
      Scanner.run_behind reads.2 rfl rfl, List.map_cons]

theorem toPostfix_spacedText {words : List Word} (reads : ReadsAll lexicon none words)
    (someWord : words ≠ []) : toPostfix lexicon (spacedText words) =
      arrange (spacedText words) (words.map Word.token) none := by
  obtain ⟨w, words', rfl⟩ := List.exists_cons_of_ne_nil someWord
  have visible : (spacedText (w :: words')).toList.all isBlank = false := by
    obtain ⟨c, tail, chars⟩ := List.exists_cons_of_ne_nil reads.1.ne_nil
    have first := reads.1.firstVisible c (by rw [chars]; rfl)
    rw [spacedText_cons, chars, List.cons_append, List.all_cons, first, Bool.false_and]
  rw [toPostfix, visible, if_neg Bool.false_ne_true, run_spacedText reads]

theorem toPostfix_of_pushAll {words : List Word} (reads : ReadsAll lexicon none words)
    (someWord : words ≠ []) {pending : List Operator} {output items : List Item}
    (done : Yard.pushAll (spacedText words) {} (words.map Word.token) =
      .ok ⟨Yard.above pending [], output⟩)
    (flushed : Yard.flush pending output = items.reverse) (someItem : items ≠ []) :
    toPostfix lexicon (spacedText words) = .ok items := by
  rw [toPostfix_spacedText reads someWord, arrange, ← Yard.pushAll, done]
  exact Yard.finish_above flushed someItem

end

end Formula
