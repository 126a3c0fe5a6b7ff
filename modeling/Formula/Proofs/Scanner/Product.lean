import Formula.Proofs.Scanner.Reading

/-!
Implied products. What a run hands out is what is read from the text, piece by piece, with a
product put in wherever one factor ends and the next one begins. Nothing that is read depends on the
products that were put in before.
-/

set_option autoImplicit false

namespace Formula

open Formula.Text

namespace Token

inductive EndsFactor : Token → Prop where
  | number (value : Decimal) : EndsFactor (.number value)
  | var (name : String) : EndsFactor (.item (.var name))
  | closing : EndsFactor .closing

inductive StartsFactor : Token → Prop where
  | number (value : Decimal) : StartsFactor (.number value)
  | var (name : String) : StartsFactor (.item (.var name))
  | function (f : Function) : StartsFactor (.item (.function f))
  | opening : StartsFactor .opening

theorem mayMultiply_iff {token : Token} : token.mayMultiply = true ↔ token.EndsFactor := by
  constructor
  · intro ends
    cases token with
    | item i =>
      cases i with
      | number value => exact .number value
      | var name => exact .var name
      | operator op => cases ends
      | function f => cases ends
    | closing => exact .closing
    | opening => cases ends
    | separator => cases ends
  · rintro (_ | _ | _) <;> rfl

theorem startsValue_iff {token : Token} : token.startsValue = true ↔ token.StartsFactor := by
  constructor
  · intro starts
    cases token with
    | item i =>
      cases i with
      | number value => exact .number value
      | var name => exact .var name
      | operator op => cases starts
      | function f => exact .function f
    | opening => exact .opening
    | closing => cases starts
    | separator => cases starts
  · rintro (_ | _ | _ | _) <;> rfl

instance (token : Token) : Decidable token.EndsFactor := decidable_of_iff _ mayMultiply_iff

instance (token : Token) : Decidable token.StartsFactor := decidable_of_iff _ startsValue_iff

end Token

def insertProducts : List Token → List Token
  | a :: b :: rest =>
    if a.EndsFactor ∧ b.StartsFactor then a :: Scanner.impliedProduct :: insertProducts (b :: rest)
    else a :: insertProducts (b :: rest)
  | tokens => tokens

/-- The tokens of a text with the products that its lexicon implies. -/
def Lexicon.withProducts (lexicon : Lexicon) (tokens : List Token) : List Token :=
  if lexicon.impliedProducts then insertProducts tokens else tokens

namespace Scanner

section
variable {lexicon : Lexicon} {last : Option Token}

theorem implies_of_not_impliedProducts (off : lexicon.impliedProducts = false)
    (last : Option Token) (token : Token) : implies lexicon last token = false := by
  simp [implies, off]

theorem implies_iff (on : lexicon.impliedProducts = true) {a b : Token} :
    implies lexicon (some a) b = true ↔ a.EndsFactor ∧ b.StartsFactor := by
  simp [implies, on, Token.mayMultiply_iff, Token.startsValue_iff]

def productBefore (lexicon : Lexicon) (last : Option Token) (token : Token) : List Token :=
  if implies lexicon last token then [impliedProduct] else []

/-- What is handed out for tokens that are read behind the given one. -/
def handedOut (lexicon : Lexicon) : Option Token → List Token → List Token
  | _, [] => []
  | last, token :: tokens =>
    productBefore lexicon last token ++ token :: handedOut lexicon (some token) tokens

theorem handedOut_of_not_impliedProducts (off : lexicon.impliedProducts = false)
    (last : Option Token) (tokens : List Token) : handedOut lexicon last tokens = tokens := by
  induction tokens generalizing last with
  | nil => rfl
  | cons token tokens ih =>
    rw [handedOut, productBefore, implies_of_not_impliedProducts off, ih]
    rfl

theorem cons_handedOut (on : lexicon.impliedProducts = true) (token : Token) (tokens : List Token) :
    token :: handedOut lexicon (some token) tokens = insertProducts (token :: tokens) := by
  induction tokens generalizing token with
  | nil => rfl
  | cons next tokens ih =>
    rw [insertProducts, ← ih next, handedOut, productBefore]
    by_cases implied : token.EndsFactor ∧ next.StartsFactor
    · rw [if_pos ((implies_iff on).2 implied), if_pos implied]
      rfl
    · rw [if_neg (implied ∘ (implies_iff on).1), if_neg implied]
      rfl

theorem handedOut_none (lexicon : Lexicon) (tokens : List Token) :
    handedOut lexicon none tokens = lexicon.withProducts tokens := by
  cases products : lexicon.impliedProducts with
  | false =>
    rw [handedOut_of_not_impliedProducts products, Lexicon.withProducts, products]
    rfl
  | true =>
    rw [Lexicon.withProducts, products, if_pos rfl]
    cases tokens with
    | nil => rfl
    | cons token tokens =>
      have first : productBefore lexicon none token = [] := by simp [productBefore, implies]
      rw [← cons_handedOut products, handedOut, first, List.nil_append]

theorem handedOut_append (last : Option Token) (tokens tokens' : List Token) :
    handedOut lexicon last (tokens ++ tokens') =
      handedOut lexicon last tokens ++ handedOut lexicon (lastOf last tokens) tokens' := by
  induction tokens generalizing last with
  | nil => rfl
  | cons token tokens ih =>
    rw [List.cons_append, handedOut, ih, handedOut, List.append_assoc]
    rfl

theorem handedOut_congr {last' : Option Token}
    (same : last.any Token.mayMultiply = last'.any Token.mayMultiply) (tokens : List Token) :
    handedOut lexicon last tokens = handedOut lexicon last' tokens := by
  cases tokens with
  | nil => rfl
  | cons token tokens =>
    have implied : implies lexicon last token = implies lexicon last' token := by
      rw [implies, implies, same]
    rw [handedOut, handedOut, productBefore, productBefore, implied]

/-! ### Runs -/

variable {whole text rest rest' : List Char} {c : Char} {token : Token} {pieces : List Piece}

/-- The token is handed out, at once or behind a product, and the text goes on with the rest. -/
def Delivers (lexicon : Lexicon) (s : Scanner) (token : Token) (rest : List Char) : Prop :=
  if implies lexicon s.last token then
    ∃ s', s.next lexicon = .ok (impliedProduct, s') ∧
      s'.next lexicon = .ok (token, { s with rest, last := some token })
  else s.next lexicon = .ok (token, { s with rest, last := some token })

theorem delivers_of_read {s : Scanner} (free : s.held = none)
    (front : s.rest.dropWhile isBlank = c :: rest)
    (found : Token.read lexicon s.last c rest = .ok (token, rest')) :
    s.Delivers lexicon token rest' := by
  unfold Delivers
  split
  · rename_i implied
    refine ⟨_, next_eq_ok_iff.2 (.product free front found implied), ?_⟩
    have handed : next lexicon { s with
        rest := rest', last := some impliedProduct, held := some token } =
      .ok (token, { s with rest := rest', last := some token, held := none }) := rfl
    rwa [← free] at handed
  · rename_i notImplied
    exact next_eq_ok_iff.2 (.read free front found (Bool.eq_false_iff.2 notImplied))

/-- A run over a token that is delivered hands it out, behind the product that is implied in front
of it, and goes on with the rest. -/
theorem run_of_delivers {s : Scanner} (delivers : s.Delivers lexicon token rest) :
    s.run lexicon = (productBefore lexicon s.last token ++
        token :: (run lexicon { s with rest, last := some token }).1,
      (run lexicon { s with rest, last := some token }).2) := by
  unfold Delivers at delivers
  unfold productBefore
  split at delivers
  · rename_i implied
    obtain ⟨s', first, second⟩ := delivers
    rw [run_next first, run_next second, if_pos implied]
    rfl
  · rename_i notImplied
    rw [run_next delivers, if_neg notImplied]
    rfl

theorem run_read (front : text.dropWhile isBlank = c :: rest)
    (done : Token.read lexicon last c rest = .ok (token, rest')) {tokens : List Token}
    {stop : Option ScanError} (later : run lexicon ⟨whole, rest', some token, none⟩ =
      (handedOut lexicon (some token) tokens, stop)) :
    run lexicon ⟨whole, text, last, none⟩ = (handedOut lexicon last (token :: tokens), stop) := by
  have delivers : Delivers lexicon ⟨whole, text, last, none⟩ token rest' :=
    delivers_of_read rfl front done
  have behind := run_of_delivers delivers
  rwa [later] at behind

theorem exists_stop_of_stuck (whole : List Char) (stuck : Stuck lexicon last rest) :
    ∃ stop : Option ScanError, (stop = none ↔ rest = []) ∧ ∀ implied : Bool,
      run { lexicon with impliedProducts := implied } ⟨whole, rest, last, none⟩ = ([], stop) := by
  by_cases nothing : rest = []
  · subst nothing
    exact ⟨none, iff_of_true rfl rfl, fun _ => run_done rfl⟩
  · have more : hasNext ⟨whole, rest, last, none⟩ = true := by
      simpa [hasNext] using nothing
    cases front : rest.dropWhile isBlank with
    | nil =>
      refine ⟨some (.atEnd whole), iff_of_false (Option.some_ne_none _) nothing, fun implied => ?_⟩
      exact run_stuck more (by simp only [next, front])
    | cons c behind =>
      obtain ⟨fault, failed⟩ := stuck c behind front
      refine ⟨some (.stuck fault (whole.length - (behind.length + 1)) whole),
        iff_of_false (Option.some_ne_none _) nothing, fun implied => ?_⟩
      replace failed : Token.read { lexicon with impliedProducts := implied } last c behind =
        .error fault := failed
      exact run_stuck more (by simp only [next, front, failed])

/-- A run hands out what is read, and ends with the same error whether products are implied or
not. -/
theorem exists_stop (whole : List Char) (reading : Reading lexicon last text pieces rest)
    (stuck : Stuck lexicon (lastOf last (pieces.map Piece.token)) rest) :
    ∃ stop : Option ScanError, (stop = none ↔ rest = []) ∧ ∀ implied : Bool,
      run { lexicon with impliedProducts := implied } ⟨whole, text, last, none⟩ =
        (handedOut { lexicon with impliedProducts := implied } last (pieces.map Piece.token),
          stop) := by
  induction reading with
  | stop => exact exists_stop_of_stuck whole stuck
  | @piece last text gap tail rest rest' c token pieces split blank visible done _ ih =>
    obtain ⟨stop, complete, runs⟩ := ih stuck
    have front : text.dropWhile isBlank = c :: (tail ++ rest) := by
      rw [split]
      exact dropWhile_gap blank visible
    refine ⟨stop, complete, fun implied => ?_⟩
    replace done : Token.read { lexicon with impliedProducts := implied } last c (tail ++ rest) =
      .ok (token, rest) := done
    exact run_read front done (runs implied)

theorem exists_run (lexicon : Lexicon) (text : String) : ∃ pieces rest, ∃ stop : Option ScanError,
    Reading lexicon none (trim text.toList) pieces rest ∧ (stop = none ↔ rest = []) ∧
      ∀ implied : Bool, (ofText text).run { lexicon with impliedProducts := implied } =
        ({ lexicon with impliedProducts := implied }.withProducts (pieces.map Piece.token),
          stop) := by
  obtain ⟨pieces, rest, reading, stuck⟩ := exists_reading lexicon none (trim text.toList)
  obtain ⟨stop, complete, runs⟩ := exists_stop (trim text.toList) reading stuck
  refine ⟨pieces, rest, stop, reading, complete, fun implied => ?_⟩
  rw [← handedOut_none]
  exact runs implied

theorem scanned_trimmed_iff {text : String} {tokens : List Token} :
    (ofText text).run lexicon = (tokens, none) ↔
      ∃ pieces, Reading lexicon none (trim text.toList) pieces [] ∧
        tokens = lexicon.withProducts (pieces.map Piece.token) := by
  constructor
  · intro scanned
    obtain ⟨pieces, rest, stop, reading, complete, runs⟩ := exists_run lexicon text
    have same := scanned.symm.trans (runs lexicon.impliedProducts)
    rw [Prod.mk.injEq] at same
    obtain rfl := complete.1 same.2.symm
    exact ⟨pieces, reading, same.1⟩
  · rintro ⟨pieces, reading, rfl⟩
    have stuck : Stuck lexicon (lastOf none (pieces.map Piece.token)) [] := nofun
    obtain ⟨stop, complete, runs⟩ := exists_stop (trim text.toList) reading stuck
    rw [← handedOut_none, ← complete.2 rfl]
    exact runs lexicon.impliedProducts

/-- A text is scanned to its end exactly if it is read up to blanks. -/
theorem scanned_iff {text : String} {tokens : List Token} :
    (ofText text).run lexicon = (tokens, none) ↔
      ∃ pieces rest, ReadAs lexicon text.toList pieces rest ∧
        tokens = lexicon.withProducts (pieces.map Piece.token) := by
  rw [scanned_trimmed_iff]
  constructor
  · rintro ⟨pieces, reading, rfl⟩
    obtain ⟨pieces', rest, reading', blank, same⟩ := reading.untrimmed
    exact ⟨pieces', rest, ⟨reading', blank⟩, by rw [same]⟩
  · rintro ⟨pieces, rest, ⟨reading, blank⟩, rfl⟩
    obtain ⟨pieces', reading', _, same⟩ := reading.trimmed blank
    exact ⟨pieces', reading', by rw [same]⟩

end

end Scanner

/-- Implied products are put in between the tokens of a text, one wherever a factor ends and another
begins, and change nothing else: not the other tokens, and not the error that the text ends with. -/
theorem run_impliedProducts (lexicon : Lexicon) (text : String) :
    (Scanner.ofText text).run { lexicon with impliedProducts := true } =
      let off := (Scanner.ofText text).run { lexicon with impliedProducts := false }
      (insertProducts off.1, off.2) := by
  obtain ⟨pieces, rest, stop, _, _, runs⟩ := Scanner.exists_run lexicon text
  rw [runs true, runs false]
  rfl

end Formula
