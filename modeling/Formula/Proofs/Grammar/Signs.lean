import Formula.Proofs.Grammar.Arguments
import Formula.Proofs.Scanner.Reading

/-!
Signs. Whether a sign takes one operand or two is told by the token handed out before it alone.
Where an operand can end with that token the sign stands between two operands; everywhere else it
stands in front of one, but for one case: behind the name of a function it is read as if the name
ended an operand.
-/

set_option autoImplicit false

namespace Formula

open Formula.Text

def Token.precedesInfix (token : Token) : Bool := token.endsOperand || token.isFunction

theorem arityBehind_eq (last : Option Token) :
    arityBehind last = if last.any Token.precedesInfix then .binary else .unary := by
  cases last with
  | none => rfl
  | some token =>
    cases token with
    | item i =>
      cases i with
      | operator op =>
        obtain ⟨_, arity, leftAssociative, _, _, _⟩ := op
        cases arity <;> cases leftAssociative <;> rfl
      | number value => rfl
      | var name => rfl
      | function f => rfl
    | opening => rfl
    | closing => rfl
    | separator => rfl

namespace Sign

def symbol (s : Sign) : String := String.singleton s.char

def operatorBehind (s : Sign) (last : Option Token) : Operator :=
  if last.any Token.precedesInfix then s.infixed else s.prefixed

theorem arity_operatorBehind (s : Sign) (last : Option Token) :
    (s.operatorBehind last).arity = .unary ↔ last.any Token.precedesInfix = false := by
  unfold operatorBehind
  split
  · rename_i behind
    rw [s.arity_infixed, behind]
    exact iff_of_false nofun nofun
  · rename_i notBehind
    exact iff_of_true s.arity_prefixed (Bool.eq_false_iff.2 notBehind)

theorem standard?_symbol (s : Sign) (last : Option Token) :
    Operator.standard? (arityBehind last) s.symbol = some (s.operatorBehind last) := by
  rw [arityBehind_eq, operatorBehind]
  cases s <;> cases last.any Token.precedesInfix <;> rfl

end Sign

/-- The signs are left to the standard operators. -/
def Lexicon.LeavesSigns (lexicon : Lexicon) : Prop :=
  ∀ op ∈ lexicon.operators, ∀ s : Sign, op.symbol ≠ s.symbol

/-- If the token is an operator written with a sign, then the one that the sign stands for behind
the given token. -/
def Token.SignedBehind (last : Option Token) (token : Token) : Prop :=
  ∀ (op : Operator) (s : Sign), token = .operator op → op.symbol = s.symbol →
    op = s.operatorBehind last

section
variable {lexicon : Lexicon}

theorem Token.signedBehind_of_read (leaves : lexicon.LeavesSigns) {last : Option Token} {c : Char}
    {rest rest' : List Char} {token : Token}
    (done : read lexicon last c rest = .ok (token, rest')) : token.SignedBehind last := by
  rintro op s rfl sign
  obtain ⟨chars, _, taken⟩ := taken_of_read done
  cases taken with
  | @operator symbol _ _ known =>
    -- Only division has a symbol that it need not be written with.
    obtain written | ⟨_, rfl⟩ := symbol_of_operator? known
    · rw [← written, sign, Lexicon.operator?,
        Lexicon.ownOperator?_eq_none_iff.2 fun own member => leaves own member s, Option.none_or,
        s.standard?_symbol last] at known
      exact (Option.some.inj known).symm
    · cases s <;> exact absurd sign (by decide)
  | name _ known =>
    unfold Lexicon.name? at known
    split at known
    · cases known
    · simp at known

theorem Token.signedBehind_of_startsValue {last : Option Token} {token : Token}
    (starts : token.startsValue = true) : token.SignedBehind last := by
  rintro op s rfl
  cases starts

theorem lastOf_eq (last : Option Token) (tokens : List Token) :
    lastOf last tokens = tokens.getLast?.or last := by
  induction tokens generalizing last with
  | nil => rfl
  | cons token tokens ih =>
    rw [show lastOf last (token :: tokens) = lastOf (some token) tokens from rfl, ih,
      List.getLast?_cons]
    cases tokens.getLast? <;> rfl

namespace Scanner

theorem impliedProduct_signedBehind (last : Option Token) : impliedProduct.SignedBehind last := by
  rintro op s same sign
  obtain rfl : Operator.multiplication = op := by
    simpa [impliedProduct, Token.operator] using same
  cases s <;> exact absurd sign (by decide)

/-- A call hands out a sign as what it stands for behind the token handed out before, and never
holds back a sign. -/
theorem next_signed (leaves : lexicon.LeavesSigns) {s s' : Scanner} {token : Token}
    (held : ∀ token ∈ s.held, token.startsValue = true) (done : s.next lexicon = .ok (token, s')) :
    token.SignedBehind s.last ∧ s'.last = some token ∧
      ∀ token ∈ s'.held, token.startsValue = true := by
  cases next_eq_ok_iff.1 done with
  | held waiting => exact ⟨Token.signedBehind_of_startsValue (held token waiting), rfl, nofun⟩
  | read _ _ found _ => exact ⟨Token.signedBehind_of_read leaves found, rfl, held⟩
  | product _ _ _ implied =>
    refine ⟨impliedProduct_signedBehind s.last, rfl, fun token' same => ?_⟩
    cases same
    exact startsValue_of_implies implied

theorem run_signed (leaves : lexicon.LeavesSigns) {s : Scanner}
    (held : ∀ token ∈ s.held, token.startsValue = true) {front back : List Token} {token : Token}
    (scanned : (s.run lexicon).1 = front ++ token :: back) :
    token.SignedBehind (lastOf s.last front) := by
  induction s using run.induct lexicon generalizing front with
  | case1 s _ first s' done _ _ _ ih =>
    obtain ⟨signed, last, held'⟩ := next_signed leaves held done
    rw [run_next done] at scanned
    cases front with
    | nil =>
      obtain ⟨rfl, _⟩ := List.cons.inj scanned
      exact signed
    | cons first' front =>
      obtain ⟨rfl, later⟩ := List.cons.inj scanned
      have behind := ih held' later
      rwa [last] at behind
  | case2 s more error stuck =>
    rw [run_stuck more stuck] at scanned
    simp at scanned
  | case3 s done =>
    rw [run_done (by simpa using done)] at scanned
    simp at scanned

end Scanner

/-- Where the signs are left to the standard operators, a token with the symbol of a sign is the
standard operator of one operand if the token in front of it neither ends an operand nor is the name
of a function, and the standard operator of two operands otherwise. -/
theorem sign_of_run (leaves : lexicon.LeavesSigns) (text : String) (front back : List Token)
    {op : Operator} {s : Sign} (sign : op.symbol = s.symbol)
    (scanned : ((Scanner.ofText text).run lexicon).1 = front ++ .operator op :: back) :
    (op = s.prefixed ∨ op = s.infixed) ∧
      (op.arity = .unary ↔ front.getLast?.any Token.endsOperand = false ∧
        front.getLast?.any Token.isFunction = false) := by
  have read : op = s.operatorBehind front.getLast? := by
    have signed := Scanner.run_signed leaves (s := .ofText text) nofun scanned op s rfl sign
    rwa [show (Scanner.ofText text).last = none from rfl, lastOf_eq, Option.or_none] at signed
  constructor
  · rw [read, Sign.operatorBehind]
    split
    · exact .inr rfl
    · exact .inl rfl
  · rw [read, s.arity_operatorBehind]
    cases front.getLast? with
    | none => exact iff_of_true rfl ⟨rfl, rfl⟩
    | some token => simp [Token.precedesInfix]

end

def increment : Operator where
  symbol := "++"
  arity := .unary
  leftAssociative := true
  precedence := 20000
  apply := Rule.unary fun operand => Rule.lift (operand.add (.ofNat 1))

def incrementLexicon : Lexicon where
  variableNames := ["x"]
  operators := [increment]

def incrementLessNegative : List Word :=
  [⟨"x", .item (.var "x")⟩, ⟨"++", .operator increment⟩, ⟨"-", .operator .subtraction⟩,
    ⟨"-", .operator .negation⟩, ⟨"x", .item (.var "x")⟩]

theorem reads_incrementLessNegative : ReadsAll incrementLexicon none incrementLessNegative :=
  ⟨Word.reads_name (by decide) rfl rfl, Word.reads_operator (by decide) rfl,
    Word.reads_operator (by decide) rfl, Word.reads_operator (by decide) rfl,
    Word.reads_name (by decide) rfl rfl, trivial⟩

theorem sign_of_run_incrementLessNegative :
    spacedText incrementLessNegative = "x ++ - - x" ∧ incrementLexicon.LeavesSigns ∧
      (Scanner.ofText (spacedText incrementLessNegative)).run incrementLexicon =
        (incrementLessNegative.map Word.token, none) ∧
      (Operator.subtraction.arity = .unary ↔
        (Token.operator increment).endsOperand = false ∧
          (Token.operator increment).isFunction = false) ∧
      (Operator.negation.arity = .unary ↔
        (Token.operator .subtraction).endsOperand = false ∧
          (Token.operator .subtraction).isFunction = false) := by
  have leaves : incrementLexicon.LeavesSigns := by
    intro op member s
    rw [List.mem_singleton.1 member]
    cases s <;> decide
  have scanned := run_spacedText reads_incrementLessNegative
  have tokens := congrArg Prod.fst scanned
  have behindPostfix := sign_of_run leaves _ [_, _] _ (s := .minus) rfl tokens
  have behindSign := sign_of_run leaves _ [_, _, _] _ (s := .minus) rfl tokens
  exact ⟨by decide, leaves, scanned, behindPostfix.2, behindSign.2⟩

def magnitudeOfNegative : List Word :=
  [⟨"abs", .item (.function .magnitude)⟩, ⟨"-", .operator .subtraction⟩, (digit {} 1).word]

theorem reads_magnitudeOfNegative : ReadsAll {} none magnitudeOfNegative :=
  ⟨Word.reads_name (by decide) rfl rfl, Word.reads_operator (by decide) rfl,
    (digit {} 1).reads_word (expectsOperand_operator (.inl rfl)), trivial⟩

/-- Not every sign without an operand in front of it is read as standing in front of one. -/
theorem magnitudeOfNegative_not_prefixed :
    spacedText magnitudeOfNegative = "abs - 1" ∧
      (Scanner.ofText (spacedText magnitudeOfNegative)).run {} =
        ([.item (.function .magnitude), .operator .subtraction, (digit {} 1).word.token], none) ∧
      ¬∀ (lexicon : Lexicon) (text : String) (front back : List Token) (op : Operator) (s : Sign),
        lexicon.LeavesSigns → op.symbol = s.symbol →
          ((Scanner.ofText text).run lexicon).1 = front ++ .operator op :: back →
          (op.arity = .unary ↔ front.getLast?.any Token.endsOperand = false) := by
  have scanned := run_spacedText reads_magnitudeOfNegative
  refine ⟨by decide, scanned, fun always => ?_⟩
  have oneOperand := (always {} _ [.item (.function .magnitude)] _ .subtraction .minus nofun rfl
    (congrArg Prod.fst scanned)).2 rfl
  cases oneOperand

end Formula
