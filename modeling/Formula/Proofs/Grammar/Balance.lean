import Mathlib
import Formula.Proofs.Conversion.Conservation
import Formula.Proofs.Grammar.Arrangement
import Formula.Proofs.Grammar.Chain
import Formula.Proofs.Program.Inspection

/-!
The balance of a formula. Checking a program only counts its values, and what it counts can be told
from the formula: at how many places between two tokens an operand is missing, and at how many one
ends where another one begins. If the program is valid the ones make up for the others, and for the
separators and calls, wherever in the formula they are.
-/

set_option autoImplicit false

namespace Formula

namespace Token

def endsOperand : Token → Bool
  | .item (.number _) | .item (.var _) | .closing => true
  | .item (.operator op) => op.isUnary && op.leftAssociative
  | .item (.function _) | .opening | .separator => false

def startsOperand : Token → Bool
  | .item (.number _) | .item (.var _) | .item (.function _) | .opening => true
  | .item (.operator op) => op.isPrefixed
  | .closing | .separator => false

def isBinary : Token → Bool
  | .item (.operator op) => !op.isUnary
  | .item (.number _) | .item (.var _) | .item (.function _) | .opening | .closing
  | .separator => false

def isSeparator : Token → Bool
  | .separator => true
  | .item _ | .opening | .closing => false

def isFunction : Token → Bool
  | .item (.function _) => true
  | .item (.number _) | .item (.var _) | .item (.operator _) | .opening | .closing
  | .separator => false

def argumentCount : Token → Nat
  | .item (.function f) => f.argumentCount
  | .item (.number _) | .item (.var _) | .item (.operator _) | .opening | .closing
  | .separator => 0

end Token

def separators (tokens : List Token) : Nat := tokens.countP Token.isSeparator

def functions (tokens : List Token) : Nat := tokens.countP Token.isFunction

def argumentsTaken (tokens : List Token) : Nat := (tokens.map Token.argumentCount).sum

/-- A place between two tokens or at an end of a formula, by the tokens before it, the latest first,
and those behind it. -/
structure Place where
  before : List Token
  after : List Token

namespace Place

def endsOperand (p : Place) : Bool := p.before.head?.any Token.endsOperand

def startsOperand (p : Place) : Bool := p.after.head?.any Token.startsOperand

/-- An operand is missing: none ends before the place, and none begins behind it. -/
def isVacant (p : Place) : Bool := !p.endsOperand && !p.startsOperand

/-- Two operands stand side by side, with nothing between them. -/
def isCrowded (p : Place) : Bool := p.endsOperand && p.startsOperand

def besideBinary (p : Place) : Bool :=
  p.before.head?.any Token.isBinary || p.after.head?.any Token.isBinary

end Place

def places (before : List Token) : List Token → List Place
  | [] => [⟨before, []⟩]
  | token :: after => ⟨before, token :: after⟩ :: places (token :: before) after

def vacancies (tokens : List Token) : Nat := (places [] tokens).countP Place.isVacant

/-- The places where an operand is missing, but not one of an operator of two operands. -/
def otherVacancies (tokens : List Token) : Nat :=
  (places [] tokens).countP fun p => p.isVacant && !p.besideBinary

def sideBySide (tokens : List Token) : Nat := (places [] tokens).countP Place.isCrowded

/-- Each operator of two operands stands directly behind an operand and directly before one. -/
def Infixed (tokens : List Token) : Prop :=
  ∀ front op rest, tokens = front ++ .operator op :: rest → op.arity = .binary →
    front.getLast?.any Token.endsOperand = true ∧ rest.head?.any Token.startsOperand = true

/-! ### Places -/

theorem mem_places_iff {before tokens : List Token} {p : Place} :
    p ∈ places before tokens ↔
      ∃ front rest, tokens = front ++ rest ∧ p = ⟨front.reverse ++ before, rest⟩ := by
  induction tokens generalizing before with
  | nil =>
    rw [places, List.mem_singleton]
    constructor
    · rintro rfl
      exact ⟨[], [], rfl, rfl⟩
    · rintro ⟨front, rest, split, rfl⟩
      obtain ⟨rfl, rfl⟩ := List.append_eq_nil_iff.1 split.symm
      rfl
  | cons token tokens ih =>
    rw [places, List.mem_cons, ih]
    constructor
    · rintro (rfl | ⟨front, rest, rfl, rfl⟩)
      · exact ⟨[], _, rfl, rfl⟩
      · exact ⟨token :: front, rest, rfl, by simp⟩
    · rintro ⟨front, rest, split, rfl⟩
      cases front with
      | nil => exact .inl (by rw [split]; rfl)
      | cons first front =>
        obtain ⟨rfl, rfl⟩ := List.cons.inj split
        exact .inr ⟨front, rest, rfl, by simp⟩

theorem length_places (before tokens : List Token) :
    (places before tokens).length = tokens.length + 1 := by
  induction tokens generalizing before with
  | nil => rfl
  | cons token tokens ih => rw [places, List.length_cons, ih, List.length_cons]

theorem countP_startsOperand (before tokens : List Token) :
    (places before tokens).countP Place.startsOperand = tokens.countP Token.startsOperand := by
  induction tokens generalizing before with
  | nil => rfl
  | cons token tokens ih =>
    rw [places, List.countP_cons, List.countP_cons, ih]
    rfl

/-- Each token is the last one before a single place, and the token given from before is so before
the first place. -/
theorem countP_last (q : Token → Bool) (before tokens : List Token) :
    (places before tokens).countP (fun p => p.before.head?.any q) =
      tokens.countP q + if before.head?.any q then 1 else 0 := by
  induction tokens generalizing before with
  | nil => exact List.countP_cons
  | cons token tokens ih =>
    rw [places, List.countP_cons, List.countP_cons, ih]
    rfl

theorem countP_endsOperand (before tokens : List Token) :
    (places before tokens).countP Place.endsOperand =
      tokens.countP Token.endsOperand + if before.head?.any Token.endsOperand then 1 else 0 :=
  countP_last Token.endsOperand before tokens

theorem countP_split {α : Type} (p q : α → Bool) (l : List α) :
    l.countP p = l.countP (fun a => p a && q a) + l.countP fun a => p a && !q a := by
  rw [List.countP_eq_countP_filter_add l p q, List.countP_filter, List.countP_filter]

theorem countP_neither {α : Type} (p q : α → Bool) (l : List α) :
    l.countP (fun a => !p a && !q a) + (l.countP p + l.countP q) =
      l.countP (fun a => p a && q a) + l.length := by
  induction l with
  | nil => rfl
  | cons a l ih =>
    simp only [List.countP_cons, List.length_cons]
    cases p a <;> cases q a <;> simp <;> omega

theorem vacancies_add (tokens : List Token) :
    vacancies tokens + (tokens.countP Token.endsOperand + tokens.countP Token.startsOperand) =
      sideBySide tokens + (tokens.length + 1) := by
  have counted := countP_neither Place.endsOperand Place.startsOperand (places [] tokens)
  rw [countP_endsOperand, countP_startsOperand, length_places] at counted
  exact counted

/-! ### Tokens and items -/

def valuesTaken (items : List Item) : Nat := (items.map Item.count).sum

/-- With an item an operand begins and ends, less one of the two for each value that the item takes,
and with a bracket it does one of the two. Separators do neither, and functions do not end one. -/
theorem Token.operands_eq (token : Token) :
    (if token.endsOperand then 1 else 0) + (if token.startsOperand then 1 else 0) +
        (if token.isSeparator then 1 else 0) + (if token.isFunction then 1 else 0) +
        valuesTaken token.item?.toList =
      1 + token.item?.toList.length + token.argumentCount := by
  cases token with
  | item i =>
    cases i with
    | number value => rfl
    | var name => rfl
    | operator op =>
      cases arity : op.arity <;> cases side : op.leftAssociative <;>
        simp [endsOperand, startsOperand, isSeparator, isFunction, argumentCount, item?,
          valuesTaken, Operator.isPrefixed, Operator.isUnary, Item.count, Arity.count, arity, side]
    | function f =>
      simp [endsOperand, startsOperand, isSeparator, isFunction, argumentCount, item?, valuesTaken,
        Item.count]
  | opening => rfl
  | closing => rfl
  | separator => rfl

theorem countP_operands (tokens : List Token) :
    tokens.countP Token.endsOperand + tokens.countP Token.startsOperand + separators tokens +
        functions tokens + valuesTaken (tokens.filterMap Token.item?) =
      tokens.length + (tokens.filterMap Token.item?).length + argumentsTaken tokens := by
  induction tokens with
  | nil => rfl
  | cons token tokens ih =>
    have adds := token.operands_eq
    have items : (token :: tokens).filterMap Token.item? =
        token.item?.toList ++ tokens.filterMap Token.item? := by
      cases found : token.item? <;> simp [found]
    simp only [separators, functions, argumentsTaken, valuesTaken] at ih adds ⊢
    rw [items, List.map_append, List.sum_append, List.length_append, List.map_cons, List.sum_cons]
    simp only [List.countP_cons, List.length_cons]
    omega

theorem depth_of_inspect {isBound : String → Bool} {items : List Item} {depth depth' : Int}
    {found : List Complaint} (checked : inspect isBound depth items = (found, some depth')) :
    depth' + valuesTaken items = depth + items.length := by
  induction items generalizing depth found with
  | nil =>
    cases checked
    rfl
  | cons i items ih =>
    have enough := enough_of_inspect checked
    rw [inspect_cons_of_enough enough, Prod.mk.injEq] at checked
    have behind := ih (Prod.ext rfl checked.2)
    rw [i.depthBehind_eq] at behind
    rw [valuesTaken, List.map_cons, List.sum_cons, ← valuesTaken, List.length_cons]
    omega

theorem length_of_valid {items : List Item} {bindings : Bindings} {checkVariables : Bool}
    (valid : validate items bindings checkVariables = []) :
    1 + valuesTaken items = items.length := by
  have counted := depth_of_inspect (validate_eq_nil_iff.1 valid)
  omega

theorem valuesTaken_perm {items items' : List Item} (perm : items.Perm items') :
    valuesTaken items = valuesTaken items' := (perm.map Item.count).sum_nat

theorem balance_of_arrange {text : String} {tokens : List Token} {items : List Item}
    {bindings : Bindings} {checkVariables : Bool} (arranged : arrange text tokens none = .ok items)
    (valid : validate items bindings checkVariables = []) :
    vacancies tokens + argumentsTaken tokens =
      sideBySide tokens + separators tokens + functions tokens := by
  -- The items of the program are those of the tokens, in another order.
  have perm := arrange_perm arranged
  have values := length_of_valid valid
  rw [valuesTaken_perm perm, perm.length_eq] at values
  have around := vacancies_add tokens
  have along := countP_operands tokens
  omega

/-! ### Operators of two operands -/

theorem Token.isBinary_iff {token : Token} :
    token.isBinary = true ↔ ∃ op, token = .operator op ∧ op.arity = .binary := by
  constructor
  · intro binary
    unfold isBinary at binary
    split at binary
    · rename_i op
      exact ⟨op, rfl, by cases arity : op.arity <;> simp_all [Operator.isUnary]⟩
    all_goals cases binary
  · rintro ⟨op, rfl, two⟩
    simp [isBinary, operator, Operator.isUnary, two]

theorem Token.no_operand_of_isBinary {token : Token} (binary : token.isBinary = true) :
    token.endsOperand = false ∧ token.startsOperand = false := by
  obtain ⟨op, rfl, two⟩ := isBinary_iff.1 binary
  simp [operator, endsOperand, startsOperand, Operator.isPrefixed, Operator.isUnary, two]

theorem Place.isVacant_iff {p : Place} :
    p.isVacant = true ↔ p.endsOperand = false ∧ p.startsOperand = false := by
  simp [isVacant]

/-- An operator of two operands lacks one of them exactly if a place beside it is vacant. -/
theorem infixed_iff {tokens : List Token} :
    Infixed tokens ↔ ∀ p ∈ places [] tokens, ¬(p.isVacant = true ∧ p.besideBinary = true) := by
  constructor
  · rintro infixed p member ⟨vacant, beside⟩
    obtain ⟨front, rest, rfl, rfl⟩ := mem_places_iff.1 member
    rw [Place.isVacant_iff] at vacant
    simp only [Place.endsOperand, Place.startsOperand, List.append_nil, List.head?_reverse,
      Place.besideBinary, Bool.or_eq_true, Option.any_eq_true] at vacant beside
    obtain ⟨token, last, binary⟩ | ⟨token, first, binary⟩ := beside
    · obtain ⟨op, rfl, two⟩ := Token.isBinary_iff.1 binary
      obtain ⟨front, rfl⟩ := List.getLast?_eq_some_iff.1 last
      have begins := (infixed front op rest (by simp) two).2
      rw [vacant.2] at begins
      cases begins
    · obtain ⟨op, rfl, two⟩ := Token.isBinary_iff.1 binary
      obtain ⟨rest, rfl⟩ := List.head?_eq_some_iff.1 first
      have ends := (infixed front op rest rfl two).1
      rw [vacant.1] at ends
      cases ends
  · rintro noneVacant front op rest rfl two
    have binary := Token.isBinary_iff.2 ⟨op, rfl, two⟩
    have apart := Token.no_operand_of_isBinary binary
    -- The places on either side of the operator have no operand on the side of the operator itself.
    have left := noneVacant _ (mem_places_iff.2 ⟨front, .operator op :: rest, rfl, rfl⟩)
    have right := noneVacant _ (mem_places_iff.2 ⟨front ++ [.operator op], rest, by simp, rfl⟩)
    simp only [Place.isVacant_iff, Place.endsOperand, Place.startsOperand, Place.besideBinary,
      List.append_nil, List.head?_reverse, List.head?_cons, Option.any_some, binary, apart,
      Bool.or_true, and_true, Bool.not_eq_false] at left
    simp only [Place.isVacant_iff, Place.endsOperand, Place.startsOperand, Place.besideBinary,
      List.append_nil, List.head?_reverse, List.getLast?_concat, Option.any_some, binary, apart,
      Bool.true_or, true_and, and_true, Bool.not_eq_false] at right
    exact ⟨left, right⟩

/-- In a formula with a valid program the places without an operand and the arguments that its
functions take are together as many as the operands side by side, the separators and the functions.
So each operator of two operands has them on either side of it exactly if there are no more operands
side by side, separators and functions than arguments taken and other places without an operand. -/
theorem balance_of_valid {lexicon : Lexicon} {text : String} {items : List Item}
    {bindings : Bindings} {checkVariables : Bool} (converted : toPostfix lexicon text = .ok items)
    (valid : validate items bindings checkVariables = []) :
    ∃ tokens, (Scanner.ofText text).run lexicon = (tokens, none) ∧
      vacancies tokens + argumentsTaken tokens =
        sideBySide tokens + separators tokens + functions tokens ∧
      (Infixed tokens ↔ sideBySide tokens + separators tokens + functions tokens ≤
        argumentsTaken tokens + otherVacancies tokens) := by
  obtain ⟨tokens, scanned, arranged⟩ := scanned_of_toPostfix converted
  have balance := balance_of_arrange arranged valid
  refine ⟨tokens, scanned, balance, ?_⟩
  have noneBeside : Infixed tokens ↔
      (places [] tokens).countP (fun p => p.isVacant && p.besideBinary) = 0 := by
    simp only [infixed_iff, List.countP_eq_zero, Bool.and_eq_true]
  have vacant := countP_split Place.isVacant Place.besideBinary (places [] tokens)
  rw [noneBeside, ← balance, vacancies, vacant, otherVacancies]
  omega

/-! ### Formulas of single digits -/

theorem isDigit_digitChar (n : Nat) : Text.isDigit (Nat.digitChar (n % 10)) = true := by
  have each : ∀ k < 10, Text.isDigit (Nat.digitChar k) = true := by decide
  exact each _ (Nat.mod_lt n (by decide))

theorem inRange_digitChar (n : Nat) :
    (digitLiteral (Nat.digitChar (n % 10)) (isDigit_digitChar n)).InRange := by
  have each : ∀ k < 10, ∀ isDigit : Text.isDigit (Nat.digitChar k) = true,
      (digitLiteral (Nat.digitChar k) isDigit).InRange := by decide +kernel
  exact each _ (Nat.mod_lt n (by decide)) _

def digit (lexicon : Lexicon) (n : Nat) : Operand lexicon :=
  .number (digitLiteral (Nat.digitChar (n % 10)) (isDigit_digitChar n)) (inRange_digitChar n)

def comma : Word := ⟨String.singleton ',', .separator⟩

def Function.power : Function := Function.double₂ "pow" Double.power (Eq.refl true)

def powerLessOne : List Word :=
  [⟨"pow", .item (.function .power)⟩, Bracket.round.opening, (digit {} 2).word, comma,
    (digit {} 3).word, Bracket.round.closing, ⟨"-", .operator .subtraction⟩, (digit {} 1).word]

def powerLessOneItems : List Item :=
  [(digit {} 2).item, (digit {} 3).item, .function .power, (digit {} 1).item,
    .operator .subtraction]

theorem reads_powerLessOne : ReadsAll {} none powerLessOne :=
  ⟨Word.reads_name (by decide) rfl rfl, Bracket.reads_opening _ rfl,
    (digit {} 2).reads_word expectsOperand_opening, Word.reads_separator,
    (digit {} 3).reads_word expectsOperand_separator, Bracket.reads_closing _,
    Word.reads_operator (by decide) rfl,
    (digit {} 1).reads_word (expectsOperand_operator (.inl rfl)), trivial⟩

theorem converted_powerLessOne :
    toPostfix {} (spacedText powerLessOne) = .ok powerLessOneItems ∧
      validate powerLessOneItems {} false = [] :=
  ⟨toPostfix_spacedText reads_powerLessOne (List.cons_ne_nil _ _), by decide⟩

theorem balance_of_valid_powerLessOne :
    spacedText powerLessOne = "pow ( 2 , 3 ) - 1" ∧
      toPostfix {} (spacedText powerLessOne) = .ok powerLessOneItems ∧
      validate powerLessOneItems {} false = [] ∧ Infixed (powerLessOne.map Word.token) := by
  obtain ⟨converted, valid⟩ := converted_powerLessOne
  obtain ⟨tokens, scanned, _, iffNone⟩ := balance_of_valid converted valid
  rw [run_spacedText reads_powerLessOne] at scanned
  obtain rfl := (Prod.mk.inj scanned).1
  exact ⟨by decide, converted, valid, iffNone.2 (by decide)⟩

def strayPair : List Word :=
  [Bracket.round.opening, (digit {} 1).word, comma, (digit {} 2).word, Bracket.round.closing,
    ⟨"+", .operator .addition⟩]

theorem reads_strayPair : ReadsAll {} none strayPair :=
  ⟨Bracket.reads_opening _ rfl, (digit {} 1).reads_word expectsOperand_opening,
    Word.reads_separator, (digit {} 2).reads_word expectsOperand_separator,
    Bracket.reads_closing _, Word.reads_operator (by decide) rfl, trivial⟩

/-- Operators need not stand between operands for a program to be valid: the one behind the pair is
applied to the two numbers of the pair. -/
theorem strayPair_not_infixed :
    spacedText strayPair = "( 1 , 2 ) +" ∧
      toPostfix {} (spacedText strayPair) =
        .ok [(digit {} 1).item, (digit {} 2).item, .operator .addition] ∧
      validate [(digit {} 1).item, (digit {} 2).item, .operator .addition] {} false = [] ∧
      ¬∀ (lexicon : Lexicon) (text : String) (items : List Item) (bindings : Bindings)
        (tokens : List Token), toPostfix lexicon text = .ok items →
          validate items bindings false = [] →
          (Scanner.ofText text).run lexicon = (tokens, none) → Infixed tokens := by
  have converted : toPostfix {} (spacedText strayPair) =
      .ok [(digit {} 1).item, (digit {} 2).item, .operator .addition] :=
    toPostfix_spacedText reads_strayPair (List.cons_ne_nil _ _)
  have valid : validate [(digit {} 1).item, (digit {} 2).item, .operator .addition] {} false =
      [] := by decide
  refine ⟨by decide, converted, valid, fun always => ?_⟩
  have infixed := always {} _ _ {} _ converted valid (run_spacedText reads_strayPair)
  have begins := (infixed (strayPair.dropLast.map Word.token) .addition [] rfl rfl).2
  cases begins

end Formula
