import Formula.Proofs.Conversion.Conservation
import Formula.Proofs.Program.Closed
import Formula.Proofs.Scanner.Run

/-!
What can become of a formula without user functions and operators: it is refused as a text or as a
configuration, or its program has finite values and fails in expected ways only, whatever finite
values its variables have.
-/

set_option autoImplicit false

namespace Formula

theorem ok_of_toOption {ε α β : Type} {result : Except ε α} {f : α → β} {b : β}
    (found : result.toOption.map f = some b) : ∃ a, result = .ok a ∧ f a = b := by
  cases result with
  | error error => cases found
  | ok a => exact ⟨a, rfl, Option.some.inj found⟩

/-! ### Converted programs -/

theorem known_of_toPostfix {lexicon : Lexicon} {text : String} {items : List Item}
    (converted : toPostfix lexicon text = .ok items) :
    ∀ i ∈ items, Token.Known lexicon (.item i) := by
  intro i member
  obtain ⟨tokens, scanned, arranged⟩ := scanned_of_toPostfix converted
  obtain ⟨token, inRun, found⟩ := List.mem_filterMap.1 ((arrange_perm arranged).mem_iff.1 member)
  have known : token.Known lexicon :=
    Scanner.known_of_mem_run text token (by rw [scanned]; exact inRun)
  cases token with
  | item i' => cases found; exact known
  | opening => cases found
  | closing => cases found
  | separator => cases found

theorem Item.isClosed_of_known {lexicon : Lexicon} (functions : lexicon.functions = [])
    (operators : lexicon.operators = []) {i : Item} (known : Token.Known lexicon (.item i)) :
    i.IsClosed := by
  cases i with
  | number value => exact known
  | var name => trivial
  | operator op =>
    obtain rfl | ⟨arity, symbol, found⟩ := known
    · have standard : Operator.standard? .binary "*" = some .multiplication := rfl
      exact Operator.isClosed_standard standard
    · rw [Lexicon.operator?, Lexicon.ownOperator?, operators] at found
      exact Operator.isClosed_standard found
  | function f =>
    obtain ⟨name, found⟩ := known
    rw [Lexicon.function?, Lexicon.ownFunction?, functions] at found
    exact Function.isClosed_standard found

/-! ### Programs without stray elements -/

theorem splitAtStray_items (items : List Item) :
    splitAtStray (items.map .item) = (items, none) := by
  induction items with
  | nil => rfl
  | cons i items ih => rw [List.map_cons, splitAtStray, ih]

theorem validateMixed_items (items : List Item) (bindings : Bindings) (checkVariables : Bool) :
    validateMixed (items.map .item) bindings checkVariables =
      .ok (validate items bindings checkVariables) := by
  simp only [validateMixed, validate, splitAtStray_items]
  cases inspect (countsAsBound bindings checkVariables) 0 items with
  | mk found final => cases final <;> rfl

theorem evaluateMixed_items (items : List Item) (bindings : Bindings) :
    evaluateMixed (items.map .item) bindings =
      (evaluate items bindings).mapError .evaluation := by
  simp only [evaluateMixed, evaluate, splitAtStray_items]
  cases run bindings .empty items <;> rfl

/-! ### Builds -/

theorem mem_sortNames {names : List String} {name : String} :
    name ∈ sortNames names ↔ name ∈ names := by
  rw [sortNames, List.mem_mergeSort, List.mem_eraseDups]

theorem Builder.build_inversion {b : Builder} {e : Expression} (built : b.build.outcome = .ok e) :
    (applyPolicy b.policy b.warnings).2 = none ∧ nameClash? b.fullLexicon = none ∧
      ∃ items, toPostfix b.fullLexicon b.text = .ok items ∧ e = .ofItems items b.functionNames := by
  unfold build at built
  dsimp only at built
  split at built
  · cases built
  · rename_i quiet
    split at built
    · cases built
    · rename_i noClash
      split at built
      · cases built
      · rename_i items converted
        cases built
        exact ⟨quiet, noClash, items, converted, rfl⟩

theorem Builder.build_ok {b : Builder} {e : Expression} (built : b.build.outcome = .ok e) :
    ∃ items, toPostfix b.fullLexicon b.text = .ok items ∧ e = .ofItems items b.functionNames :=
  (build_inversion built).2.2

theorem Builder.isClosed_of_build {b : Builder} {e : Expression}
    (functions : b.lexicon.functions = []) (operators : b.lexicon.operators = [])
    (built : b.build.outcome = .ok e) : ∀ i ∈ e.items, i.IsClosed := by
  obtain ⟨items, converted, rfl⟩ := build_ok built
  have functions' : b.fullLexicon.functions = [] := functions
  have operators' : b.fullLexicon.operators = [] := operators
  intro i member
  exact Item.isClosed_of_known functions' operators' (known_of_toPostfix converted i member)

theorem Builder.build_of_toPostfix {b : Builder} {items : List Item}
    (quiet : (applyPolicy b.policy b.warnings).2 = none)
    (apart : ∀ name ∈ b.fullLexicon.variableNames, (b.fullLexicon.function? name).isSome = false)
    (converted : toPostfix b.fullLexicon b.text = .ok items) :
    b.build.outcome = .ok (.ofItems items b.functionNames) := by
  have noClash : nameClash? b.fullLexicon = none := by
    rw [nameClash?, List.find?_eq_none]
    intro name member
    rw [apart name (mem_sortNames.1 member)]
    exact Bool.false_ne_true
  simp only [build, quiet, noClash, converted]

theorem BuildError.errorKind_eq (error : BuildError) :
    error.errorKind = .parse ∨ error.errorKind = .configuration := by
  cases error with
  | refused w => exact .inr rfl
  | nameClash name => exact .inr rfl
  | conversion error => exact .inl rfl

/-- A formula without user functions and operators is refused as a text or as a configuration, or
its program can be checked and evaluated whatever finite values its variables have: it has a finite
value, or lacks or exceeds values, or a variable has no value, or a rule is applied outside its
domain. -/
theorem evaluation_closed (b : Builder) (functions : b.lexicon.functions = [])
    (operators : b.lexicon.operators = []) :
    match b.build.outcome with
    | .error error => error.errorKind = .parse ∨ error.errorKind = .configuration
    | .ok e => ∀ bindings : Bindings, bindings.AllFinite →
      (∀ checkVariables, validateMixed (e.items.map .item) bindings checkVariables =
        .ok ({ e with bindings }.validate checkVariables)) ∧
      evaluateMixed (e.items.map .item) bindings =
        { e with bindings }.evaluate.mapError .evaluation ∧
      NeverUnderflows bindings e.items ∧
      Ends (·.isFinite = true) EvaluationError.IsExpected { e with bindings }.evaluate := by
  cases built : b.build.outcome with
  | error error => exact error.errorKind_eq
  | ok e =>
    intro bindings finite
    have closed := Builder.isClosed_of_build functions operators built
    exact ⟨validateMixed_items e.items bindings, evaluateMixed_items e.items bindings,
      neverUnderflows bindings e.items, evaluate_ends finite closed⟩

def reciprocalBuilder : Builder := { text := "1 / x", lexicon := { variableNames := ["x"] } }

theorem evaluation_closed_reciprocal : ∃ e, reciprocalBuilder.build.outcome = .ok e ∧
    formatItems e.items = "1 x /" ∧
    Ends (·.isFinite = true) EvaluationError.IsExpected
      { e with bindings := constants.set "x" (.ofNat 0) }.evaluate := by
  have formatted : (toPostfix reciprocalBuilder.fullLexicon "1 / x").toOption.map formatItems =
    some "1 x /" := by decide +kernel
  obtain ⟨items, converted, formatted⟩ := ok_of_toOption formatted
  have built := Builder.build_of_toPostfix (by decide +kernel) (by decide +kernel) converted
  have ends := evaluation_closed reciprocalBuilder rfl rfl
  rw [built] at ends
  have zero : (Decimal.ofNat 0).isFinite = true := rfl
  have finite := Bindings.allFinite_set allFinite_constants "x" zero
  exact ⟨_, built, formatted, (ends _ finite).2.2.2⟩

end Formula
