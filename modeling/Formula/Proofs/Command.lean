import Formula.Command.Run
import Formula.Proofs.Assignment
import Formula.Proofs.Builder
import Formula.Proofs.Program.Agreement

/-!
The three commands side by side. Without a file of values every request ends with an answer or with
an error that is reported, and the commands agree on one request: what can be evaluated is valid and
has a postfix form, and what is valid fails outside the domain of a rule only.
-/

set_option autoImplicit false

namespace Formula

/-! ### Values that are assigned -/

def Bindings.EntriesFinite (bindings : Bindings) : Prop :=
  ∀ entry ∈ bindings.entries, entry.2.isFinite = true

theorem Bindings.entriesFinite_set {bindings : Bindings} (finite : bindings.EntriesFinite)
    (name : String) {value : Decimal} (is : value.isFinite = true) :
    (bindings.set name value).EntriesFinite := by
  intro entry member
  rcases mem_entries_set member with rfl | old
  · exact is
  · exact finite entry old

theorem readAssignment_ends (text : String) :
    Ends (fun assignment => assignment.2.isFinite = true) (fun _ => True)
      (readAssignment text) := by
  obtain ⟨name, value, done, assigns⟩ | ⟨error, failed, -⟩ := readAssignment_cases text
  · rw [done]
    exact assigns.wellFormed.2.2.2.isFinite
  · rw [failed]
    trivial

theorem Expression.setVariables_decimals {e : Expression} (finite : e.bindings.AllFinite)
    {entries : List (String × Decimal)} (values : ∀ entry ∈ entries, entry.2.isFinite = true) :
    let (e', error?) := e.setVariables (entries.map fun (name, value) => (name, .decimal value))
    e'.items = e.items ∧ e'.bindings.AllFinite ∧
      ∀ error, error? = some error → ∃ name, error = .functionName name := by
  induction entries generalizing e with
  | nil => exact ⟨rfl, finite, nofun⟩
  | cons entry rest ih =>
    rw [List.map_cons, setVariables, setVariable]
    by_cases clashes : e.isFunctionName entry.1 = true
    · rw [if_pos clashes]
      refine ⟨rfl, finite, fun error same => ⟨entry.1, ?_⟩⟩
      exact (Option.some.inj same).symm
    · rw [if_neg clashes]
      exact ih (Bindings.allFinite_set finite entry.1 (values entry List.mem_cons_self))
        fun entry' member => values entry' (List.mem_cons_of_mem entry member)

/-! ### Domain errors -/

/-- On finite values the rules of closed items fail outside their domains only. -/
theorem RuleFails.errorKind {bindings : Bindings} (bound : bindings.AllFinite)
    {items : List Item} (closed : ∀ i ∈ items, i.IsClosed) {error : EvaluationError}
    (fails : RuleFails bindings [] items error) : error.errorKind = .domain := by
  obtain ⟨before, i, after, values, use, rule, fault, rfl, runs, enough, applies, raises, rfl⟩ :=
    fails
  have nothing : AllFinite [] := nofun
  have finite : AllFinite values := by
    have ends := runOn_ends bound (fun j member => closed j (List.mem_append_left _ member)) nothing
    rwa [runs] at ends
  obtain ⟨taken, takenFinite⟩ := finite.taken enough
  have ruleClosed : Rule.IsClosed i.count rule :=
    Item.isClosed_rule applies (closed i (List.mem_append_right _ List.mem_cons_self))
  have closes := ruleClosed _ taken takenFinite
  rw [raises] at closes
  exact Fault.errorKind_reported closes use

structure Expression.IsClosed (e : Expression) : Prop where
  items : ∀ i ∈ e.items, i.IsClosed
  bindings : e.bindings.AllFinite

theorem Expression.IsClosed.evaluate {e : Expression} (closed : e.IsClosed) :
    Ends (·.isFinite = true) EvaluationError.IsExpected e.evaluate :=
  evaluate_ends closed.bindings closed.items

/-! ### Reported failures -/

def ErrorKind.IsOfExpression (kind : ErrorKind) : Prop :=
  kind = .parse ∨ kind = .configuration ∨ kind = .arity ∨ kind = .unsetVariable ∨ kind = .domain

namespace Command

def Failure.IsReported : Failure → Prop
  | .compile (.unknownCodes _) | .compile (.assignment _) | .compile .blank => True
  | .compile (.load (.input _)) => True
  | .compile (.load _) => False
  | .compile (.build error) => error.errorKind.IsOfExpression
  | .compile (.bind (.functionName _)) => True
  | .compile (.bind (.value _)) => False
  | .evaluation error => error.errorKind.IsOfExpression

theorem Failure.IsReported.undecoded? {failure : Failure} (reported : failure.IsReported) :
    failure.undecoded? = none := by
  unfold Failure.undecoded?
  split
  · rfl
  · rename_i error notInput
    cases error with
    | input error => exact absurd rfl (notInput error)
    | pathWithNul => cases reported
    | undecodable => cases reported
    | content error => cases reported
  · rfl

theorem isReported_build (error : BuildError) : (Failure.compile (.build error)).IsReported := by
  rcases error.errorKind_eq with parse | configuration
  · exact .inl parse
  · exact .inr (.inl configuration)

theorem isReported_evaluation {error : EvaluationError} (expected : error.IsExpected) :
    (Failure.evaluation error).IsReported := .inr (.inr expected)

abbrev CompileError.IsReported (error : CompileError) : Prop := (Failure.compile error).IsReported

theorem bindAll_ends {e : Expression} (closed : e.IsClosed) {bindings : Bindings}
    (finite : bindings.EntriesFinite) :
    Ends Expression.IsClosed CompileError.IsReported (bindAll e bindings) := by
  have sortedFinite : ∀ entry ∈ bindings.sorted, entry.2.isFinite = true := fun entry member =>
    finite entry (List.mem_mergeSort.1 member)
  have done := Expression.setVariables_decimals closed.bindings sortedFinite
  unfold bindAll
  revert done
  generalize e.setVariables _ = outcome
  obtain ⟨e', error?⟩ := outcome
  rintro ⟨same, finite', fails⟩
  cases error? with
  | none => exact ⟨same ▸ closed.items, finite'⟩
  | some error =>
    obtain ⟨name, rfl⟩ := fails error rfl
    trivial

theorem addVariables_lexicon (b : Builder) (names : List String) :
    (b.addVariables names).lexicon.functions = b.lexicon.functions ∧
      (b.addVariables names).lexicon.operators = b.lexicon.operators := by
  induction names generalizing b with
  | nil => exact ⟨rfl, rfl⟩
  | cons name names ih =>
    obtain ⟨functions, operators⟩ := ih { b with lexicon := b.lexicon.addVariable name }
    have same : (b.lexicon.addVariable name).functions = b.lexicon.functions ∧
        (b.lexicon.addVariable name).operators = b.lexicon.operators := by
      unfold Lexicon.addVariable
      split <;> exact ⟨rfl, rfl⟩
    exact ⟨functions.trans same.1, operators.trans same.2⟩

variable (files : String → FileContent) {request : Request}

section
variable (noFile : request.varsFile = none)
include noFile

theorem collectBindings_ends :
    Ends Bindings.EntriesFinite CompileError.IsReported (collectBindings files request) := by
  have nothing : Bindings.EntriesFinite {} := nofun
  unfold collectBindings
  rw [noFile]
  refine Ends.foldlM nothing fun bindings finite text _ => ?_
  have assigned : Ends (fun assignment => assignment.2.isFinite = true) CompileError.IsReported
      ((readAssignment text).mapError .assignment) :=
    (readAssignment_ends text).mapError fun _ _ => trivial
  exact assigned.bind fun assignment is => Bindings.entriesFinite_set finite assignment.1 is

theorem prepare_ends : Ends
    (fun (b, bindings) =>
      b.lexicon.functions = [] ∧ b.lexicon.operators = [] ∧ bindings.EntriesFinite)
    CompileError.IsReported (prepare files request) := by
  have policyEnds : Ends (fun _ => True) CompileError.IsReported
      ((WarningPolicy.ofLists request.refuse request.suppress).mapError .unknownCodes) := by
    cases WarningPolicy.ofLists request.refuse request.suppress <;> trivial
  unfold prepare Builder.create?
  refine policyEnds.bind fun policy _ => (collectBindings_ends files noFile).bind ?_
  intro bindings finite
  by_cases blank : request.expression.toList.all Text.isBlank = true
  · rw [if_pos blank]
    trivial
  · rw [if_neg blank]
    -- A fresh builder is given names of variables, and nothing else.
    have given := addVariables_lexicon { text := request.expression } bindings.names
    have declared := addVariables_lexicon
      (Builder.addVariables { text := request.expression } bindings.names) request.declared
    exact ⟨declared.1.trans given.1, declared.2.trans given.2, finite⟩

theorem compile_ends :
    Ends Expression.IsClosed CompileError.IsReported (compile files request).2 := by
  have prepared := prepare_ends files noFile
  unfold compile
  cases ready : prepare files request with
  | error error =>
    rw [ready] at prepared
    exact prepared
  | ok ready' =>
    obtain ⟨b, bindings⟩ := ready'
    rw [ready] at prepared
    obtain ⟨functions, operators, finite⟩ := prepared
    dsimp only
    cases built : b.build.outcome with
    | error error => exact isReported_build error
    | ok e =>
      -- At first the constants are bound, and they are finite.
      have bound : e.bindings.AllFinite := by
        obtain ⟨items, _, rfl⟩ := Builder.build_ok built
        exact allFinite_constants
      exact bindAll_ends ⟨Builder.isClosed_of_build functions operators built, bound⟩ finite

theorem isClosed_of_compile {e : Expression} (compiled : (compile files request).2 = .ok e) :
    e.IsClosed := by
  have ends := compile_ends files noFile
  rwa [compiled] at ends

end

/-! ### Commands -/

variable {files : String → FileContent}

theorem execute_of_compile_error {error : CompileError}
    (refused : (compile files request).2 = .error error) (verb : Verb) :
    (execute files verb request).result = .error (.compile error) := by
  unfold execute
  split <;> rename_i compiled <;> rw [compiled] at refused <;> cases refused
  rfl

theorem execute_of_compile_ok {e : Expression} (compiled : (compile files request).2 = .ok e)
    (verb : Verb) :
    (execute files verb request).result = verb.perform request.checkVariables e := by
  unfold execute
  split <;> rename_i compiled' <;> rw [compiled'] at compiled <;> cases compiled
  rfl

def exitCode (files : String → FileContent) (verbose : Bool) (verb : Verb) (request : Request) :
    Nat := ((execute files verb request).report verbose).exit

section
variable {verbose : Bool}

theorem exitCode_eq_zero_iff {verb : Verb} : exitCode files verbose verb request = 0 ↔
    ∃ e printed, (compile files request).2 = .ok e ∧
      verb.perform request.checkVariables e = .ok printed ∧ printed.success = true := by
  unfold exitCode Outcome.report
  cases compiled : (compile files request).2 with
  | error error => simp [execute_of_compile_error compiled]
  | ok e =>
    rw [execute_of_compile_ok compiled]
    cases performed : verb.perform request.checkVariables e with
    | error failure => simp [performed]
    | ok printed => simp [performed]

theorem exitCode_le_one (verb : Verb) : exitCode files verbose verb request ≤ 1 := by
  unfold exitCode Outcome.report
  cases (execute files verb request).result with
  | error failure => exact Nat.le_refl 1
  | ok printed =>
    dsimp only
    split <;> omega

theorem exitCode_rpn : exitCode files verbose .rpn request = 0 ↔
    ∃ e, (compile files request).2 = .ok e := by
  rw [exitCode_eq_zero_iff]
  constructor
  · rintro ⟨e, _, compiled, _⟩
    exact ⟨e, compiled⟩
  · rintro ⟨e, compiled⟩
    exact ⟨e, _, compiled, rfl, rfl⟩

theorem exitCode_eval : exitCode files verbose .eval request = 0 ↔
    ∃ e value, (compile files request).2 = .ok e ∧ e.evaluate = .ok value := by
  rw [exitCode_eq_zero_iff]
  constructor
  · rintro ⟨e, printed, compiled, performed, _⟩
    rw [Verb.perform] at performed
    split at performed
    · exact ⟨e, _, compiled, ‹_›⟩
    · cases performed
  · rintro ⟨e, value, compiled, computed⟩
    refine ⟨e, { lines := [value.toText] }, compiled, ?_, rfl⟩
    rw [Verb.perform, computed]

theorem exitCode_validate : exitCode files verbose .validate request = 0 ↔
    ∃ e, (compile files request).2 = .ok e ∧ e.validate request.checkVariables = [] := by
  rw [exitCode_eq_zero_iff]
  constructor
  · rintro ⟨e, printed, compiled, performed, fine⟩
    rw [Verb.perform] at performed
    split at performed
    · exact ⟨e, compiled, ‹_›⟩
    · cases performed
      cases fine
  · rintro ⟨e, compiled, valid⟩
    refine ⟨e, { lines := ["valid"] }, compiled, ?_, rfl⟩
    rw [Verb.perform, valid]

theorem isReported_of_execute (noFile : request.varsFile = none) {verb : Verb}
    {failure : Failure} (failed : (execute files verb request).result = .error failure) :
    failure.IsReported := by
  cases compiled : (compile files request).2 with
  | error error =>
    have ends := compile_ends files noFile
    rw [compiled] at ends
    rw [execute_of_compile_error compiled] at failed
    cases failed
    exact ends
  | ok e =>
    rw [execute_of_compile_ok compiled] at failed
    -- Only evaluation can fail once there is an expression.
    cases verb with
    | rpn => cases failed
    | validate => rw [Verb.perform] at failed; split at failed <;> cases failed
    | eval =>
      have ends := (isClosed_of_compile files noFile compiled).evaluate
      rw [Verb.perform] at failed
      split at failed <;> rename_i computed <;> cases failed
      rw [computed] at ends
      exact isReported_evaluation ends

end

/-- Without a file of values every command ends with zero or one, and whatever fails is reported.
Postfix forms are printed exactly of what can be compiled. What can be evaluated has a finite value,
which is printed, has a postfix form, and is valid. What is valid can be evaluated or lies outside
the domain of a rule. -/
theorem commands_agree (files : String → FileContent) (request : Request)
    (noFile : request.varsFile = none) (verbose : Bool) :
    let exit := exitCode files verbose
    let checked : Request := { request with checkVariables := true }
    (∀ verb, (exit verb request = 0 ∨ exit verb request = 1) ∧
      ∀ failure, (execute files verb request).result = .error failure →
        failure.IsReported ∧ failure.undecoded? = none) ∧
    (exit .rpn request = 0 ↔ ∃ e, (compile files request).2 = .ok e) ∧
    (exit .eval request = 0 →
      (∃ value : Decimal, value.isFinite = true ∧
        ((execute files .eval request).report verbose).output = value.toText ++ "\n") ∧
      exit .rpn request = 0 ∧ exit .validate checked = 0) ∧
    (exit .validate checked = 0 → exit .eval request = 0 ∨
      ∃ error, (execute files .eval request).result = .error (.evaluation error) ∧
        error.errorKind = .domain) := by
  intro exit checked
  have same : compile files checked = compile files request := rfl
  refine ⟨fun verb => ⟨?_, fun failure failed => ?_⟩, exitCode_rpn, ?_, ?_⟩
  · have small : exit verb request ≤ 1 := exitCode_le_one verb
    omega
  · have reported := isReported_of_execute noFile failed
    exact ⟨reported, reported.undecoded?⟩
  · intro evaluated
    obtain ⟨e, value, compiled, computed⟩ := exitCode_eval.1 evaluated
    have ends := (isClosed_of_compile files noFile compiled).evaluate
    rw [computed] at ends
    refine ⟨⟨value, ends, ?_⟩, exitCode_rpn.2 ⟨e, compiled⟩, exitCode_validate.2 ⟨e, ?_, ?_⟩⟩
    · simp [Outcome.report, execute_of_compile_ok compiled, Verb.perform, computed, unlines]
    · rw [same, compiled]
    · exact valid_of_evaluate computed
  · intro validated
    obtain ⟨e, compiled, valid⟩ := exitCode_validate.1 validated
    rw [same] at compiled
    -- A valid program either has a value or ends with the fault of a rule, which is one of the
    -- domain since only standard rules are applied to finite values.
    have closed := isClosed_of_compile files noFile compiled
    rcases ruleFails_of_valid valid with ⟨value, computed⟩ | ⟨error, ended, fails⟩
    · exact .inl (exitCode_eval.2 ⟨e, value, compiled, computed⟩)
    · refine .inr ⟨error, ?_, fails.errorKind closed.bindings closed.items⟩
      have ended' : e.evaluate = .error error := ended
      rw [execute_of_compile_ok compiled, Verb.perform, ended']

theorem commands_agree_reciprocal :
    let files : String → FileContent := fun _ => .missing
    let request : Request := { expression := "1 / x", defines := ["x=0"] }
    exitCode files false .validate request = 0 ∧ exitCode files false .rpn request = 0 ∧
      exitCode files false .eval request = 1 ∧
      ∃ error, (execute files .eval request).result = .error (.evaluation error) ∧
        error.errorKind = .domain := by
  intro files request
  have read : (readAssignment "x=0").toOption.map (fun assignment => assignment) =
      some ("x", .ofNat 0) := by decide +kernel
  have prepared : prepare files request =
      .ok (reciprocalBuilder, { entries := [("x", .ofNat 0)] }) := by
    obtain ⟨_, assigned, rfl⟩ := ok_of_toOption read
    unfold prepare collectBindings
    simp only [request, List.foldlM_cons, List.foldlM_nil, assigned]
    rfl
  have ends : (toPostfix reciprocalBuilder.fullLexicon reciprocalBuilder.text).toOption.map
      (fun items => (validate items (constants.set "x" (.ofNat 0)) true,
        (evaluate items (constants.set "x" (.ofNat 0))).toOption)) = some ([], none) := by
    decide +kernel
  obtain ⟨items, converted, ends⟩ := ok_of_toOption ends
  obtain ⟨valid, noValue⟩ := Prod.mk.inj ends
  have built := Builder.build_of_toPostfix (by decide +kernel) (by decide +kernel) converted
  have compiled : (compile files request).2 =
      .ok { Expression.ofItems items [] with bindings := constants.set "x" (.ofNat 0) } := by
    rw [compile, prepared]
    dsimp only
    have sorted : Bindings.sorted { entries := [("x", .ofNat 0)] } = [("x", .ofNat 0)] :=
      List.mergeSort_singleton _
    rw [built]
    dsimp only
    rw [bindAll, sorted]
    rfl
  obtain ⟨codes, printed, _, agree⟩ := commands_agree files request rfl false
  have validated : exitCode files false .validate request = 0 :=
    exitCode_validate.2 ⟨_, compiled, valid⟩
  have fails : exitCode files false .eval request ≠ 0 := by
    intro evaluated
    obtain ⟨e, value, compiled', computed⟩ := exitCode_eval.1 evaluated
    rw [compiled] at compiled'
    cases compiled'
    replace computed : evaluate items (constants.set "x" (.ofNat 0)) = .ok value := computed
    rw [computed] at noValue
    cases noValue
  exact ⟨validated, printed.2 ⟨_, compiled⟩, (codes .eval).1.resolve_left fails,
    (agree validated).resolve_left fails⟩

end Command

end Formula
