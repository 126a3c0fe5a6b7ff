import Mathlib.Data.List.Sort
import Mathlib.Data.List.TakeWhile
import Mathlib.Data.String.Basic
import Formula.Proofs.Builder

/-!
What building warns of. The names that hide standard ones are gone through by kind, and those of one
kind in code point order. A policy leaves some of the warnings out and may stop at one of the others;
beyond that it makes no difference to what is built.
-/

set_option autoImplicit false

namespace Formula

/-! ### Names in order -/

theorem nodup_eraseDups (names : List String) : names.eraseDups.Nodup := by
  match names with
  | [] => exact List.nodup_nil
  | name :: rest =>
    rw [List.eraseDups_cons, List.nodup_cons]
    refine ⟨fun again => ?_, nodup_eraseDups _⟩
    rw [List.mem_eraseDups, List.mem_filter] at again
    simp at again
termination_by names.length
decreasing_by exact Nat.lt_succ_of_le (List.length_filter_le _ rest)

theorem pairwise_sortNames (names : List String) : (sortNames names).Pairwise (· < ·) := by
  have sorted : (sortNames names).Pairwise (· ≤ ·) := List.pairwise_mergeSort' (· ≤ ·) _
  have distinct : (sortNames names).Nodup :=
    (List.mergeSort_perm _ _).nodup_iff.2 (nodup_eraseDups names)
  exact (sorted.and distinct).imp fun ⟨le, ne⟩ => lt_of_le_of_ne le ne

theorem sortNames_perm {names names' : List String} (same : names'.Perm names) :
    sortNames names' = sortNames names := by
  refine List.Perm.eq_of_pairwise (fun _ _ _ _ before behind => absurd before (lt_asymm behind))
    (pairwise_sortNames names') (pairwise_sortNames names) ?_
  refine (List.mergeSort_perm _ _).trans (.trans ?_ (List.mergeSort_perm _ _).symm)
  rw [List.perm_ext_iff_of_nodup (nodup_eraseDups names') (nodup_eraseDups names)]
  intro name
  rw [List.mem_eraseDups, List.mem_eraseDups, same.mem_iff]

/-! ### Warnings in order -/

namespace Warning

def Precedes (w w' : Warning) : Prop :=
  w.code < w'.code ∨ w.code = w'.code ∧ w.subject < w'.subject

theorem precedes_of_code {code code' : String} (before : code < code') (subject subject' : String) :
    Precedes ⟨code, subject⟩ ⟨code', subject'⟩ := .inl before

theorem pairwise_precedes_map (code : String) {subjects : List String}
    (ordered : subjects.Pairwise (· < ·)) : (subjects.map (mk code)).Pairwise Precedes :=
  List.pairwise_map.2 (ordered.imp fun before => .inr ⟨rfl, before⟩)

end Warning

namespace Builder

/-- Something of the builder hides something standard, which the warning tells. -/
inductive Hides (b : Builder) : Warning → Prop where
  | function (name : String) (own : name ∈ b.functionNames)
      (standard : (Function.standard? name).isSome = true) : Hides b ⟨"W01", name⟩
  | operator (symbol : String) (arity : Arity) (own : symbol ∈ b.lexicon.operators.map (·.symbol))
      (standard : (Operator.standard? arity symbol).isSome = true) : Hides b ⟨"W02", symbol⟩
  | constant (name : String) (own : name ∈ b.lexicon.variableNames)
      (standard : constants.contains name = true) : Hides b ⟨"W03", name⟩

theorem mem_warnings {b : Builder} {w : Warning} : w ∈ b.warnings ↔ b.Hides w := by
  simp only [warnings, List.mem_append, List.mem_map, List.mem_filter, mem_sortNames]
  constructor
  · rintro ((⟨name, ⟨own, standard⟩, rfl⟩ | ⟨symbol, ⟨own, standard⟩, rfl⟩) |
      ⟨name, ⟨own, standard⟩, rfl⟩)
    · exact .function name own standard
    · have standard := (Operator.mem_standardSymbols .binary).1 (List.contains_iff_mem.1 standard)
      exact .operator symbol .binary (List.mem_map.2 own) standard
    · exact .constant name own standard
  · rintro (⟨name, own, standard⟩ | ⟨symbol, arity, own, standard⟩ | ⟨name, own, standard⟩)
    · exact .inl (.inl ⟨name, ⟨own, standard⟩, rfl⟩)
    · have standard := List.contains_iff_mem.2 ((Operator.mem_standardSymbols arity).2 standard)
      exact .inl (.inr ⟨symbol, ⟨List.mem_map.1 own, standard⟩, rfl⟩)
    · exact .inr ⟨name, ⟨own, standard⟩, rfl⟩

theorem pairwise_warnings (b : Builder) : b.warnings.Pairwise Warning.Precedes := by
  have ordered (names : List String) (p : String → Bool) (code : String) :
      (((sortNames names).filter p).map (Warning.mk code)).Pairwise Warning.Precedes :=
    Warning.pairwise_precedes_map code ((pairwise_sortNames names).filter p)
  unfold warnings
  simp only [List.pairwise_append, List.mem_append, List.mem_map]
  -- Warnings of different kinds are told apart by their codes, whatever their subjects are.
  refine ⟨⟨ordered _ _ _, ordered _ _ _, ?_⟩, ordered _ _ _, ?_⟩
  · rintro _ ⟨name, _, rfl⟩ _ ⟨symbol, _, rfl⟩
    exact Warning.precedes_of_code (by decide) name symbol
  · rintro _ (⟨name, _, rfl⟩ | ⟨symbol, _, rfl⟩) _ ⟨name', _, rfl⟩
    · exact Warning.precedes_of_code (by decide) name name'
    · exact Warning.precedes_of_code (by decide) symbol name'

theorem Hides.exists_text {b : Builder} {w : Warning} (hides : b.Hides w) :
    w.text? = some w.text := by
  cases hides <;> rfl

end Builder

/-! ### Policies -/

namespace WarningPolicy

def drops (policy : Option WarningPolicy) (code : String) : Bool :=
  policy.any (·.suppress.contains code)

def refuses (policy : Option WarningPolicy) (code : String) : Bool :=
  policy.any (·.refuse.contains code)

theorem handling_eq (policy : Option WarningPolicy) (code : String) :
    handling policy code =
      if drops policy code then .suppressed else if refuses policy code then .refused
      else .shown := by
  cases policy <;> rfl

def reported (policy : Option WarningPolicy) (warnings : List Warning) : List Warning :=
  warnings.filter fun w => !drops policy w.code

end WarningPolicy

namespace Builder

open WarningPolicy

/-- Warnings are shown up to the first that is refused. -/
theorem applyPolicy_eq (policy : Option WarningPolicy) (warnings : List Warning) :
    (applyPolicy policy warnings).1.filterMap Notice.warning? =
        (reported policy warnings).takeWhile (fun w => !refuses policy w.code) ∧
      (applyPolicy policy warnings).2 =
        (reported policy warnings).find? (fun w => refuses policy w.code) := by
  induction warnings with
  | nil => exact ⟨rfl, rfl⟩
  | cons w rest ih =>
    rw [applyPolicy, handling_eq]
    -- A warning that is dropped leaves a notice too, but one that is no warning.
    by_cases dropped : drops policy w.code = true
    · simpa [reported, dropped, List.filterMap_cons, Notice.warning?] using ih
    · by_cases refused : refuses policy w.code = true
      · simp [reported, dropped, refused]
      · simpa [reported, dropped, refused, List.filterMap_cons, Notice.warning?] using ih

theorem warnings_build (b : Builder) :
    b.build.warnings = (applyPolicy b.policy b.warnings).1.filterMap Notice.warning? := by
  unfold build Build.warnings
  dsimp only
  split
  · rfl
  · split
    · rfl
    · split <;> simp [List.filterMap_append, List.filterMap_cons, Notice.warning?]

def compiled (b : Builder) : Except BuildError Expression :=
  match nameClash? b.fullLexicon with
  | some name => .error (.nameClash name)
  | none =>
    match toPostfix b.fullLexicon b.text with
    | .error error => .error (.conversion error)
    | .ok items => .ok (.ofItems items b.functionNames)

section
variable {b : Builder}

theorem outcome_build_of_refused {w : Warning}
    (refused : (applyPolicy b.policy b.warnings).2 = some w) :
    b.build.outcome = .error (.refused w) := by
  simp only [build, refused]

theorem outcome_build_of_quiet (quiet : (applyPolicy b.policy b.warnings).2 = none) :
    b.build.outcome = b.compiled := by
  simp only [build, quiet, compiled]
  cases nameClash? b.fullLexicon with
  | some name => rfl
  | none => cases toPostfix b.fullLexicon b.text <;> rfl

end

theorem outcome_build_setPolicy_none (b : Builder) :
    (b.setPolicy none).build.outcome = b.compiled := by
  have quiet : (applyPolicy none b.warnings).2 = none := by
    rw [(applyPolicy_eq none b.warnings).2, List.find?_eq_none]
    exact fun w _ => Bool.false_ne_true
  exact outcome_build_of_quiet quiet

/-- The warnings of a build are those that its policy does not drop, in order and each once, up to
the first that the policy refuses. If it refuses none, it makes no difference to what is built;
otherwise that warning is the error, whatever else is wrong. -/
theorem build_warns (b : Builder) : ∃ reported : List Warning,
    reported.Pairwise Warning.Precedes ∧
    (∀ w, w ∈ reported ↔ b.Hides w ∧ drops b.policy w.code = false) ∧
    match reported.find? fun w => refuses b.policy w.code with
    | none =>
      b.build.warnings = reported ∧ b.build.outcome = (b.setPolicy none).build.outcome
    | some w =>
      b.build.warnings = reported.takeWhile (fun w' => !refuses b.policy w'.code) ∧
      b.build.outcome = .error (.refused w) ∧
      (BuildError.refused w).errorKind = .configuration ∧
      w.text? = some (BuildError.refused w).message := by
  obtain ⟨shown, refused⟩ := applyPolicy_eq b.policy b.warnings
  have member (w : Warning) :
      w ∈ reported b.policy b.warnings ↔ b.Hides w ∧ drops b.policy w.code = false := by
    simp [reported, mem_warnings]
  refine ⟨reported b.policy b.warnings, (pairwise_warnings b).filter _, member, ?_⟩
  rw [← warnings_build] at shown
  -- Either no reported warning is refused, or there is a first one that is.
  split
  · rename_i quiet
    rw [quiet] at refused
    refine ⟨?_, (outcome_build_of_quiet refused).trans (outcome_build_setPolicy_none b).symm⟩
    rw [shown, List.takeWhile_eq_self_iff]
    intro w among
    simpa using List.find?_eq_none.1 quiet w among
  · rename_i w first
    rw [first] at refused
    have hides := ((member w).1 (List.mem_of_find?_eq_some first)).1
    exact ⟨shown, outcome_build_of_refused refused, rfl, hides.exists_text⟩

end Builder

end Formula
