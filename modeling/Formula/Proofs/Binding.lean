import Formula.Proofs.Names

/-!
Binding many variables. The entries are bound in turn, and the first that is refused ends this. The
entries in front of that one stay bound then, although there is an error; nothing else has changed.
-/

set_option autoImplicit false

namespace Formula

/-- An expression with entries bound: each name has the number that its value stands for, and all
other names have what they had before. -/
structure Expression.Rebound (e : Expression) (entries : List (String × Datum))
    (e' : Expression) : Prop extends SameProgram e e' where
  free : ∀ entry ∈ entries, e.isFunctionName entry.1 = false
  bound : ∀ entry ∈ entries, ∃ number,
    entry.2.toDecimal = .ok number ∧ e'.bindings.get? entry.1 = some number
  kept : ∀ name, name ∉ entries.map (·.1) → e'.bindings.get? name = e.bindings.get? name

namespace Expression

variable {e e' : Expression} {entry : String × Datum} {entries : List (String × Datum)}

theorem Rebound.refl (e : Expression) : e.Rebound [] e where
  toSameProgram := .refl e
  free := nofun
  bound := nofun
  kept _ _ := rfl

theorem Rebound.cons {number : Decimal} (free : e.isFunctionName entry.1 = false)
    (converted : entry.2.toDecimal = .ok number) (other : entry.1 ∉ entries.map (·.1))
    (later : Rebound { e with bindings := e.bindings.set entry.1 number } entries e') :
    e.Rebound (entry :: entries) e' where
  items := later.items
  functionNames := later.functionNames
  free := List.forall_mem_cons.2 ⟨free, later.free⟩
  bound := by
    refine List.forall_mem_cons.2 ⟨⟨number, converted, ?_⟩, later.bound⟩
    rw [later.kept _ other, Bindings.get?_set, if_pos rfl]
  kept name absent := by
    obtain ⟨different, absent⟩ := not_or.1 fun among => absent (List.mem_cons.2 among)
    rw [later.kept name absent, Bindings.get?_set, if_neg different]

theorem Refuses.of_sameProgram {error : BindError} (same : SameProgram e e')
    (refused : e'.Refuses entry.1 entry.2 error) : e.Refuses entry.1 entry.2 error := by
  cases refused with
  | functionName taken => exact .functionName ((same.isFunctionName _).symm.trans taken)
  | value free noNumber => exact .value ((same.isFunctionName _).symm.trans free) noNumber

/-- All entries are bound, or those in front of the first that is refused. -/
theorem setVariables_cases (distinct : (entries.map (·.1)).Nodup) :
    (∃ e', e.setVariables entries = (e', none) ∧ e.Rebound entries e') ∨
      ∃ e' error before entry after, e.setVariables entries = (e', some error) ∧
        entries = before ++ entry :: after ∧ e.Refuses entry.1 entry.2 error ∧
        e.Rebound before e' := by
  induction entries generalizing e with
  | nil => exact .inl ⟨e, rfl, .refl e⟩
  | cons first rest ih =>
    obtain ⟨other, distinct⟩ := List.nodup_cons.1 distinct
    rw [setVariables]
    obtain ⟨number, free, converted, step⟩ | ⟨error, refused, step⟩ :=
      setVariable_cases e first.1 first.2
    · rw [step]
      -- No entry behind has the name of the first one, so what that is bound to stays.
      have same : SameProgram e { e with bindings := e.bindings.set first.1 number } := ⟨rfl, rfl⟩
      obtain ⟨e', done, later⟩ | ⟨e', error, before, entry, after, failed, rfl, refused, later⟩ :=
        ih (e := { e with bindings := e.bindings.set first.1 number }) distinct
      · exact .inl ⟨e', done, later.cons free converted other⟩
      · rw [List.map_append, List.mem_append, not_or] at other
        exact .inr ⟨e', error, first :: before, entry, after, failed, rfl,
          refused.of_sameProgram same, later.cons free converted other.1⟩
    · rw [step]
      exact .inr ⟨e, error, [], first, rest, rfl, rfl, refused, .refl e⟩

end Expression

/-- Binding entries of different names without an error binds all of them. With an error, that is
why the first entry that is refused can not be bound, and the entries in front of it are bound. No
other name has changed, nor has the program. -/
theorem setVariables_rebound {e : Expression} {entries : List (String × Datum)}
    (distinct : (entries.map (·.1)).Nodup) :
    (∀ e', e.setVariables entries = (e', none) → e.Rebound entries e') ∧
    ∀ e' error, e.setVariables entries = (e', some error) →
      ∃ before entry after, entries = before ++ entry :: after ∧ e.Refuses entry.1 entry.2 error ∧
        e.Rebound before e' := by
  obtain ⟨e', done, rebound⟩ | ⟨e', error, before, entry, after, failed, same, refused, rebound⟩ :=
    Expression.setVariables_cases (e := e) distinct
  · refine ⟨fun e'' done' => ?_, fun e'' error failed => ?_⟩
    · cases done.symm.trans done'
      exact rebound
    · cases done.symm.trans failed
  · refine ⟨fun e'' done => ?_, fun e'' error' failed' => ?_⟩
    · cases failed.symm.trans done
    · cases failed.symm.trans failed'
      exact ⟨before, entry, after, same, refused, rebound⟩

theorem setVariables_rebound_sine :
    let e := Expression.ofItems [.var "x"] []
    let entries : List (String × Datum) :=
      [("x", .integer 1), ("sin", .integer 2), ("y", .integer 3)]
    (entries.map (·.1)).Nodup ∧ ∃ e', e.setVariables entries = (e', some (.functionName "sin")) ∧
      ∃ before entry after, entries = before ++ entry :: after ∧
        e.Refuses entry.1 entry.2 (.functionName "sin") ∧ e.Rebound before e' := by
  intro e entries
  have distinct : (entries.map (·.1)).Nodup := by decide
  have failed : e.setVariables entries =
      ((e.setVariables entries).1, some (.functionName "sin")) := rfl
  exact ⟨distinct, _, failed, (setVariables_rebound distinct).2 _ _ failed⟩

/-- One of two variables is bound although there is an error. -/
theorem bound_before_refused :
    let e := Expression.ofItems [.var "x"] []
    let (e', error?) := e.setVariables [("x", .integer 1), ("y", .truth true)]
    error? = some (.value .truth) ∧ e.bindings.get? "x" = none ∧
      e'.bindings.get? "x" = some (.ofInt 1) := by
  decide

end Formula
