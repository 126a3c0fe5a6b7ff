import Formula.Yaml.Assembly

/-!
Which data come out of a text. A text spells integers and doubles, and what looks like any other
number is a double or a text: no decimal number is ever put into a table of data. Carrying out merge
keys does not touch the table, and every action of the assembly keeps it free of decimal numbers; so
the table of a document that was read is free of them.
-/

set_option autoImplicit false

namespace Formula.Yaml

section
variable {ε α β : Type} {outcome : Except ε α} {result : β}

theorem exists_of_bind_eq_ok {f : α → Except ε β} (done : outcome >>= f = .ok result) :
    ∃ value, outcome = .ok value ∧ f value = .ok result := by
  cases outcome with
  | error error => cases done
  | ok value => exact ⟨value, rfl, done⟩

theorem exists_of_map_eq_ok {f : α → β} (done : outcome.map f = .ok result) :
    ∃ value, outcome = .ok value ∧ f value = result := by
  cases outcome with
  | error error => cases done
  | ok value => exact ⟨value, rfl, Except.ok.inj done⟩

end

namespace Assembler
variable {α β : Type} {holds : Store → Prop}

/-- Whether what holds of the table still holds after an action that succeeds. -/
def Keeps (holds : Store → Prop) (action : Assembler α) : Prop :=
  ∀ s result s', action s = .ok (result, s') → holds s.store → holds s'.store

namespace Keeps

theorem pure (result : α) : Keeps holds (Pure.pure result) := by
  rintro s _ _ ⟨⟩ before
  exact before

theorem throw (error : ReadError) : Keeps holds (MonadExcept.throw error : Assembler α) := by
  rintro s _ _ ⟨⟩

theorem malformed : Keeps holds (malformed : Assembler α) := throw .malformed

theorem get : Keeps holds (MonadState.get : Assembler Assembly) := by
  rintro s _ _ ⟨⟩ before
  exact before

theorem change {f : Assembly → Assembly} (kept : ∀ s, holds s.store → holds (f s).store) :
    Keeps holds (modify f : Assembler Unit) := by
  rintro s _ _ ⟨⟩ before
  exact kept s before

theorem changeRest {f : Assembly → Assembly}
    (same : ∀ s, (f s).store = s.store := by exact fun _ => rfl) :
    Keeps holds (modify f : Assembler Unit) :=
  change fun s before => (same s).symm ▸ before

theorem bind {action : Assembler α} {next : α → Assembler β} (first : Keeps holds action)
    (later : ∀ result, Keeps holds (next result)) : Keeps holds (action >>= next) := by
  intro s result s' done before
  change Except.bind (action s) _ = _ at done
  cases ran : action s with
  | error error => rw [ran] at done; cases done
  | ok middle =>
    rw [ran] at done
    exact later middle.1 _ _ _ done (first _ _ _ ran before)

/-- An outcome from elsewhere changes nothing, and what comes later may rely on it. -/
theorem bind_lift {outcome : Except ReadError α} {next : α → Assembler β}
    (later : ∀ result, outcome = .ok result → Keeps holds (next result)) :
    Keeps holds (liftM outcome >>= next) := by
  intro s result s' done before
  cases outcome with
  | error error => cases done
  | ok middle => exact later middle rfl _ _ _ done before

theorem forIn {items : List α} {body : α → PUnit → Assembler (ForInStep PUnit)}
    (each : ∀ i, Keeps holds (body i ⟨⟩)) : Keeps holds (forIn items PUnit.unit body) := by
  induction items with
  | nil => exact pure _
  | cons i items ih =>
    rw [List.forIn_cons]
    refine (each i).bind fun step => ?_
    cases step with
    | done last => exact pure _
    | yield last => exact ih

theorem mapM {items : List α} {f : α → Assembler β} (each : ∀ i, Keeps holds (f i)) :
    Keeps holds (items.mapM f) := by
  induction items with
  | nil => exact pure _
  | cons i items ih =>
    rw [List.mapM_cons]
    exact (each i).bind fun _ => ih.bind fun _ => pure _

theorem findM? {items : List α} {f : α → Assembler Bool} (each : ∀ i, Keeps holds (f i)) :
    Keeps holds (items.findM? f) := by
  induction items with
  | nil => exact pure _
  | cons i items ih =>
    rw [List.findM?]
    refine (each i).bind fun found => ?_
    cases found with
    | true => exact pure _
    | false => exact ih

end Keeps

/-! ### Actions on nodes -/

theorem nodeAt_keeps (place : NodePlace) : Keeps holds (nodeAt place) :=
  Keeps.get.bind fun _ => .pure _

theorem contentAt_keeps (place : NodePlace) : Keeps holds (contentAt place) :=
  (nodeAt_keeps place).bind fun _ => .pure _

theorem modifyNode_keeps (place : NodePlace) (change : Node → Node) :
    Keeps holds (modifyNode place change) := .change fun _ => id

theorem entriesAt_keeps (place : NodePlace) : Keeps holds (entriesAt place) := by
  refine (contentAt_keeps place).bind fun content => ?_
  split
  · exact .pure _
  · exact .malformed

theorem itemsAt_keeps (place : NodePlace) : Keeps holds (itemsAt place) := by
  refine (contentAt_keeps place).bind fun content => ?_
  split
  · exact .pure _
  · exact .malformed

theorem singleEntry_keeps (place : NodePlace) : Keeps holds (singleEntry place) := by
  refine (contentAt_keeps place).bind fun content => ?_
  split
  · exact .pure _
  · exact .malformed

theorem scalarText_keeps (fuel : Nat) (place : NodePlace) :
    Keeps holds (scalarText place fuel) := by
  induction fuel generalizing place with
  | zero => exact .malformed
  | succ fuel ih =>
    rw [scalarText]
    refine (contentAt_keeps place).bind fun content => ?_
    split
    · exact .pure _
    · exact .malformed
    · refine (Keeps.findM? fun _ => (nodeAt_keeps _).bind fun _ => .pure _).bind fun found => ?_
      split
      · exact ih _
      · exact .malformed

/-- The three functions call each other with less fuel. -/
theorem merging_keeps (fuel : Nat) :
    (∀ place index merged, Keeps holds (flattenFrom place index merged fuel)) ∧
      (∀ place, Keeps holds (sourceEntries place fuel)) ∧
      ∀ entries places, Keeps holds (mergeSources entries places fuel) := by
  induction fuel with
  | zero => exact ⟨fun _ _ _ => .malformed, fun _ => .malformed, fun _ _ => .malformed⟩
  | succ fuel ih =>
    obtain ⟨flatten, source, merge⟩ := ih
    refine ⟨fun place index merged => ?_, fun place => ?_, fun entries places => ?_⟩
    · rw [flattenFrom]
      refine (entriesAt_keeps place).bind fun entries => ?_
      split
      · split
        · exact modifyNode_keeps _ _
        · exact .pure _
      · refine (nodeAt_keeps _).bind fun node => ?_
        dsimp only
        split
        · split
          · exact .malformed
          · refine (modifyNode_keeps _ _).bind fun _ => (contentAt_keeps _).bind fun content => ?_
            split
            · exact (source _).bind fun _ => flatten _ _ _
            · exact (merge _ _).bind fun _ => flatten _ _ _
            · exact Keeps.malformed.bind fun _ => flatten _ _ _
        · split
          · exact (modifyNode_keeps _ _).bind fun _ => flatten _ _ _
          · exact flatten _ _ _
    · rw [sourceEntries]
      exact (flatten _ _ _).bind fun _ => entriesAt_keeps place
    · cases places with
      | nil => exact .pure _
      | cons place rest => exact (source place).bind fun _ => merge _ _

theorem flattenFrom_keeps (place : NodePlace) (index : Nat) (merged : List (NodePlace × NodePlace))
    (fuel : Nat) : Keeps holds (flattenFrom place index merged fuel) :=
  (merging_keeps fuel).1 place index merged

theorem collectionAt?_keeps (node : NodePlace) : Keeps holds (collectionAt? node) :=
  (nodeAt_keeps node).bind fun _ => .pure _

/-! ### Looking into the table -/

theorem lookUp_keeps (entries : List (Place × Place)) (key : Place) :
    Keeps holds (lookUp entries key) := by
  refine Keeps.get.bind fun s => ?_
  dsimp only
  split
  · exact .throw _
  · exact .pure _

theorem refuseRepeated_keeps (parts : List Place) : Keeps holds (refuseRepeated parts) := by
  refine Keeps.get.bind fun s => ?_
  dsimp only
  split
  · exact .malformed
  · exact .throw _

end Assembler

/-! ### Tables without decimal numbers -/

def Cell.IsDecimalFree (c : Cell) : Prop := ∀ number, c ≠ .scalar (.decimal number)

def Store.IsDecimalFree (s : Store) : Prop := ∀ c ∈ s, c.IsDecimalFree

namespace Store
variable {s : Store} {c : Cell}

theorem isDecimalFree_push (free : s.IsDecimalFree) (new : c.IsDecimalFree) :
    IsDecimalFree (s.push c) :=
  fun c' member => (Array.mem_push.1 member).elim (free c') (· ▸ new)

theorem isDecimalFree_modify (free : s.IsDecimalFree) (new : c.IsDecimalFree) (place : Place) :
    IsDecimalFree (s.modify place fun _ => c) := by
  intro c' member
  obtain ⟨index, bound, rfl⟩ := Array.mem_iff_getElem.1 member
  rw [Array.getElem_modify]
  split
  · exact new
  · exact free _ (Array.getElem_mem _)

theorem IsDecimalFree.cell (free : s.IsDecimalFree) (place : Place) :
    (s.cell place).IsDecimalFree := by
  by_cases bound : place < s.size
  · have member : s.cell place ∈ s := by simp [Store.cell, bound]
    exact free _ member
  · rw [Store.cell, Array.getD_eq_getD_getElem?, Array.getElem?_eq_none (Nat.le_of_not_lt bound)]
    exact fun _ => nofun

/-- The datum at a place is the one in its cell, or a collection. -/
theorem IsDecimalFree.datum_ne (free : s.IsDecimalFree) (place : Place) (number : Decimal) :
    s.datum place ≠ .decimal number := by
  have here := free.cell place number
  rw [datum, datumIn]
  cases found : s.cell place with
  | scalar d => exact fun same => here (found.trans (congrArg Cell.scalar same))
  | tuple elements => nofun
  | set elements => nofun
  | list elements => dsimp only; split <;> nofun
  | mapping entries => dsimp only; split <;> nofun
  | ordered entries => dsimp only; split <;> nofun

end Store

/-! ### Making data -/

namespace Assembler

theorem scalarDatum_ne_decimal {version : Version} {tag : String} {text : ScalarText} {d : Datum}
    (made : scalarDatum version tag text = .ok d) (number : Decimal) : d ≠ .decimal number := by
  rintro rfl
  unfold scalarDatum at made
  split at made
  case h_4 | h_6 | h_8 =>
    obtain ⟨value, -, same⟩ := exists_of_map_eq_ok made
    cases same
  case h_10 =>
    split at made
    · split at made <;> cases made
    · cases made
  all_goals cases made

theorem toDatum_ne_decimal {t : WrittenTimestamp} {d : Datum} (made : t.toDatum = .ok d)
    (number : Decimal) : d ≠ .decimal number := by
  rintro rfl
  unfold WrittenTimestamp.toDatum at made
  split at made
  · obtain ⟨day, -, same⟩ := exists_of_bind_eq_ok made
    cases same
  · rename_i time _
    have behind : ∀ {zone : Option Zone}, (do
        let day ← Day.create t.year t.month t.day
        let clock ← Clock.create time.hour time.minute time.second
          (if 999999 < time.microseconds then 0 else time.microseconds)
        let m : Moment := { day, clock, zone }
        return Datum.moment (← if 999999 < time.microseconds then m.nextSecond else pure m))
          ≠ Except.ok (.decimal number) := by
      intro zone made
      obtain ⟨day, -, made⟩ := exists_of_bind_eq_ok made
      obtain ⟨clock, -, made⟩ := exists_of_bind_eq_ok made
      dsimp only at made
      split at made
      all_goals
        obtain ⟨m, -, same⟩ := exists_of_bind_eq_ok made
        cases same
    split at made
    · obtain ⟨zone, -, made⟩ := exists_of_bind_eq_ok made
      exact behind made
    · exact behind made

theorem timestampDatum_ne_decimal {content : Content} {d : Datum}
    (made : timestampDatum content = .ok d) (number : Decimal) : d ≠ .decimal number := by
  unfold timestampDatum at made
  split at made
  · dsimp only at made
    split at made
    · rename_i t _
      cases created : t.toDatum with
      | error error => rw [created] at made; cases made
      | ok d' =>
        rw [created] at made
        cases made
        exact toDatum_ne_decimal created number
    · cases made
  · cases made

theorem isDecimalFree_empty (kind : Collection) : kind.empty.IsDecimalFree := by
  cases kind <;> nofun

theorem add_keeps {c : Cell} (new : c.IsDecimalFree) : Keeps Store.IsDecimalFree (add c) :=
  Keeps.get.bind fun _ =>
    (Keeps.change fun _ free => Store.isDecimalFree_push free new).bind fun _ => .pure _

theorem complete_keeps {c : Cell} (new : c.IsDecimalFree) (place : Place) :
    Keeps Store.IsDecimalFree (complete place c) :=
  .change fun _ free => Store.isDecimalFree_modify free new place

theorem toKey_keeps (place : Place) : Keeps Store.IsDecimalFree (toKey place) := by
  refine Keeps.get.bind fun s => ?_
  split
  · exact add_keeps (by nofun)
  · exact .pure _
  · exact .pure _
  · exact .malformed

section
variable {build : Bool → NodePlace → Assembler Place}
  (parts : ∀ deep node, Keeps Store.IsDecimalFree (build deep node))
include parts

theorem addEntries_keeps (distinct : Bool) (entries : List (Place × Place))
    (nodes : List (NodePlace × NodePlace)) :
    Keeps Store.IsDecimalFree (addEntries build distinct entries nodes) := by
  induction nodes generalizing entries with
  | nil => exact .pure _
  | cons node nodes ih =>
    rw [addEntries]
    refine (parts _ _).bind fun _ => (toKey_keeps _).bind fun key => (parts _ _).bind fun value =>
      (lookUp_keeps _ _).bind fun previous? => ?_
    split
    · exact ih _
    · split
      · exact (refuseRepeated_keeps _).bind fun _ => Keeps.get.bind fun _ => ih _
      · exact Keeps.get.bind fun _ => ih _

theorem mappingEntries_keeps (node : NodePlace) :
    Keeps Store.IsDecimalFree (mappingEntries build node) := by
  refine Keeps.bind ((entriesAt_keeps node).bind fun _ => .pure _) fun _ =>
    (Keeps.get.bind fun _ => .pure _).bind fun _ => (flattenFrom_keeps _ _ _ _).bind fun _ =>
    (entriesAt_keeps node).bind fun entries => (nodeAt_keeps node).bind fun n => ?_
  split
  · exact addEntries_keeps parts _ _ _
  · exact (addEntries_keeps parts _ _ _).bind fun _ => (addEntries_keeps parts _ _ _).bind fun _ =>
      Keeps.get.bind fun _ => .pure _

theorem fillOrdered_keeps (place : Place) (entries : List (Place × Place))
    (items : List NodePlace) :
    Keeps Store.IsDecimalFree (fillOrdered build place entries items) := by
  induction items generalizing entries with
  | nil => exact .pure _
  | cons item items ih =>
    rw [fillOrdered]
    refine (singleEntry_keeps item).bind fun entry => (parts _ _).bind fun key =>
      (lookUp_keeps _ _).bind fun previous? => ?_
    have rest : Keeps Store.IsDecimalFree (do
        let value ← build false entry.2
        complete place (.ordered (entries ++ [(key, value)]))
        fillOrdered build place (entries ++ [(key, value)]) items) :=
      (parts _ _).bind fun _ => (complete_keeps (by nofun) place).bind fun _ => ih _
    dsimp only
    split
    · exact (Keeps.throw _).bind fun _ => rest
    · exact rest

theorem fillPairs_keeps (place : Place) (pairs : List Place) (items : List NodePlace) :
    Keeps Store.IsDecimalFree (fillPairs build place pairs items) := by
  induction items generalizing pairs with
  | nil => exact .pure _
  | cons item items ih =>
    rw [fillPairs]
    exact (singleEntry_keeps item).bind fun entry => (parts _ _).bind fun _ =>
      (parts _ _).bind fun _ => (add_keeps (by nofun)).bind fun _ =>
      (complete_keeps (by nofun) place).bind fun _ => ih _

theorem fill_keeps (kind : Collection) (node : NodePlace) (place : Place) :
    Keeps Store.IsDecimalFree (fill build kind node place) := by
  cases kind with
  | list =>
    exact (itemsAt_keeps node).bind fun _ => (Keeps.mapM fun _ => parts _ _).bind fun _ =>
      complete_keeps (by nofun) place
  | mapping =>
    exact (mappingEntries_keeps parts node).bind fun _ => complete_keeps (by nofun) place
  | set => exact (mappingEntries_keeps parts node).bind fun _ => complete_keeps (by nofun) place
  | ordered => exact (itemsAt_keeps node).bind fun _ => fillOrdered_keeps parts place _ _
  | pairs => exact (itemsAt_keeps node).bind fun _ => fillPairs_keeps parts place _ _

theorem construct_keeps (node : NodePlace) : Keeps Store.IsDecimalFree (construct build node) := by
  rw [construct]
  refine (nodeAt_keeps node).bind fun n => ?_
  split
  case' h_1 => refine (Keeps.pure _).bind fun name => ?_
  case' h_2 => refine Keeps.malformed.bind fun name => ?_
  -- What is done with a name does not depend on whether there is one.
  all_goals
    dsimp only
    split
    · refine (add_keeps (isDecimalFree_empty _)).bind fun place => Keeps.get.bind fun s => ?_
      split
      · exact (fill_keeps parts _ _ _).bind fun _ => .pure _
      · exact Keeps.bind .changeRest fun _ => .pure _
    · split
      · exact .bind_lift fun d made => add_keeps fun number same =>
          timestampDatum_ne_decimal made number (Cell.scalar.inj same)
      · split
        · exact Keeps.get.bind fun _ => (scalarText_keeps _ _).bind fun _ => Keeps.get.bind fun _ =>
            .bind_lift fun d made => add_keeps fun number same =>
              scalarDatum_ne_decimal made number (Cell.scalar.inj same)
        · exact .malformed

theorem fillAll_keeps (fuel : Nat) : Keeps Store.IsDecimalFree (fillAll build fuel) := by
  induction fuel with
  | zero => exact .malformed
  | succ fuel ih =>
    rw [fillAll]
    refine Keeps.get.bind fun s => ?_
    dsimp only
    split
    · exact .pure _
    · refine Keeps.bind .changeRest fun _ => (Keeps.forIn fun item => ?_).bind
        fun _ => ih
      refine (collectionAt?_keeps _).bind fun kind? => ?_
      split
      · exact (fill_keeps parts _ _ _).bind fun _ => .pure _
      · exact Keeps.malformed.bind fun _ => .pure _

end

theorem build_keeps (fuel : Nat) (deep : Bool) (node : NodePlace) :
    Keeps Store.IsDecimalFree (build fuel deep node) := by
  induction fuel generalizing deep node with
  | zero => exact .malformed
  | succ fuel ih =>
    rw [build]
    refine Keeps.get.bind fun s => ?_
    split
    · exact .pure _
    -- What is done once the node is marked, whether its parts are made at once or later.
    · have rest : Keeps Store.IsDecimalFree (do
          if s.active.contains node then add (.scalar .absent)
          else
            modify fun s => { s with active := node :: s.active }
            let place ← construct (build fuel) node
            modify fun s' => { s' with
              places := s'.places.setIfInBounds node (some place), active := s'.active.erase node
              deep := if deep then s.deep else s'.deep }
            return place) := by
        split
        · exact add_keeps (by nofun)
        · exact Keeps.bind .changeRest fun _ => (construct_keeps ih node).bind
            fun _ => Keeps.bind .changeRest fun _ => .pure _
      cases deep with
      | false => exact rest
      | true => exact Keeps.bind .changeRest fun _ => rest

theorem assemble_keeps (root : NodePlace) : Keeps Store.IsDecimalFree (assemble root) :=
  Keeps.get.bind fun _ => (build_keeps _ _ _).bind fun _ =>
    (fillAll_keeps (build_keeps _) _).bind fun _ => .pure _

end Assembler

/-- Whether no reading of a text gives decimal numbers. -/
def TextReader.IsDecimalFree (reader : TextReader) : Prop :=
  ∀ text document, reader text = .ok document → document.store.IsDecimalFree

theorem isDecimalFree_read : TextReader.IsDecimalFree read := by
  intro text document done
  unfold read at done
  obtain ⟨graph?, -, done⟩ := exists_of_bind_eq_ok done
  cases graph? with
  | none =>
    cases done
    exact fun c member => List.mem_singleton.1 (Array.mem_toList_iff.2 member) ▸ nofun
  | some graph =>
    obtain ⟨⟨root, s⟩, assembled, same⟩ := exists_of_bind_eq_ok done
    cases same
    exact Assembler.assemble_keeps graph.root _ _ _ assembled fun c member =>
      absurd member (Array.not_mem_empty c)

end Formula.Yaml
