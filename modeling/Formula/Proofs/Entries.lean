import Formula.Proofs.Yaml.Cells
import Formula.Input
import Mathlib.Data.List.Dedup
import Mathlib.Data.List.Induction

/-!
What is loaded from a file that holds a mapping. Keys of all kinds become names, and keys that are
different can become the same name, as the number one and the text `1` do. Then the last of their
entries is the one that stays. So there are as many bindings as there are different names, and each
entry has one of its own exactly if no two keys become the same name. Each binding is finite and is
the number that its entry stands for. Nothing is loaded if an entry stands for no number.
-/

set_option autoImplicit false

namespace Formula

/-! ### Bindings from a list -/

namespace Bindings
variable {pairs : List (String × Decimal)} {name : String} {value : Decimal}

@[simp] theorem ofList_concat (pairs : List (String × Decimal)) (last : String × Decimal) :
    ofList (pairs ++ [last]) = (ofList pairs).set last.1 last.2 := by
  simp [ofList]

@[simp] theorem names_set (bindings : Bindings) (name : String) (value : Decimal) :
    (bindings.set name value).names = name :: bindings.names.filter (· != name) := by
  simp [names, set, List.filter_map, Function.comp_def]

theorem mem_names_ofList : name ∈ (ofList pairs).names ↔ name ∈ pairs.map (·.1) := by
  induction pairs using List.reverseRecOn with
  | nil => rfl
  | append_singleton pairs last ih =>
    rw [ofList_concat, names_set, List.mem_cons, List.mem_filter, ih, List.map_append,
      List.mem_append]
    by_cases same : name = last.1 <;> simp [same]

theorem nodup_names_ofList (pairs : List (String × Decimal)) : (ofList pairs).names.Nodup := by
  induction pairs using List.reverseRecOn with
  | nil => exact List.nodup_nil
  | append_singleton pairs last ih =>
    rw [ofList_concat, names_set]
    exact List.nodup_cons.2 ⟨by simp, ih.filter _⟩

theorem length_ofList (pairs : List (String × Decimal)) :
    (ofList pairs).entries.length = (pairs.map (·.1)).dedup.length := by
  have same := (List.perm_ext_iff_of_nodup (nodup_names_ofList pairs) (List.nodup_dedup _)).2
    fun name => mem_names_ofList.trans List.mem_dedup.symm
  rw [← same.length_eq, names, List.length_map]

theorem get?_ofList_iff : (ofList pairs).get? name = some value ↔
    ∃ before after, pairs = before ++ (name, value) :: after ∧ ∀ p ∈ after, p.1 ≠ name := by
  induction pairs using List.reverseRecOn with
  | nil => simp [ofList, get?]
  | append_singleton pairs last ih =>
    obtain ⟨name', value'⟩ := last
    rw [ofList_concat, get?_set]
    constructor
    · split
      · rintro ⟨⟩
        exact ⟨pairs, [], by simp [*], by simp⟩
      · intro found
        obtain ⟨before, after, rfl, distinct⟩ := ih.1 found
        refine ⟨before, after ++ [(name', value')], by simp, fun p member => ?_⟩
        obtain member | rfl := by simpa using member
        · exact distinct p member
        · exact Ne.symm ‹_›
    · rintro ⟨before, after, same, distinct⟩
      obtain rfl | ⟨after, last, rfl⟩ := List.eq_nil_or_concat after
      · obtain ⟨-, rfl, rfl⟩ := by simpa using same
        simp
      · have same : pairs ++ [(name', value')] = (before ++ (name, value) :: after) ++ [last] := by
          rw [same, List.concat_eq_append, List.append_assoc, List.cons_append]
        obtain ⟨rfl, lastSame⟩ := List.append_inj' same rfl
        cases lastSame
        have other : name ≠ name' := (distinct (name', value') (by simp)).symm
        rw [if_neg other]
        exact ih.2 ⟨before, after, rfl, fun p member => distinct p (by simp [member])⟩

end Bindings

/-! ### One entry -/

/-- The number that a datum from a text stands for as the value of a name: texts are read, integers
are taken exactly, and doubles are taken as they are written. -/
inductive Datum.StandsFor : Datum → Decimal → Prop
  | text {text : String} {number : Decimal} (read : Decimal.ofText? text = some number)
      (finite : number.isFinite) : StandsFor (.text text) number
  | integer (value : Int) : StandsFor (.integer value) (.ofInt value)
  | double {value : Float} {number : Decimal} (written : Double.toDecimal? value = some number) :
      StandsFor (.double value) number

theorem Double.isFinite_of_toDecimal? {x : Float} {number : Decimal}
    (written : toDecimal? x = some number) : number.isFinite := by
  obtain ⟨parts, -, rfl⟩ := Option.map_eq_some_iff.1 written
  rfl

theorem Datum.StandsFor.isFinite {d : Datum} {number : Decimal} (stands : d.StandsFor number) :
    number.isFinite := by
  cases stands with
  | text read finite => exact finite
  | integer value => rfl
  | double written => exact Double.isFinite_of_toDecimal? written

theorem Datum.StandsFor.unique {d : Datum} {number number' : Decimal} (stands : d.StandsFor number)
    (stands' : d.StandsFor number') : number = number' := by
  cases stands with
  | text read _ =>
    cases stands' with
    | text read' _ => exact Option.some.inj (read.symm.trans read')
  | integer value =>
    cases stands'
    rfl
  | double written =>
    cases stands' with
    | double written' => exact Option.some.inj (written.symm.trans written')

section
variable {d : Datum} (free : ∀ number, d ≠ .decimal number) {name : String} {number : Decimal}
include free

theorem readValueOf_eq_ok_iff : readValueOf name d = .ok number ↔ d.StandsFor number := by
  constructor
  · intro done
    unfold readValueOf at done
    split at done
    · split at done
      · cases done
      · rename_i read
        split at done
        · cases done
          exact .text read ‹_›
        · cases done
    · split at done
      · rename_i value converted
        cases done
        unfold Datum.toDecimal at converted
        split at converted
        · exact absurd rfl (free _)
        · cases converted
        · cases converted
          exact .integer _
        · split at converted
          · cases converted
            exact .double ‹_›
          · cases converted
        · cases converted
      · cases done
  · rintro (⟨read, finite⟩ | value | written)
    · simp [readValueOf, read, finite]
    · rfl
    · simp [readValueOf, Datum.toDecimal, written]

theorem readShown_eq_ok_iff : readShown name d = .ok number ↔ d.StandsFor number := by
  rw [← @readValueOf_eq_ok_iff d free name, readShown]
  split
  · simp [*]
  · rw [‹readValueOf name d = _›]
    split <;> simp

end

/-- Why a datum is refused as the value of a name. What is no number has to be shown, and then
integers in it that are too long for that are reported instead. -/
inductive Datum.Refused (name : String) : Datum → LoadError → Prop
  | notFinite {text : String} {number : Decimal} (read : Decimal.ofText? text = some number)
      (infinite : number.isFinite = false) :
      Refused name (.text text) (.input (.notFinite name (Datum.text text).shown))
  | notNumber {d : Datum} (short : d.isShowable) (noNumber : ∀ number, ¬ d.StandsFor number) :
      Refused name d (.input (.notNumber name d.shown))
  | long {d : Datum} (long : d.isShowable = false) (noNumber : ∀ number, ¬ d.StandsFor number) :
      Refused name d (.content (.longInteger none))

theorem Datum.Refused.no_number {name : String} {d : Datum} {error : LoadError}
    (refused : d.Refused name error) (number : Decimal) : ¬ d.StandsFor number := by
  cases refused with
  | notFinite read infinite =>
    rintro (⟨read', finite⟩ | _ | _)
    rw [read] at read'
    cases read'
    simp [infinite] at finite
  | notNumber short noNumber => exact noNumber number
  | long long noNumber => exact noNumber number

theorem reason_of_readValueOf {name : String} {d : Datum} {reason : InputError}
    (failed : readValueOf name d = .error reason) :
    (∃ text number, d = .text text ∧ Decimal.ofText? text = some number ∧
      number.isFinite = false ∧ reason = .notFinite name d.shown) ∨
      reason = .notNumber name d.shown := by
  unfold readValueOf at failed
  split at failed
  · split at failed
    · cases failed
      exact .inr rfl
    · rename_i number read
      split at failed
      · cases failed
      · rename_i infinite
        cases failed
        exact .inl ⟨_, number, rfl, read, by simpa using infinite, rfl⟩
  · split at failed
    · cases failed
    · cases failed
      exact .inr rfl

theorem refused_of_readShown {d : Datum} (free : ∀ number, d ≠ .decimal number) {name : String}
    {error : LoadError} (failed : readShown name d = .error error) : d.Refused name error := by
  have noNumber : ∀ number, ¬ d.StandsFor number := fun number stands => by
    rw [(readShown_eq_ok_iff free).2 stands] at failed
    cases failed
  unfold readShown at failed
  split at failed
  · cases failed
  · rename_i reason stuck
    split at failed
    · rename_i short
      cases failed
      obtain ⟨text, number, rfl, read, infinite, rfl⟩ | rfl := reason_of_readValueOf stuck
      · exact .notFinite read infinite
      · exact .notNumber short noNumber
    · rename_i long
      cases failed
      exact .long (eq_false_of_ne_true long) noNumber

/-! ### All entries -/

namespace Yaml.Store

def nameOf (s : Store) (entry : Place × Place) : String := (s.datum entry.1).plain

def Binds (s : Store) (entry : Place × Place) (number : Decimal) : Prop :=
  (s.datum entry.1).isShowable ∧ (s.datum entry.2).StandsFor number

/-- Why an entry is refused: its key is too long to be shown, or its value is refused. -/
def Refuses (s : Store) (entry : Place × Place) (error : LoadError) : Prop :=
  (s.datum entry.1).isShowable = false ∧ error = .content (.longInteger none) ∨
    (s.datum entry.1).isShowable ∧ (s.datum entry.2).Refused (s.datum entry.1).quotedPlain error

variable {s : Store} {entries : List (Place × Place)} {entry : Place × Place}

theorem not_binds_of_refuses {error : LoadError} (refused : s.Refuses entry error)
    (number : Decimal) : ¬ s.Binds entry number := by
  rintro ⟨short, stands⟩
  obtain ⟨long, -⟩ | ⟨-, refused⟩ := refused
  · rw [short] at long
    cases long
  · exact refused.no_number number stands

theorem binds_or_refuses (free : s.IsDecimalFree) (entry : Place × Place)
    (rest : List (Place × Place)) :
    (∃ number, s.Binds entry number ∧ readEntries s (entry :: rest) =
        (readEntries s rest).map ((s.nameOf entry, number) :: ·)) ∨
      ∃ error, s.Refuses entry error ∧ readEntries s (entry :: rest) = .error error := by
  obtain ⟨key, value⟩ := entry
  rw [readEntries]
  dsimp only
  -- The key is shown before the value is read, so a long integer in it comes first.
  cases short : (s.datum key).isShowable with
  | false => exact .inr ⟨_, .inl ⟨short, rfl⟩, rfl⟩
  | true =>
    cases read : readShown (s.datum key).quotedPlain (s.datum value) with
    | ok number =>
      refine .inl ⟨number, ⟨short, (readShown_eq_ok_iff (free.datum_ne value)).1 read⟩, ?_⟩
      cases readEntries s rest <;> rfl
    | error error =>
      exact .inr ⟨error, .inr ⟨short, refused_of_readShown (free.datum_ne value) read⟩, rfl⟩

theorem binds_of_readEntries (free : s.IsDecimalFree) {pairs : List (String × Decimal)}
    (done : readEntries s entries = .ok pairs) :
    (∀ entry ∈ entries, ∃ number, s.Binds entry number) ∧
      ∀ value : Place × Place → Decimal, (∀ entry ∈ entries, s.Binds entry (value entry)) →
        pairs = entries.map fun entry => (s.nameOf entry, value entry) := by
  induction entries generalizing pairs with
  | nil =>
    cases done
    exact ⟨by simp, fun _ _ => rfl⟩
  | cons entry rest ih =>
    obtain ⟨number, binds, step⟩ | ⟨error, -, step⟩ := binds_or_refuses free entry rest
    · rw [step] at done
      obtain ⟨pairs, later, rfl⟩ := exists_of_map_eq_ok done
      obtain ⟨each, same⟩ := ih later
      refine ⟨List.forall_mem_cons.2 ⟨⟨number, binds⟩, each⟩, fun value all => ?_⟩
      obtain ⟨here, behind⟩ := List.forall_mem_cons.1 all
      rw [List.map_cons, ← same value behind, binds.2.unique here.2]
    · rw [step] at done
      cases done

/-- The first entry that binds nothing is the one that is reported. -/
theorem refuses_of_readEntries (free : s.IsDecimalFree) {error : LoadError}
    (failed : readEntries s entries = .error error) :
    ∃ before entry after, entries = before ++ entry :: after ∧
      (∀ earlier ∈ before, ∃ number, s.Binds earlier number) ∧ s.Refuses entry error := by
  induction entries with
  | nil => cases failed
  | cons entry rest ih =>
    obtain ⟨number, binds, step⟩ | ⟨error', refused, step⟩ := binds_or_refuses free entry rest
    · rw [step] at failed
      cases later : readEntries s rest with
      | ok pairs => rw [later] at failed; cases failed
      | error error' =>
        rw [later] at failed
        cases failed
        obtain ⟨before, entry', after, rfl, fine, refused⟩ := ih later
        exact ⟨entry :: before, entry', after, rfl,
          List.forall_mem_cons.2 ⟨⟨number, binds⟩, fine⟩, refused⟩
    · rw [step] at failed
      cases failed
      exact ⟨[], entry, rest, rfl, by simp, refused⟩

end Yaml.Store

/-! ### Whole files -/

section
variable {reader : Yaml.TextReader} {path : String}

theorem readBindingsWith_of_mapping {text : List Char} {document : Yaml.Document}
    {entries : List (Yaml.Place × Yaml.Place)} (read : reader (unifyLineEnds text) = .ok document)
    (mapping : document.store.entries? document.root = some entries) :
    readBindingsWith reader path text =
      (readEntries document.store entries).map Bindings.ofList := by
  simp only [readBindingsWith, read, mapping]

theorem loadBindingsWith_of_text (reachable : hasNul path = false) {bytes : ByteArray}
    {text : String} (decoded : String.fromUTF8? bytes = some text) :
    loadBindingsWith reader path (.bytes bytes) =
      readBindingsWith reader (normalizePath path) text.toList := by
  simp only [loadBindingsWith, reachable, decoded, Bool.false_eq_true, if_false]

end

/-- Whether bindings are those of the entries of a mapping: each entry binds its name to a number,
each name has the number of the last entry that binds it, and there are no other bindings. -/
structure Bindings.Hold (bindings : Bindings) (s : Yaml.Store)
    (entries : List (Yaml.Place × Yaml.Place)) : Prop where
  eachBinds : ∀ entry ∈ entries, ∃ number, s.Binds entry number ∧ number.isFinite
  get?_iff : ∀ name number, bindings.get? name = some number ↔
    ∃ before entry after, entries = before ++ entry :: after ∧ s.nameOf entry = name ∧
      s.Binds entry number ∧ ∀ later ∈ after, s.nameOf later ≠ name
  nodup_names : bindings.names.Nodup
  length_eq : bindings.entries.length = (entries.map s.nameOf).dedup.length

theorem Bindings.hold_ofList {s : Yaml.Store} {entries : List (Yaml.Place × Yaml.Place)}
    (value : Yaml.Place × Yaml.Place → Decimal)
    (binds : ∀ entry ∈ entries, s.Binds entry (value entry)) :
    (ofList (entries.map fun entry => (s.nameOf entry, value entry))).Hold s entries where
  eachBinds entry member := ⟨_, binds entry member, (binds entry member).2.isFinite⟩
  get?_iff name number := by
    rw [get?_ofList_iff]
    constructor
    · rintro ⟨before, after, same, distinct⟩
      obtain ⟨before, rest, rfl, -, same⟩ := List.map_eq_append_iff.1 same
      obtain ⟨entry, after, rfl, named, rfl⟩ := List.map_eq_cons_iff.1 same
      cases named
      refine ⟨before, entry, after, rfl, rfl, binds entry (by simp), fun later member => ?_⟩
      exact distinct _ (List.mem_map_of_mem member)
    · rintro ⟨before, entry, after, rfl, rfl, bound, distinct⟩
      -- An entry binds its name to one number only, so this is the one that is listed.
      have same := bound.2.unique (binds entry (by simp)).2
      subst same
      refine ⟨_, _, by rw [List.map_append, List.map_cons], fun p member => ?_⟩
      obtain ⟨later, among, rfl⟩ := List.mem_map.1 member
      exact distinct later among
  nodup_names := nodup_names_ofList _
  length_eq := by rw [length_ofList, List.map_map]; rfl

/-- One binding for each entry, exactly if no two entries have the same name. -/
theorem Bindings.Hold.length_eq_iff {bindings : Bindings} {s : Yaml.Store}
    {entries : List (Yaml.Place × Yaml.Place)} (hold : bindings.Hold s entries) :
    bindings.entries.length = entries.length ↔ (entries.map s.nameOf).Nodup := by
  rw [hold.length_eq, ← List.length_map s.nameOf, ← List.dedup_eq_self]
  exact ⟨(List.dedup_sublist _).eq_of_length, congrArg List.length⟩

/-- Whichever reader is used, a file that holds a mapping is loaded as the bindings of its entries,
or refused for the first entry that binds nothing. So no entry is lost exactly if no two keys become
the same name. -/
theorem loadBindings_of_mapping {reader : Yaml.TextReader} (decimalFree : reader.IsDecimalFree)
    {path : String} {content : ByteArray} {text : String} {document : Yaml.Document}
    {entries : List (Yaml.Place × Yaml.Place)} (reachable : hasNul path = false)
    (decoded : String.fromUTF8? content = some text)
    (read : reader (unifyLineEnds text.toList) = .ok document)
    (mapping : document.store.entries? document.root = some entries) :
    (∀ bindings, loadBindingsWith reader path (.bytes content) = .ok bindings →
      bindings.Hold document.store entries ∧
        (bindings.entries.length = entries.length ↔ (entries.map document.store.nameOf).Nodup)) ∧
    ∀ error, loadBindingsWith reader path (.bytes content) = .error error →
      ∃ before entry after, entries = before ++ entry :: after ∧
        (∀ earlier ∈ before, ∃ number, document.store.Binds earlier number) ∧
        document.store.Refuses entry error ∧ ∀ number, ¬ document.store.Binds entry number := by
  have free := decimalFree _ document read
  have loaded : loadBindingsWith reader path (.bytes content) =
      (readEntries document.store entries).map Bindings.ofList := by
    rw [loadBindingsWith_of_text reachable decoded, readBindingsWith_of_mapping read mapping]
  refine ⟨fun bindings done => ?_, fun error failed => ?_⟩
  · obtain ⟨pairs, ran, rfl⟩ := Yaml.exists_of_map_eq_ok (loaded.symm.trans done)
    obtain ⟨each, same⟩ := Yaml.Store.binds_of_readEntries free ran
    -- Each entry binds its name to a number of its own, and the pairs that are read are these.
    choose! value binds using each
    obtain rfl := same value binds
    exact ⟨Bindings.hold_ofList value binds, (Bindings.hold_ofList value binds).length_eq_iff⟩
  · cases ran : readEntries document.store entries with
    | ok pairs =>
      rw [loaded, ran] at failed
      cases failed
    | error error' =>
      rw [loaded, ran] at failed
      cases failed
      obtain ⟨before, entry, after, same, fine, refused⟩ :=
        Yaml.Store.refuses_of_readEntries free ran
      exact ⟨before, entry, after, same, fine, refused, Yaml.Store.not_binds_of_refuses refused⟩

theorem exists_of_any_toOption {ε α : Type} {outcome : Except ε α} {check : α → Bool}
    (passed : outcome.toOption.any check) : ∃ result, outcome = .ok result ∧ check result := by
  cases outcome with
  | error error => cases passed
  | ok result => exact ⟨result, rfl, passed⟩

def sizes : String := "height: 3\nwidth: '2.50'\n"

theorem loadBindings_of_mapping_sizes :
    ∃ document entries bindings, Yaml.TextReader.IsDecimalFree Yaml.read ∧
      hasNul "vars.yaml" = false ∧
      String.fromUTF8? sizes.toUTF8 = some sizes ∧
      Yaml.read (unifyLineEnds sizes.toList) = .ok document ∧
      document.store.entries? document.root = some entries ∧
      loadBindings "vars.yaml" (.bytes sizes.toUTF8) = .ok bindings ∧
      bindings.Hold document.store entries ∧ bindings.entries.length = entries.length := by
  have decoded : String.fromUTF8? sizes.toUTF8 = some sizes := by decide +kernel
  obtain ⟨document, read, found⟩ : ∃ document,
      Yaml.read (unifyLineEnds sizes.toList) = .ok document ∧
        (document.store.entries? document.root).any fun entries =>
          decide (entries.map document.store.nameOf).Nodup :=
    exists_of_any_toOption (by decide +kernel)
  obtain ⟨entries, mapping, distinct⟩ := (Option.any_eq_true _ _).1 found
  obtain ⟨bindings, loaded, -⟩ : ∃ bindings,
      loadBindings "vars.yaml" (.bytes sizes.toUTF8) = .ok bindings ∧ true :=
    exists_of_any_toOption (by decide +kernel)
  have reachable : hasNul "vars.yaml" = false := by decide
  obtain ⟨hold, each⟩ := (loadBindings_of_mapping Yaml.isDecimalFree_read reachable decoded read
    mapping).1 bindings loaded
  exact ⟨document, entries, bindings, Yaml.isDecimalFree_read, reachable, decoded, read, mapping,
    loaded, hold, each.2 (of_decide_eq_true distinct)⟩

def alikeKeys : String := "1: 5\n\"1\": 6\n"

/-- No two keys are the same, but one of the two entries is lost. -/
theorem entry_lost_of_alikeKeys :
    ∃ document entries bindings,
      Yaml.read (unifyLineEnds alikeKeys.toList) = .ok document ∧
      document.store.entries? document.root = some entries ∧
      entries.Pairwise (fun entry later => document.store.fits entry.1 later.1 = false) ∧
      loadBindings "vars.yaml" (.bytes alikeKeys.toUTF8) = .ok bindings ∧
      entries.length = 2 ∧ bindings.entries.length = 1 := by
  obtain ⟨document, read, found⟩ : ∃ document,
      Yaml.read (unifyLineEnds alikeKeys.toList) = .ok document ∧
        (document.store.entries? document.root).any fun entries => decide (
          entries.Pairwise (fun entry later => document.store.fits entry.1 later.1 = false) ∧
            entries.length = 2) :=
    exists_of_any_toOption (by decide +kernel)
  obtain ⟨entries, mapping, kept⟩ := (Option.any_eq_true _ _).1 found
  obtain ⟨distinct, two⟩ := of_decide_eq_true kept
  obtain ⟨bindings, loaded, one⟩ : ∃ bindings,
      loadBindings "vars.yaml" (.bytes alikeKeys.toUTF8) = .ok bindings ∧
        decide (bindings.entries.length = 1) :=
    exists_of_any_toOption (by decide +kernel)
  exact ⟨document, entries, bindings, read, mapping, distinct, loaded, two,
    of_decide_eq_true one⟩

end Formula
