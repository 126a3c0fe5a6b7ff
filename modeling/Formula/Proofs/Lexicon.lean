import Mathlib.Data.List.Nodup
import Formula.Conversion
import Formula.Proofs.Scanner.Run

/-!
What conversion looks at in a lexicon: the meanings of names and symbols, and whether products are
implied. The order in which functions, operators and variables have been added is no part of that.
-/

set_option autoImplicit false

namespace Formula

namespace Lexicon

/-! ### Same meanings -/

/-- Lexicons in which every name and every symbol has the same meaning. -/
structure Alike (lexicon lexicon' : Lexicon) : Prop where
  name?_eq : lexicon'.name? = lexicon.name?
  operator?_eq : lexicon'.operator? = lexicon.operator?
  impliedProducts_eq : lexicon'.impliedProducts = lexicon.impliedProducts

section
variable {lexicon lexicon' : Lexicon} (alike : Alike lexicon lexicon')
include alike

theorem Alike.read (last : Option Token) (c : Char) (rest : List Char) :
    Token.read lexicon' last c rest = Token.read lexicon last c rest := by
  simp only [Token.read, Token.readOperator, Token.readName, alike.name?_eq, alike.operator?_eq]

theorem Alike.handOut (s : Scanner) (token : Token) (rest : List Char) :
    s.handOut lexicon' token rest = s.handOut lexicon token rest := by
  have implied : Scanner.implies lexicon' s.last token = Scanner.implies lexicon s.last token := by
    rw [Scanner.implies, Scanner.implies, alike.impliedProducts_eq]
  rw [Scanner.handOut, Scanner.handOut, implied]

theorem Alike.next (s : Scanner) : s.next lexicon' = s.next lexicon := by
  simp only [Scanner.next, alike.read, alike.handOut]

theorem Alike.run (s : Scanner) : s.run lexicon' = s.run lexicon := by
  induction s using Scanner.run.induct lexicon with
  | case1 s _ token s' done _ _ _ ih =>
    rw [Scanner.run_next done, Scanner.run_next ((alike.next s).trans done), ih]
  | case2 s more error stuck =>
    rw [Scanner.run_stuck more stuck, Scanner.run_stuck more ((alike.next s).trans stuck)]
  | case3 s done =>
    rw [Scanner.run_done (by simpa using done), Scanner.run_done (by simpa using done)]

theorem Alike.toPostfix (text : String) : toPostfix lexicon' text = toPostfix lexicon text := by
  simp only [Formula.toPostfix, alike.run]

end

/-! ### Entries by key -/

section
variable {α : Type} {key : α → String} {entries entries' : List α}

def put (key : α → String) (x : α) (entries : List α) : List α :=
  x :: entries.filter fun y => key y != key x

theorem put_perm (same : entries'.Perm entries) (x : α) :
    (put key x entries').Perm (put key x entries) :=
  (same.filter _).cons x

theorem put_comm {x y : α} (apart : key x ≠ key y) (entries : List α) :
    (put key y (put key x entries)).Perm (put key x (put key y entries)) := by
  have apart' : (key x != key y) = true := by simpa using apart
  have apart'' : (key y != key x) = true := by simpa using apart.symm
  simp only [put, List.filter_cons, apart', apart'', if_true]
  rw [List.filter_comm]
  exact .swap x y _

theorem nodup_put (distinct : (entries.map key).Nodup) (x : α) :
    ((put key x entries).map key).Nodup := by
  rw [put, List.map_cons, List.nodup_cons]
  refine ⟨fun again => ?_, distinct.sublist (List.filter_sublist.map key)⟩
  obtain ⟨y, member, same⟩ := List.mem_map.1 again
  simp [same] at member

/-- Where keys are distinct the order of entries does not matter to what is found by its key. -/
theorem find?_perm (same : entries'.Perm entries) (distinct : (entries'.map key).Nodup)
    (name : String) :
    entries'.find? (fun x => key x == name) = entries.find? (fun x => key x == name) := by
  induction same with
  | nil => rfl
  | cons x _ ih =>
    rw [List.find?_cons, List.find?_cons, ih (List.nodup_cons.1 distinct).2]
  | swap x y entries =>
    simp only [List.map_cons, List.nodup_cons, List.mem_cons, not_or] at distinct
    have apart : key y ≠ key x := distinct.1.1
    simp only [List.find?_cons]
    by_cases first : key x = name
    · have other : (key y == name) = false := by simpa [first] using apart
      simp [first, other]
    · have other : (key x == name) = false := by simpa using first
      simp [other]
  | trans first _ ih ih' =>
    rw [ih distinct, ih' ((first.map key).nodup_iff.1 distinct)]

end

/-! ### Same entries -/

structure SameEntries (lexicon lexicon' : Lexicon) : Prop where
  functions : lexicon'.functions.Perm lexicon.functions
  operators : lexicon'.operators.Perm lexicon.operators
  variableNames : lexicon'.variableNames.Perm lexicon.variableNames
  impliedProducts : lexicon'.impliedProducts = lexicon.impliedProducts

structure Distinct (lexicon : Lexicon) : Prop where
  functions : (lexicon.functions.map (·.name)).Nodup
  operators : (lexicon.operators.map (·.symbol)).Nodup

section
variable {lexicon lexicon' : Lexicon}

theorem SameEntries.refl (lexicon : Lexicon) : SameEntries lexicon lexicon :=
  ⟨.refl _, .refl _, .refl _, rfl⟩

theorem SameEntries.trans {lexicon'' : Lexicon} (first : SameEntries lexicon lexicon')
    (second : SameEntries lexicon' lexicon'') : SameEntries lexicon lexicon'' :=
  ⟨second.functions.trans first.functions, second.operators.trans first.operators,
    second.variableNames.trans first.variableNames,
    second.impliedProducts.trans first.impliedProducts⟩

theorem SameEntries.function?_eq (same : SameEntries lexicon lexicon')
    (distinct : lexicon'.Distinct) : lexicon'.function? = lexicon.function? := by
  funext name
  rw [function?, function?, ownFunction?, ownFunction?,
    find?_perm same.functions distinct.functions]

theorem SameEntries.alike (same : SameEntries lexicon lexicon') (distinct : lexicon'.Distinct) :
    Alike lexicon lexicon' where
  name?_eq := by
    funext name
    rw [name?, name?, same.function?_eq distinct, same.variableNames.contains_eq]
  operator?_eq := by
    funext arity symbol
    rw [operator?, operator?, ownOperator?, ownOperator?,
      find?_perm same.operators distinct.operators]
  impliedProducts_eq := same.impliedProducts

end

end Lexicon

end Formula
