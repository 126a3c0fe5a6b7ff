import Mathlib.Data.List.Induction
import Mathlib.Data.List.Infix
import Formula.Proofs.Scanner.Calls
import Formula.Proofs.Scanner.Product

/-!
What names and symbols resolve to. From the front of a run of name or operator characters the
longest word that is known is taken, and the scanner goes on behind it. Where the run begins with no
known word, the error names the whole run and nothing is taken. A run of operator characters is cut
into operators that way, and the operator that was cut off last tells how many operands a sign
behind it takes.
-/

set_option autoImplicit false

namespace Formula

open Formula.Text

/-! ### Longest prefixes -/

def HasPrefix (known : String → Prop) (run : List Char) : Prop :=
  ∃ taken, taken ≠ [] ∧ taken <+: run ∧ known (String.ofList taken)

/-- The run begins with the known word, and with no longer one. -/
structure LongestPrefix (known : String → Prop) (run taken : List Char) : Prop where
  ne_nil : taken ≠ []
  front : taken <+: run
  isKnown : known (String.ofList taken)
  longest : ∀ other, other ≠ [] → other <+: run → known (String.ofList other) →
    other.length ≤ taken.length

section
variable {known : String → Prop} {run taken : List Char}

theorem HasPrefix.exists_longest (has : HasPrefix known run) :
    ∃ taken, LongestPrefix known run taken := by
  induction run using List.reverseRecOn with
  | nil =>
    obtain ⟨taken, someChar, front, _⟩ := has
    exact absurd (List.prefix_nil.1 front) someChar
  | append_singleton run c ih =>
    by_cases whole : known (String.ofList (run ++ [c]))
    · exact ⟨run ++ [c], by simp, List.prefix_refl _, whole, fun _ _ front _ => front.length_le⟩
    · have shorter {word : List Char} (front : word <+: run ++ [c])
          (isKnown : known (String.ofList word)) : word <+: run :=
        (List.prefix_concat_iff.1 front).resolve_left fun same => whole (same ▸ isKnown)
      obtain ⟨word, someChar, front, isKnown⟩ := has
      obtain ⟨taken, longest⟩ := ih ⟨word, someChar, shorter front isKnown, isKnown⟩
      refine ⟨taken, longest.ne_nil, longest.front.trans (List.prefix_append run [c]),
        longest.isKnown, fun other someChar' front' isKnown' => ?_⟩
      exact longest.longest other someChar' (shorter front' isKnown') isKnown'

theorem LongestPrefix.hasPrefix (longest : LongestPrefix known run taken) : HasPrefix known run :=
  ⟨taken, longest.ne_nil, longest.front, longest.isKnown⟩

theorem LongestPrefix.unique {taken' : List Char} (longest : LongestPrefix known run taken)
    (longest' : LongestPrefix known run taken') : taken = taken' := by
  have shorter := longest'.longest taken longest.ne_nil longest.front longest.isKnown
  have shorter' := longest.longest taken' longest'.ne_nil longest'.front longest'.isKnown
  exact (List.prefix_of_prefix_length_le longest.front longest'.front shorter).eq_of_length
    (Nat.le_antisymm shorter shorter')

theorem longestPrefix_iff : LongestPrefix known run taken ↔
    taken ≠ [] ∧ taken <+: run ∧ known (String.ofList taken) ∧
      ∀ other ∈ run.inits, other ≠ [] → known (String.ofList other) →
        other.length ≤ taken.length := by
  simp only [List.mem_inits]
  constructor
  · rintro ⟨someChar, front, isKnown, longest⟩
    exact ⟨someChar, front, isKnown, fun other front someChar => longest other someChar front⟩
  · rintro ⟨someChar, front, isKnown, longest⟩
    exact ⟨someChar, front, isKnown, fun other someChar front => longest other front someChar⟩

instance [DecidablePred known] : Decidable (LongestPrefix known run taken) :=
  decidable_of_iff _ longestPrefix_iff.symm

namespace Token

variable {α : Type} {meaning : String → Option α} {p : Char → Bool} {rest : List Char} {a : α}
  (agree : ∀ word, known word ↔ ∃ a, meaning word = some a)
include agree

theorem isLongest_of_longestPrefix
    (longest : LongestPrefix known ((taken ++ rest).takeWhile p) taken)
    (means : meaning (String.ofList taken) = some a) :
    IsLongest p (fun chars => meaning (String.ofList chars)) taken rest a := by
  obtain ⟨left, run⟩ := longest.front
  have inside := inside_of_takeWhile run.symm
  have shorter := longest.longest
  rw [List.takeWhile_append_of_pos inside] at shorter
  refine ⟨longest.ne_nil, inside, means, fun more someMore front => ?_⟩
  rw [Option.eq_none_iff_forall_ne_some]
  intro a' means'
  have bound := shorter (taken ++ more) (by simp [longest.ne_nil])
    ((List.prefix_append_right_inj taken).2 front) ((agree _).2 ⟨a', means'⟩)
  have someLength := List.length_pos_iff.2 someMore
  rw [List.length_append] at bound
  omega

theorem longestKnown_of_not_hasPrefix (unknown : ¬HasPrefix known run) :
    longestKnown (fun chars => meaning (String.ofList chars)) [] run = none := by
  rw [longestKnown_eq_none_iff]
  intro word someChar front
  rw [Option.eq_none_iff_forall_ne_some]
  exact fun a means => unknown ⟨word, someChar, front, (agree _).2 ⟨a, means⟩⟩

end Token

end

/-! ### Meanings -/

namespace Lexicon

variable {lexicon : Lexicon} {last : Option Token} {name symbol : String} {i : Item}
  {op : Operator}

def KnowsName (lexicon : Lexicon) (name : String) : Prop :=
  name ∈ lexicon.variableNames ∨ (∃ f ∈ lexicon.functions, f.name = name) ∨
    ∃ f ∈ Function.standard, f.name = name

instance : DecidablePred lexicon.KnowsName := fun name =>
  inferInstanceAs (Decidable (name ∈ lexicon.variableNames ∨
    (∃ f ∈ lexicon.functions, f.name = name) ∨ ∃ f ∈ Function.standard, f.name = name))

/-- What a name resolves to: a variable before an own function, and that before a standard one. -/
inductive NameMeans (lexicon : Lexicon) (name : String) : Item → Prop where
  | var (declared : name ∈ lexicon.variableNames) : NameMeans lexicon name (.var name)
  | own {f : Function} (undeclared : name ∉ lexicon.variableNames)
      (found : lexicon.ownFunction? name = some f) : NameMeans lexicon name (.function f)
  | standard {f : Function} (undeclared : name ∉ lexicon.variableNames)
      (noOwn : ∀ own ∈ lexicon.functions, own.name ≠ name)
      (found : Function.standard? name = some f) : NameMeans lexicon name (.function f)

theorem name?_eq_some_iff : lexicon.name? name = some i ↔ lexicon.NameMeans name i := by
  constructor
  · intro found
    unfold name? at found
    split at found
    · rename_i declared
      cases found
      exact .var (List.contains_iff_mem.1 declared)
    · rename_i undeclared
      rw [List.contains_iff_mem] at undeclared
      obtain ⟨f, known, rfl⟩ := Option.map_eq_some_iff.1 found
      rcases Option.or_eq_some_iff.1 known with own | ⟨noOwn, standard⟩
      · exact .own undeclared own
      · exact .standard undeclared (ownFunction?_eq_none_iff.1 noOwn) standard
  · rintro (declared | ⟨undeclared, found⟩ | ⟨undeclared, noOwn, found⟩)
    · simp [name?, declared]
    · simp [name?, function?, undeclared, found]
    · simp [name?, function?, undeclared, ownFunction?_eq_none_iff.2 noOwn, found]

theorem knowsName_iff (name : String) :
    lexicon.KnowsName name ↔ ∃ i, lexicon.name? name = some i := by
  have own : (∃ f ∈ lexicon.functions, f.name = name) ↔
      (lexicon.ownFunction? name).isSome = true := by simp [ownFunction?]
  have standard : (∃ f ∈ Function.standard, f.name = name) ↔
      (Function.standard? name).isSome = true := by simp [Function.standard?]
  rw [KnowsName, own, standard, ← Option.isSome_iff_exists, name?]
  by_cases declared : name ∈ lexicon.variableNames
  · simp [declared]
  · simp [declared, function?]

theorem KnowsName.exists_means (known : lexicon.KnowsName name) :
    ∃ i, lexicon.NameMeans name i := by
  obtain ⟨i, found⟩ := (knowsName_iff name).1 known
  exact ⟨i, name?_eq_some_iff.1 found⟩

def KnowsSymbol (lexicon : Lexicon) (symbol : String) : Prop :=
  (∃ op ∈ lexicon.operators, op.symbol = symbol) ∨
    symbol.length = 1 ∧ symbol ∈ Operator.standardSymbols

instance : DecidablePred lexicon.KnowsSymbol := fun symbol =>
  inferInstanceAs (Decidable ((∃ op ∈ lexicon.operators, op.symbol = symbol) ∨
    symbol.length = 1 ∧ symbol ∈ Operator.standardSymbols))

/-- What a symbol resolves to behind the given token: an own operator before a standard one. -/
inductive SymbolMeans (lexicon : Lexicon) (last : Option Token) (symbol : String) :
    Operator → Prop where
  | own {op : Operator} (found : lexicon.ownOperator? symbol = some op) :
      SymbolMeans lexicon last symbol op
  | standard {op : Operator} (noOwn : ∀ own ∈ lexicon.operators, own.symbol ≠ symbol)
      (found : Operator.standard? (arityBehind last) symbol = some op) :
      SymbolMeans lexicon last symbol op

theorem operator?_eq_some_iff :
    lexicon.operator? (arityBehind last) symbol = some op ↔ lexicon.SymbolMeans last symbol op := by
  rw [operator?, Option.or_eq_some_iff, ownOperator?_eq_none_iff]
  constructor
  · rintro (own | ⟨noOwn, standard⟩)
    · exact .own own
    · exact .standard noOwn standard
  · rintro (own | ⟨noOwn, standard⟩)
    · exact .inl own
    · exact .inr ⟨noOwn, standard⟩

theorem knowsSymbol_iff (arity : Arity) (symbol : String) :
    lexicon.KnowsSymbol symbol ↔ ∃ op, lexicon.operator? arity symbol = some op := by
  have single : ∀ symbol ∈ Operator.standardSymbols, symbol.length = 1 := by decide
  have own : (∃ op ∈ lexicon.operators, op.symbol = symbol) ↔
      (lexicon.ownOperator? symbol).isSome = true := by simp [ownOperator?]
  rw [KnowsSymbol, and_iff_right_of_imp (single symbol), Operator.mem_standardSymbols arity, own,
    ← Option.isSome_iff_exists, operator?, Option.isSome_or, Bool.or_eq_true]

theorem KnowsSymbol.exists_means (known : lexicon.KnowsSymbol symbol) (last : Option Token) :
    ∃ op, lexicon.SymbolMeans last symbol op := by
  obtain ⟨op, found⟩ := (knowsSymbol_iff (arityBehind last) symbol).1 known
  exact ⟨op, operator?_eq_some_iff.1 found⟩

end Lexicon

/-! ### Words at the front of a text -/

namespace Token

section
variable {lexicon : Lexicon} {last : Option Token} {text taken rest : List Char} {i : Item}
  {op : Operator} {c : Char}

theorem readName_of_longestPrefix
    (longest : LongestPrefix lexicon.KnowsName ((taken ++ rest).takeWhile isNameChar) taken)
    (means : lexicon.NameMeans (String.ofList taken) i) :
    readName lexicon (taken ++ rest) = .ok (.item i, rest) :=
  (readName_iff taken).2 ⟨i, rfl, isLongest_of_longestPrefix Lexicon.knowsName_iff longest
    (Lexicon.name?_eq_some_iff.2 means)⟩

theorem readName_of_not_hasPrefix
    (unknown : ¬HasPrefix lexicon.KnowsName (text.takeWhile isNameChar)) :
    readName lexicon text = .error (.name (text.takeWhile isNameChar)) := by
  simp only [readName, longestKnown_of_not_hasPrefix Lexicon.knowsName_iff unknown]

theorem readOperator_of_longestPrefix
    (longest : LongestPrefix lexicon.KnowsSymbol ((taken ++ rest).takeWhile isOperatorChar) taken)
    (means : lexicon.SymbolMeans last (String.ofList taken) op) :
    readOperator lexicon last (taken ++ rest) = .ok (.operator op, rest) :=
  (readOperator_iff taken).2 ⟨op, rfl, isLongest_of_longestPrefix
    (Lexicon.knowsSymbol_iff (arityBehind last)) longest (Lexicon.operator?_eq_some_iff.2 means)⟩

theorem readOperator_of_not_hasPrefix
    (unknown : ¬HasPrefix lexicon.KnowsSymbol (text.takeWhile isOperatorChar)) :
    readOperator lexicon last text = .error (.operator (text.takeWhile isOperatorChar)) := by
  simp only [readOperator,
    longestKnown_of_not_hasPrefix (Lexicon.knowsSymbol_iff (arityBehind last)) unknown]

theorem read_of_unknown_symbol (starts : isOperatorChar c = true)
    (unknown : ¬HasPrefix lexicon.KnowsSymbol ((c :: rest).takeWhile isOperatorChar)) :
    read lexicon last c rest = .error (.operator ((c :: rest).takeWhile isOperatorChar)) := by
  rw [read_of_isOperatorChar starts, readOperator_of_not_hasPrefix unknown]

end

end Token

/-! ### Calls -/

namespace Scanner

/-- Nothing is held back, and behind the blanks the scanner goes on with the text from the position
on. -/
structure StandsAt (s : Scanner) (position : Nat) (ahead : List Char) : Prop where
  free : s.held = none
  front : s.rest.dropWhile isBlank = ahead
  behind : s.text.drop position = ahead

section
variable {lexicon : Lexicon} {s : Scanner} {position : Nat} {ahead taken left rest : List Char}
  {c : Char} {fault : ReadFault}

theorem StandsAt.skipBlanks (stands : s.StandsAt position ahead) :
    s.skipBlanks.StandsAt position ahead where
  free := stands.free
  front := (dropWhile_of_stops (stops_skipBlanks s)).trans stands.front
  behind := stands.behind

theorem StandsAt.drop_taken (stands : s.StandsAt position (taken ++ left)) :
    s.text.drop (position + taken.length) = left := by
  rw [← List.drop_drop, stands.behind, List.drop_left]

theorem StandsAt.position_eq (stands : s.StandsAt position (c :: rest)) :
    s.text.length - (rest.length + 1) = position := by
  have lengths := congrArg List.length stands.behind
  rw [List.length_drop, List.length_cons] at lengths
  omega

theorem StandsAt.runsOut_eq_false (stands : s.StandsAt position (c :: rest)) :
    s.runsOut = false := by
  have visible : isBlank c = false := stops_dropWhile s.rest c (by rw [stands.front]; rfl)
  have member : c ∈ s.rest :=
    (List.dropWhile_suffix isBlank).subset (stands.front ▸ List.mem_cons_self)
  simp only [runsOut, Bool.and_eq_false_iff]
  exact .inr (List.all_eq_false.2 ⟨c, member, by simp [visible]⟩)

theorem StandsAt.hasNext (stands : s.StandsAt position (c :: rest)) : s.hasNext = true := by
  have someLeft : s.rest ≠ [] := by
    intro empty
    have front := stands.front
    rw [empty] at front
    cases front
  simp [Scanner.hasNext, someLeft]

theorem StandsAt.next_unread (stands : s.StandsAt position (c :: rest))
    (unread : Token.read lexicon s.last c rest = .error fault) :
    s.next lexicon = .error (.stuck fault position s.text) := by
  rw [next_eq_error_iff, ← stands.position_eq]
  exact .stuck stands.free stands.front unread

theorem StandsAt.call_unread (stands : s.StandsAt position (c :: rest))
    (unread : Token.read lexicon s.last c rest = .error fault) :
    s.call lexicon .next = (.failed (.stuck fault position s.text), s.skipBlanks) := by
  rw [call_next_of_fails (next_eq_error_iff.1 (stands.next_unread unread)),
    stands.runsOut_eq_false]
  rfl

/-! ### Operators behind each other -/

/-- Behind the given token, a run is cut into operators: each is what the longest prefix of what is
left means, and the next one is behind it. No word is known that what is left at last begins
with. -/
inductive Cuts (lexicon : Lexicon) : Option Token → List Char → List Operator → List Char → Prop
    where
  | stop {last : Option Token} {run : List Char} (unknown : ¬HasPrefix lexicon.KnowsSymbol run) :
      Cuts lexicon last run [] run
  | cut {last : Option Token} {taken left left' : List Char} {op : Operator} {ops : List Operator}
      (longest : LongestPrefix lexicon.KnowsSymbol (taken ++ left) taken)
      (means : lexicon.SymbolMeans last (String.ofList taken) op)
      (more : Cuts lexicon (some (.operator op)) left ops left') :
      Cuts lexicon last (taken ++ left) (op :: ops) left'

theorem exists_cuts (lexicon : Lexicon) (last : Option Token) (run : List Char) :
    ∃ ops left, Cuts lexicon last run ops left := by
  induction length : run.length using Nat.strongRecOn generalizing last run with
  | ind n ih =>
    by_cases has : HasPrefix lexicon.KnowsSymbol run
    · obtain ⟨taken, longest⟩ := has.exists_longest
      obtain ⟨left, rfl⟩ := longest.front
      obtain ⟨op, means⟩ := longest.isKnown.exists_means last
      have someChar := List.length_pos_iff.2 longest.ne_nil
      rw [List.length_append] at length
      obtain ⟨ops, left', more⟩ := ih left.length (by omega) (some (.operator op)) left rfl
      exact ⟨op :: ops, left', .cut longest means more⟩
    · exact ⟨[], run, .stop has⟩

def behindOperators (s : Scanner) (ops : List Operator) (rest : List Char) : Scanner :=
  { s with rest, last := lastOf s.last (ops.map Token.operator) }

theorem next_of_longestPrefix {op : Operator} (free : s.held = none)
    (front : s.rest.dropWhile isBlank = taken ++ left)
    (longest : LongestPrefix lexicon.KnowsSymbol ((taken ++ left).takeWhile isOperatorChar) taken)
    (means : lexicon.SymbolMeans s.last (String.ofList taken) op) :
    s.next lexicon = .ok (.operator op, s.behindOperators [op] left) := by
  have read := Token.readOperator_of_longestPrefix longest means
  obtain ⟨behind, run⟩ := longest.front
  have inside := Token.inside_of_takeWhile run.symm
  obtain ⟨c, tail, rfl⟩ := List.exists_cons_of_ne_nil longest.ne_nil
  rw [List.cons_append, ← Token.read_of_isOperatorChar (inside c List.mem_cons_self)] at read
  exact next_eq_ok_iff.2 (.read free front read (not_implied_of_not_startsValue rfl))

namespace Cuts

variable {last : Option Token} {run behind : List Char} {ops : List Operator}

theorem suffix (cuts : Cuts lexicon last run ops left) : left <:+ run := by
  induction cuts with
  | stop => exact List.suffix_refl _
  | cut _ _ _ ih => exact ih.trans (List.suffix_append _ _)

theorem unknown (cuts : Cuts lexicon last run ops left) :
    ¬HasPrefix lexicon.KnowsSymbol left := by
  induction cuts with
  | stop unknown => exact unknown
  | cut _ _ _ ih => exact ih

/-- A scanner in front of the run hands out the operators that it is cut into, and goes on with what
is left of it. -/
theorem run_eq (cuts : Cuts lexicon s.last run ops left) (free : s.held = none)
    (same : s.rest = run ++ behind) (inside : ∀ c ∈ run, isOperatorChar c = true)
    (stops : Stops isOperatorChar behind) :
    s.run lexicon = (ops.map Token.operator ++
        ((s.behindOperators ops (left ++ behind)).run lexicon).1,
      ((s.behindOperators ops (left ++ behind)).run lexicon).2) := by
  generalize before : s.last = last at cuts
  -- Induction on the cut. Behind each operator the scanner is one in front of what is left of the
  -- run.
  induction cuts generalizing s with
  | stop =>
    rw [← same]
    rfl
  | @cut last taken left left' op ops longest means more ih =>
    subst before
    have visible : Stops isBlank s.rest := by
      intro c first
      rw [same, List.append_assoc, List.head?_append_of_ne_nil _ longest.ne_nil] at first
      have member := List.mem_append_left left (List.mem_of_mem_head? first)
      exact not_isBlank_of_isOperatorChar (inside c member)
    have front : s.rest.dropWhile isBlank = taken ++ (left ++ behind) := by
      rw [dropWhile_of_stops visible, same, List.append_assoc]
    have whole : (taken ++ (left ++ behind)).takeWhile isOperatorChar = taken ++ left := by
      rw [← List.append_assoc, takeWhile_append_of_stops inside stops]
    have done := next_of_longestPrefix free front (whole ▸ longest) means
    have later := ih (s := s.behindOperators [op] (left ++ behind)) free rfl
      (fun c member => inside c (List.mem_append_right taken member)) rfl
    rw [run_next done, later]
    rfl

end Cuts

theorem StandsAt.run_skipBlanks (stands : s.StandsAt position (c :: rest)) :
    s.skipBlanks.run lexicon = s.run lexicon := by
  have same : s.skipBlanks.next lexicon = s.next lexicon := by
    simp only [next, stands.free, stands.skipBlanks.free, stands.front, stands.skipBlanks.front]
    rfl
  cases done : s.next lexicon with
  | ok result => rw [run_next done, run_next (same.trans done)]
  | error error =>
    rw [run_stuck stands.hasNext done, run_stuck stands.skipBlanks.hasNext (same.trans done)]

theorem StandsAt.run_of_unknown_symbol (stands : s.StandsAt position (c :: rest))
    (starts : isOperatorChar c = true)
    (unknown : ¬HasPrefix lexicon.KnowsSymbol ((c :: rest).takeWhile isOperatorChar)) :
    s.run lexicon = ([], some (.stuck (.operator ((c :: rest).takeWhile isOperatorChar)) position
      s.text)) :=
  run_stuck stands.hasNext (stands.next_unread (Token.read_of_unknown_symbol starts unknown))

/-- A scanner in front of a run that is cut hands the operators out. It goes on behind the run, or
fails in front of what is left of it. -/
theorem StandsAt.run_of_cuts (stands : s.StandsAt position (c :: rest)) {ops : List Operator}
    (cuts : Cuts lexicon s.last ((c :: rest).takeWhile isOperatorChar) ops left) :
    (left = [] →
      let later := (s.behindOperators ops ((c :: rest).dropWhile isOperatorChar)).run lexicon
      s.run lexicon = (ops.map Token.operator ++ later.1, later.2)) ∧
    (left ≠ [] → s.run lexicon = (ops.map Token.operator, some (.stuck (.operator left)
      (position + (((c :: rest).takeWhile isOperatorChar).length - left.length)) s.text))) := by
  have inside : ∀ c' ∈ (c :: rest).takeWhile isOperatorChar, isOperatorChar c' = true :=
    List.all_eq_true.1 List.all_takeWhile
  have stops : Stops isOperatorChar ((c :: rest).dropWhile isOperatorChar) :=
    stops_dropWhile (c :: rest)
  have parts := List.takeWhile_append_dropWhile (p := isOperatorChar) (l := c :: rest)
  generalize (c :: rest).takeWhile isOperatorChar = run at *
  generalize (c :: rest).dropWhile isOperatorChar = behind at *
  -- In either case the run comes to what is left behind the operators, whatever that is.
  have runs : s.run lexicon = (ops.map Token.operator ++
        ((s.behindOperators ops (left ++ behind)).run lexicon).1,
      ((s.behindOperators ops (left ++ behind)).run lexicon).2) := by
    rw [← stands.run_skipBlanks]
    exact Cuts.run_eq (s := s.skipBlanks) cuts stands.free (stands.front.trans parts.symm) inside
      stops
  refine ⟨fun nothing => ?_, fun something => ?_⟩
  · rw [runs, nothing]
    rfl
  · obtain ⟨cutOff, rfl⟩ := cuts.suffix
    obtain ⟨c', left', rfl⟩ := List.exists_cons_of_ne_nil something
    have starts := inside c' (List.mem_append_right cutOff List.mem_cons_self)
    have restOfRun : (c' :: (left' ++ behind)).takeWhile isOperatorChar = c' :: left' :=
      takeWhile_append_of_stops (fun c member => inside c (List.mem_append_right cutOff member))
        stops
    -- There are blanks in front of the run only; what is left follows the last operator directly.
    have stands' : (s.behindOperators ops (c' :: left' ++ behind)).StandsAt
        (position + cutOff.length) (c' :: (left' ++ behind)) := by
      refine ⟨stands.free, dropWhile_of_stops fun c first => ?_, ?_⟩
      · cases first
        exact not_isBlank_of_isOperatorChar starts
      · rw [← parts, List.append_assoc] at stands
        exact stands.drop_taken
    have fails := stands'.run_of_unknown_symbol starts (restOfRun ▸ cuts.unknown)
    rw [restOfRun] at fails
    rw [runs, fails, List.append_nil, List.length_append, Nat.add_sub_cancel_right]
    rfl

end

/-- Names resolve to the longest prefix that is known, wherever one begins. Where a run of name
characters begins with the name of a variable or function, the longest such name is handed out as
what it means and the text goes on behind it. Where it does not, the error names the whole run,
which stands in the text at the position, and nothing of it is taken. -/
theorem next_name (lexicon : Lexicon) (text : String) (calls : List Call) {position : Nat}
    {c : Char} {rest : List Char}
    (stands : ((ofText text).after lexicon calls).StandsAt position (c :: rest))
    (starts : isNameStart c = true) :
    let s := (ofText text).after lexicon calls
    let whole := trim text.toList
    let run := (c :: rest).takeWhile isNameChar
    (HasPrefix lexicon.KnowsName run → ∃ taken i, LongestPrefix lexicon.KnowsName run taken ∧
      lexicon.NameMeans (String.ofList taken) i ∧
      s.Delivers lexicon (.item i) (whole.drop (position + taken.length))) ∧
    (¬HasPrefix lexicon.KnowsName run →
      s.call lexicon .next = (.failed (.stuck (.name run) position whole), s.skipBlanks) ∧
      (whole.drop position).take run.length = run ∧
      s.skipBlanks.StandsAt position (c :: rest)) := by
  rw [← (endsText_after lexicon text calls).same]
  generalize (ofText text).after lexicon calls = s at stands ⊢
  intro s' whole run
  have read := Token.read_of_isNameStart starts lexicon s.last rest
  constructor
  · intro has
    obtain ⟨taken, longest⟩ := has.exists_longest
    obtain ⟨i, means⟩ := longest.isKnown.exists_means
    obtain ⟨left, parts⟩ := longest.front.trans (List.takeWhile_prefix isNameChar)
    -- The longest prefix of the run is a prefix of the whole text from the position on.
    have behind : whole.drop (position + taken.length) = left := (parts ▸ stands).drop_taken
    rw [← parts, Token.readName_of_longestPrefix (parts ▸ longest) means, ← behind] at read
    exact ⟨taken, i, longest, means, delivers_of_read stands.free stands.front read⟩
  · intro unknown
    rw [Token.readName_of_not_hasPrefix unknown] at read
    have standsThere : run = (whole.drop position).take run.length := by
      rw [stands.behind]
      exact List.prefix_iff_eq_take.1 (List.takeWhile_prefix isNameChar)
    exact ⟨stands.call_unread read, standsThere.symm, stands.skipBlanks⟩

/-- A variable whose name begins a function's, with a point behind that function. -/
theorem next_name_longer_function :
    let lexicon : Lexicon := { variableNames := ["log"] }
    let s := (ofText "2 log10.x").after lexicon [.next]
    s.StandsAt 2 ['l', 'o', 'g', '1', '0', '.', 'x'] ∧ isNameStart 'l' = true ∧
      ∃ f, Function.standard? "log10" = some f ∧
        s.Delivers lexicon (.item (.function f)) ['.', 'x'] := by
  intro lexicon s
  have stands : s.StandsAt 2 ['l', 'o', 'g', '1', '0', '.', 'x'] :=
    ⟨Option.isNone_iff_eq_none.1 (by decide +kernel), by decide +kernel, by decide +kernel⟩
  have starts : isNameStart 'l' = true := by decide +kernel
  have longest : LongestPrefix lexicon.KnowsName ['l', 'o', 'g', '1', '0', '.', 'x']
    ['l', 'o', 'g', '1', '0'] := by decide +kernel
  obtain ⟨taken, i, longest', means, delivers⟩ :=
    (next_name lexicon "2 log10.x" [.next] stands starts).1 longest.hasPrefix
  cases longest'.unique longest
  refine ⟨stands, starts, ?_⟩
  cases means with
  | var declared => exact absurd declared (by decide)
  | own _ found => cases found
  | standard _ _ found => exact ⟨_, found, delivers⟩

/-- Operators resolve to the longest prefix that is known, wherever a run of operator characters
begins. Where the run begins with the symbol of an operator, the longest such symbol is handed out
as what it means behind the last token, and the text goes on behind it. Only where it does not, the
error names the whole run and nothing of it is taken. In this way the run is cut into operators up
to its end, or up to the place where the scanner fails. -/
theorem next_operator (lexicon : Lexicon) (text : String) (calls : List Call) {position : Nat}
    {c : Char} {rest : List Char}
    (stands : ((ofText text).after lexicon calls).StandsAt position (c :: rest))
    (starts : isOperatorChar c = true) :
    let s := (ofText text).after lexicon calls
    let whole := trim text.toList
    let run := (c :: rest).takeWhile isOperatorChar
    (HasPrefix lexicon.KnowsSymbol run → ∃ taken op,
      LongestPrefix lexicon.KnowsSymbol run taken ∧
      lexicon.SymbolMeans s.last (String.ofList taken) op ∧
      s.next lexicon = .ok (.operator op,
        s.behindOperators [op] (whole.drop (position + taken.length)))) ∧
    (s.call lexicon .next = (.failed (.stuck (.operator run) position whole), s.skipBlanks) ↔
      ¬HasPrefix lexicon.KnowsSymbol run) ∧
    s.skipBlanks.StandsAt position (c :: rest) ∧
    ∃ ops left, Cuts lexicon s.last run ops left ∧
      (left = [] →
        let later := (s.behindOperators ops ((c :: rest).dropWhile isOperatorChar)).run lexicon
        s.run lexicon = (ops.map Token.operator ++ later.1, later.2)) ∧
      (left ≠ [] → s.run lexicon = (ops.map Token.operator,
        some (.stuck (.operator left) (position + (run.length - left.length)) whole))) := by
  rw [← (endsText_after lexicon text calls).same]
  generalize (ofText text).after lexicon calls = s at stands ⊢
  intro s' whole run
  have takes (has : HasPrefix lexicon.KnowsSymbol run) : ∃ taken op,
      LongestPrefix lexicon.KnowsSymbol run taken ∧
      lexicon.SymbolMeans s.last (String.ofList taken) op ∧
      s.next lexicon = .ok (.operator op,
        s.behindOperators [op] (whole.drop (position + taken.length))) := by
    obtain ⟨taken, longest⟩ := has.exists_longest
    obtain ⟨op, means⟩ := longest.isKnown.exists_means s.last
    obtain ⟨left, parts⟩ := longest.front.trans (List.takeWhile_prefix isOperatorChar)
    have behind : whole.drop (position + taken.length) = left := (parts ▸ stands).drop_taken
    refine ⟨taken, op, longest, means, behind ▸ ?_⟩
    exact next_of_longestPrefix stands.free (stands.front.trans parts.symm) (parts ▸ longest) means
  refine ⟨takes, ⟨fun failed has => ?_, fun unknown => ?_⟩, stands.skipBlanks, ?_⟩
  · obtain ⟨taken, op, _, _, done⟩ := takes has
    rw [call, done] at failed
    cases failed
  · exact stands.call_unread (Token.read_of_unknown_symbol starts unknown)
  · obtain ⟨ops, left, cuts⟩ := exists_cuts lexicon s.last run
    exact ⟨ops, left, cuts, stands.run_of_cuts cuts⟩

def atLeast : Operator where
  symbol := ">="
  arity := .binary
  leftAssociative := true
  precedence := 100
  apply := Rule.binary fun left _ => .ok left

/-- Two signs behind an own operator of two characters. -/
theorem next_operator_backing_off :
    let lexicon : Lexicon := { operators := [atLeast] }
    let s := (ofText "1 >=--2").after lexicon [.next]
    s.StandsAt 2 ['>', '=', '-', '-', '2'] ∧ isOperatorChar '>' = true ∧
      s.next lexicon = .ok (.operator atLeast, s.behindOperators [atLeast] ['-', '-', '2']) := by
  intro lexicon s
  have stands : s.StandsAt 2 ['>', '=', '-', '-', '2'] :=
    ⟨Option.isNone_iff_eq_none.1 (by decide +kernel), by decide +kernel, by decide +kernel⟩
  have starts : isOperatorChar '>' = true := by decide +kernel
  have longest : LongestPrefix lexicon.KnowsSymbol ['>', '=', '-', '-'] ['>', '='] := by
    decide +kernel
  obtain ⟨taken, op, longest', means, done⟩ :=
    (next_operator lexicon "1 >=--2" [.next] stands starts).1 longest.hasPrefix
  cases longest'.unique longest
  refine ⟨stands, starts, ?_⟩
  cases means with
  | own found =>
    cases found
    exact done
  | standard _ found => cases found

/-- Both signs stand in front of an operand, and the third one behind one. -/
example : ((ofText "1 >=--2-3").run { operators := [atLeast] }).1.map
    (fun | .item (.operator op) => op.arity.count | _ => 0) = [0, 2, 1, 1, 0, 2, 0] := by
  decide +kernel

end Scanner

end Formula
