import Formula.Input
import Formula.Proofs.Decimal.Reading

/-!
Assignments. The first equals sign ends the name, and blanks around the name do not count. What a
name and a finite number are written as is read as that name and that very number. Whatever else is
read, no assignment yields a blank name, a name with an equals sign or with blanks around it, or a
number that is not finite: such a text is refused, and so is every text whose value is no number.
-/

set_option autoImplicit false

namespace Formula

open Formula.Text

def trimmed (text : String) : String := String.ofList (trim text.toList)

/-- The first equals sign of a text cuts it in two. -/
structure CutAtSign (text written value : String) : Prop where
  parts : text = written ++ "=" ++ value
  plain : '=' ∉ written.toList

section
variable {text written value : String}

theorem exists_cutAtSign (sign : '=' ∈ text.toList) :
    ∃ written value, CutAtSign text written value := by
  obtain ⟨written, value, parts, plain⟩ := List.eq_append_cons_of_mem sign
  refine ⟨String.ofList written, String.ofList value, ?_, by rwa [String.toList_ofList]⟩
  rw [← String.toList_inj, parts]
  simp

theorem trimmed_eq_empty_iff : trimmed text = "" ↔ ∀ c ∈ text.toList, isBlank c = true := by
  rw [trimmed, ← trim_eq_nil_iff, ← String.toList_inj]
  simp

theorem trimmed_trimmed (text : String) : trimmed (trimmed text) = trimmed text := by
  rw [trimmed, trimmed, String.toList_ofList, trim_trim]

theorem CutAtSign.readAssignment_eq (cut : CutAtSign text written value) :
    readAssignment text =
      if trimmed written = "" then .error (.noAssignment text)
      else (readValue (trimmed written) (.text value)).map fun number =>
        (trimmed written, number) := by
  have chars : text.toList = written.toList ++ '=' :: value.toList := by
    rw [cut.parts]
    simp
  have inside : ∀ c ∈ written.toList, decide (c ≠ '=') = true := fun c member =>
    decide_eq_true fun same => cut.plain (same ▸ member)
  have stops : Stops (fun c => decide (c ≠ '=')) ('=' :: value.toList) := by
    intro c next
    cases next
    rfl
  -- What is left behind the name begins with the sign, and the value is all that follows.
  have same : String.ofList value.toList = value := String.ofList_toList
  have empty : (trim written.toList).isEmpty = true ↔ trimmed written = "" := by
    rw [List.isEmpty_iff, trim_eq_nil_iff, trimmed_eq_empty_iff]
  simp only [readAssignment, chars, takeWhile_append_of_stops inside stops,
    dropWhile_append_of_stops inside stops, same]
  exact ite_congr (propext empty) (fun _ => rfl) fun _ => rfl

theorem readAssignment_of_no_sign (noSign : '=' ∉ text.toList) :
    readAssignment text = .error (.noAssignment text) := by
  have inside : ∀ c ∈ text.toList, decide (c ≠ '=') = true := fun c member =>
    decide_eq_true fun same => noSign (same ▸ member)
  have nothing : (text.toList ++ []).dropWhile (fun c => decide (c ≠ '=')) = [] :=
    dropWhile_append_of_stops inside nofun
  rw [List.append_nil] at nothing
  simp only [readAssignment, nothing]

theorem readValue_text (name value : String) : readValue name (.text value) =
    match Decimal.ofText? value with
    | none => .error (.notNumber (quote name) (quote value))
    | some number =>
      if number.isFinite then .ok number else .error (.notFinite (quote name) (quote value)) :=
  rfl

end

/-! ### Outcomes -/

inductive Assigns (text : String) : String → Decimal → Prop where
  | intro {written value : String} {number : Decimal} (cut : CutAtSign text written value)
      (visible : trimmed written ≠ "") (read : Decimal.ofText? value = some number)
      (finite : number.isFinite = true) : Assigns text (trimmed written) number

inductive AssignmentRefused (text : String) : InputError → Prop where
  | noSign (noSign : '=' ∉ text.toList) : AssignmentRefused text (.noAssignment text)
  | blankName {written value : String} (cut : CutAtSign text written value)
      (blank : ∀ c ∈ written.toList, isBlank c = true) :
      AssignmentRefused text (.noAssignment text)
  | notNumber {written value : String} (cut : CutAtSign text written value)
      (visible : trimmed written ≠ "") (unread : Decimal.ofText? value = none) :
      AssignmentRefused text (.notNumber (quote (trimmed written)) (quote value))
  | notFinite {written value : String} {number : Decimal} (cut : CutAtSign text written value)
      (visible : trimmed written ≠ "") (read : Decimal.ofText? value = some number)
      (infinite : number.isFinite = false) :
      AssignmentRefused text (.notFinite (quote (trimmed written)) (quote value))

section
variable {text name : String} {d : Decimal} {error : InputError}

theorem readAssignment_cases (text : String) :
    (∃ name d, readAssignment text = .ok (name, d) ∧ Assigns text name d) ∨
      ∃ error, readAssignment text = .error error ∧ AssignmentRefused text error := by
  by_cases sign : '=' ∈ text.toList
  · obtain ⟨written, value, cut⟩ := exists_cutAtSign sign
    rw [cut.readAssignment_eq]
    by_cases blank : trimmed written = ""
    · rw [if_pos blank]
      exact .inr ⟨_, rfl, .blankName cut (trimmed_eq_empty_iff.1 blank)⟩
    · rw [if_neg blank, readValue_text]
      cases read : Decimal.ofText? value with
      | none => exact .inr ⟨_, rfl, .notNumber cut blank read⟩
      | some number =>
        cases finite : number.isFinite with
        | true => exact .inl ⟨_, _, by simp [finite, Except.map], .intro cut blank read finite⟩
        | false =>
          exact .inr ⟨_, by simp [finite, Except.map], .notFinite cut blank read finite⟩
  · exact .inr ⟨_, readAssignment_of_no_sign sign, .noSign sign⟩

theorem Assigns.readAssignment_eq (assigns : Assigns text name d) :
    readAssignment text = .ok (name, d) := by
  obtain ⟨cut, visible, read, finite⟩ := assigns
  rw [cut.readAssignment_eq, if_neg visible, readValue_text]
  simp [read, finite, Except.map]

theorem AssignmentRefused.readAssignment_eq (refused : AssignmentRefused text error) :
    readAssignment text = .error error := by
  cases refused with
  | noSign noSign => exact readAssignment_of_no_sign noSign
  | blankName cut blank => rw [cut.readAssignment_eq, if_pos (trimmed_eq_empty_iff.2 blank)]
  | notNumber cut visible unread =>
    rw [cut.readAssignment_eq, if_neg visible, readValue_text]
    simp [unread, Except.map]
  | notFinite cut visible read infinite =>
    rw [cut.readAssignment_eq, if_neg visible, readValue_text]
    simp [read, infinite, Except.map]

theorem Assigns.wellFormed (assigns : Assigns text name d) :
    name ≠ "" ∧ '=' ∉ name.toList ∧ trimmed name = name ∧ d.InRange := by
  obtain ⟨cut, visible, read, finite⟩ := assigns
  refine ⟨visible, fun sign => ?_, trimmed_trimmed _, Decimal.inRange_of_ofText? read finite⟩
  rw [trimmed, String.toList_ofList] at sign
  exact cut.plain (mem_of_mem_trim sign)

end

/-- A name that is not blank and has no equals sign, written with any finite number behind it, is
read as the trimmed name with that very number. Whatever text is read, it yields a trimmed name
without an equals sign and a finite number, or it is refused for one of four reasons. -/
theorem readAssignment_decodes :
    (∀ (name : String) (d : Decimal), '=' ∉ name.toList → (∃ c ∈ name.toList, isBlank c = false) →
      d.InRange → readAssignment (name ++ "=" ++ d.toText) = .ok (trimmed name, d)) ∧
    ∀ text : String,
      (∀ name d, readAssignment text = .ok (name, d) → Assigns text name d ∧
        name ≠ "" ∧ '=' ∉ name.toList ∧ trimmed name = name ∧ d.InRange) ∧
      ∀ error, readAssignment text = .error error ↔ AssignmentRefused text error := by
  refine ⟨fun name d plain visible inRange => ?_, fun text => ⟨fun name d done => ?_,
    fun error => ⟨fun failed => ?_, AssignmentRefused.readAssignment_eq⟩⟩⟩
  · have notBlank : trimmed name ≠ "" := fun blank => by
      obtain ⟨c, member, seen⟩ := visible
      rw [trimmed_eq_empty_iff.1 blank c member] at seen
      cases seen
    -- The name has no equals sign, so that the first one is the one behind it.
    exact (Assigns.intro ⟨rfl, plain⟩ notBlank (Decimal.ofText?_toText inRange)
      inRange.isFinite).readAssignment_eq
  · obtain ⟨name', d', done', assigns⟩ | ⟨error, failed, -⟩ := readAssignment_cases text
    · rw [done] at done'
      cases done'
      exact ⟨assigns, assigns.wellFormed⟩
    · rw [done] at failed
      cases failed
  · obtain ⟨name, d, done, -⟩ | ⟨error', failed', refused⟩ := readAssignment_cases text
    · rw [failed] at done
      cases done
    · rw [failed] at failed'
      cases failed'
      exact refused

theorem readAssignment_decodes_negativeZero :
    '=' ∉ "\t πλ ".toList ∧ (∃ c ∈ "\t πλ ".toList, isBlank c = false) ∧
      (Decimal.finite true 0 (-10)).InRange ∧
      readAssignment "\t πλ =-0E-10" = .ok ("πλ", .finite true 0 (-10)) := by
  have plain : '=' ∉ "\t πλ ".toList := by decide
  have visible : ∃ c ∈ "\t πλ ".toList, isBlank c = false :=
    ⟨'π', by decide, by decide⟩
  have inRange : (Decimal.finite true 0 (-10)).InRange := by decide +kernel
  have name : trimmed "\t πλ " = "πλ" := by decide +kernel
  have text : "\t πλ " ++ "=" ++ (Decimal.finite true 0 (-10)).toText = "\t πλ =-0E-10" := by
    decide +kernel
  have read := readAssignment_decodes.1 "\t πλ " _ plain visible inRange
  rw [name, text] at read
  exact ⟨plain, visible, inRange, read⟩

end Formula
