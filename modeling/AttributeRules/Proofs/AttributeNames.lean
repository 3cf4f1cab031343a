import AttributeRules.Proofs.Attributes
import AttributeRules.Proofs.Condition.Acceptance
import AttributeRules.Proofs.Meaning

/-!
# The names of attributes in conditions

A condition may spell the name of its attribute in any letter case, and so may
the list of admitted attributes and the record. The condition is refused for its
attribute if and only if no listed name has the same lowercase; otherwise it is
compared with the value of the name in the record that has it, or with none.

Main statement: `Settings.evaluateCondition_anyCase`.
-/

namespace AttributeRules

open Text

namespace Settings

variable {names : List String} {mode : CaseMode} {record : Record} {text : String} {c : Condition}

/-- A condition is evaluated on the value of the name that is written in it, if that is admitted. -/
theorem evaluateCondition_writing (hc : Condition.parse text = .ok c)
    (w : Condition.Writing text.toList) :
    evaluateCondition ⟨.ofList names, mode⟩ record text =
      if ∃ listed ∈ names, lowercase listed = lowercase (String.ofList w.word) then
        c.test (record.lookup (lowercase (String.ofList w.word))) mode.foldsValues
      else .error (.invalidAttribute (lowercase (String.ofList w.word))) := by
  obtain ⟨hfield, -, -⟩ := w.parse_eq_ok_iff.1 hc
  rw [evaluateCondition_eq hc, hfield]
  simp only [Whitelist.contains_ofList_iff, lowercase_lowercase]

/-- Letter case makes no difference to the names of attributes. A condition fails for its attribute
if and only if no listed name has the lowercase of the name that is written in it. Otherwise it
compares the value of the only name in the record that has this lowercase; none if there is no such
name. Any name is admitted if and only if a listed one has the same lowercase, and as many names are
kept as there are lowercases of listed ones. -/
theorem evaluateCondition_anyCase (names : List String) :
    (∀ (mode : CaseMode) (record : Record), record.CaseDistinct →
      ∀ (text : String) (c : Condition), Condition.parse text = .ok c →
      ∀ w : Condition.Writing text.toList,
        let word := String.ofList w.word
        let answer := evaluateCondition ⟨.ofList names, mode⟩ record text
        ((∃ name, answer = .error (.invalidAttribute name)) ↔
          ¬∃ listed ∈ names, lowercase listed = lowercase word) ∧
        ((∃ listed ∈ names, lowercase listed = lowercase word) →
          (∀ key value, record.get? key = some value → lowercase key = lowercase word →
            answer = c.test (some value) mode.foldsValues) ∧
          ((∀ key, record.get? key ≠ none → lowercase key ≠ lowercase word) →
            answer = c.test none mode.foldsValues))) ∧
    (∀ name, (Whitelist.ofList names).contains name = true ↔
      ∃ listed ∈ names, lowercase listed = lowercase name) ∧
    (Whitelist.ofList names).size = (names.map lowercase).toFinset.card := by
  refine ⟨fun mode record hdistinct text c hc w => ?_,
    fun name => Whitelist.contains_ofList_iff, Whitelist.size_ofList names⟩
  intro word answer
  have hanswer : answer = _ := evaluateCondition_writing hc w
  by_cases hlisted : ∃ listed ∈ names, lowercase listed = lowercase word
  · rw [if_pos hlisted] at hanswer
    refine ⟨iff_of_false ?_ (not_not_intro hlisted), fun _ => ⟨fun key value hget hkey => ?_,
      fun habsent => ?_⟩⟩
    · rintro ⟨name, hname⟩
      cases Condition.kind_of_test (hanswer.symm.trans hname)
    · rw [hanswer, hdistinct.lookup hget hkey]
    · rw [hanswer, Record.lookup_of_absent habsent]
  · rw [if_neg hlisted] at hanswer
    exact ⟨iff_of_true ⟨_, hanswer⟩ hlisted, fun h => absurd h hlisted⟩

/-- The name is spelled in four ways, and the sigma at its end has two lowercases; its value is the
one that is compared. An attribute that is not listed is refused although the record has a value for
it; a listed one that the record does not name has no value. -/
theorem evaluateCondition_anyCase_sigma :
    let names := ["ΟΔΟΣ", "Salary", "οδος"]
    let record := (Record.empty.set "AGE" (.int 40)).set "Οδος" (.str "athinas")
    let answer (text : String) := evaluateCondition ⟨.ofList names, .verbatim⟩ record text
    record.CaseDistinct ∧ answer "οδοΣ == 'athinas'" = .ok true ∧
      answer "ΟΔΟς == 'patras'" = .ok false ∧ answer "SALARY != 5" = .ok true ∧
      (∃ name, answer "age > 30" = .error (.invalidAttribute name)) ∧
      (Whitelist.ofList names).size = (names.map lowercase).toFinset.card := by
  intro names record answer
  have hdistinct : record.CaseDistinct := by decide +kernel
  have hodos : Condition.parse "οδοΣ == 'athinas'" = .ok ⟨"οδος", .equal, .str "athinas"⟩ := by
    decide +kernel
  have hother : Condition.parse "ΟΔΟς == 'patras'" = .ok ⟨"οδος", .equal, .str "patras"⟩ := by
    decide +kernel
  have hsalary : Condition.parse "SALARY != 5" = .ok ⟨"salary", .notEqual, .int 5⟩ := by
    decide +kernel
  have hage : Condition.parse "age > 30" = .ok ⟨"age", .greater, .int 30⟩ := by decide +kernel
  obtain ⟨hcondition, -, hsize⟩ := evaluateCondition_anyCase names
  obtain ⟨w, hw, -⟩ := Condition.exists_writing_of_parse hsalary
  obtain ⟨w', hw', -⟩ := Condition.exists_writing_of_parse hage
  -- Both spellings of the name lead to the value that the record has under a third one.
  have hvalue : ∀ {text : String} {c : Condition}, Condition.parse text = .ok c →
      c.field = "οδος" → answer text = c.test (some (.str "athinas")) false := by
    intro text c hc hfield
    obtain ⟨w, hw, -⟩ := Condition.exists_writing_of_parse hc
    rw [hfield] at hw
    refine ((hcondition .verbatim record hdistinct _ _ hc w).2 ⟨"ΟΔΟΣ", by simp [names], ?_⟩).1
      "Οδος" (.str "athinas") (by simp [record]) ?_
    · rw [hw]
      decide +kernel
    · rw [hw]
      decide +kernel
  have habsent : ∀ key, record.get? key ≠ none →
      lowercase key ≠ lowercase (String.ofList w.word) := by
    rw [hw]
    exact Record.forall_names_iff.2 (by decide +kernel)
  have hnotEqual := ((hcondition .verbatim record hdistinct _ _ hsalary w).2
    (by rw [hw]; decide +kernel)).2 habsent
  have hrefused := (hcondition .verbatim record hdistinct _ _ hage w').1.2
    (by rw [hw']; decide +kernel)
  exact ⟨hdistinct, (hvalue hodos rfl).trans (by decide +kernel),
    (hvalue hother rfl).trans (by decide +kernel), hnotEqual.trans rfl, hrefused, hsize⟩

end Settings

end AttributeRules
