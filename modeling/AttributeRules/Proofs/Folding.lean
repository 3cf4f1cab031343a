import AttributeRules.Proofs.Meaning
import AttributeRules.Proofs.Wording

/-!
# Folding letter case

To fold letter case is to lowercase the strings of a record beforehand, and
then to compare them as they are: every condition gives the same result, or an
error of the same class (`Settings.classify_evaluateCondition`). Only the words
of an error may differ, since they show the value as the record has it.

Main statement: `Settings.foldContext_eq_verbatim`.
-/

namespace AttributeRules

/-! ## Records -/

namespace Record

/-- The record with its strings lowercased, under the same names. -/
def lowercase (r : Record) : Record := ⟨r.values.map fun _ value => value.lowercase⟩

theorem get?_lowercase (r : Record) (name : String) :
    r.lowercase.get? name = (r.get? name).map Value.lowercase :=
  Std.ExtTreeMap.getElem?_map

/-- The value that a rule means is found under the same name as before, also if several names have
the lowercase that is sought. -/
theorem lookup_lowercase (r : Record) (field : String) :
    r.lowercase.lookup field = (r.lookup field).map Value.lowercase := by
  rw [lookup, lookup, get?_lowercase]
  cases r.get? field with
  | some value => rfl
  | none =>
    simp only [lowercase, Std.ExtTreeMap.toList_map, List.find?_map, Option.map_map,
      Option.map_none, Option.orElse_eq_orElse, Option.orElse_none]
    rfl

end Record

/-! ## Conditions -/

namespace Condition

/-- A string is compared in its lowercase, whether it is lowercased on the way or beforehand. -/
theorem classify_testValue (c : Condition) (v : Value) :
    classify (c.testValue v true) = classify (c.testValue v.lowercase false) := by
  obtain ⟨field, comparison, literal⟩ := c
  cases literal <;> cases v <;> rfl

theorem classify_test (c : Condition) (actual : Option Value) :
    classify (c.test actual true) = classify (c.test (actual.map Value.lowercase) false) := by
  cases actual with
  | none => rfl
  | some v => exact c.classify_testValue v

end Condition

/-! ## Trees -/

/-- Trees whose conditions have the same results, up to the details of errors, have the same result
up to the details of errors. -/
theorem Tree.classify_meaning_congr {leaf leaf' : String → Except RuleError Bool}
    (h : ∀ text, classify (leaf text) = classify (leaf' text)) (t : Tree) :
    classify (t.meaning leaf).outcome = classify (t.meaning leaf').outcome := by
  induction t with
  | leaf text => rw [outcome_meaning_leaf, outcome_meaning_leaf, h]
  | join op left right ihl ihr =>
    have hoperand : ∀ (side : Side) (operand : Option Tree),
        (∀ t ∈ operand, classify (t.meaning leaf).outcome = classify (t.meaning leaf').outcome) →
        classify (operandMeaning leaf op side operand).outcome =
          classify (operandMeaning leaf' op side operand).outcome := by
      intro side operand hop
      cases operand with
      | none => rfl
      | some t => exact hop t rfl
    rw [outcome_meaning_join, outcome_meaning_join, classify_bind, classify_bind,
      hoperand .left left ihl]
    refine congrArg (classify (operandMeaning leaf' op .left left).outcome >>= ·)
      (funext fun first => ?_)
    split
    · rfl
    · rw [classify_bind, classify_bind, hoperand .right right ihr]

namespace Settings

variable (w : Whitelist)

theorem classify_evaluateCondition (record : Record) (text : String) :
    classify (evaluateCondition ⟨w, .foldContext⟩ record text) =
      classify (evaluateCondition ⟨w, .verbatim⟩ record.lowercase text) := by
  rcases hc : Condition.parse text with e | c
  · rw [evaluateCondition_of_error hc, evaluateCondition_of_error hc]
  · rw [evaluateCondition_eq hc, evaluateCondition_eq hc, Record.lookup_lowercase]
    split
    · exact c.classify_test (record.lookup c.field)
    · rfl

theorem classify_evaluate (tree : Tree) (record : Record) :
    classify (evaluate ⟨w, .foldContext⟩ tree record).outcome =
      classify (evaluate ⟨w, .verbatim⟩ tree record.lowercase).outcome := by
  rw [outcome_evaluate, outcome_evaluate]
  exact Tree.classify_meaning_congr (classify_evaluateCondition w record) tree

theorem classify_check (rule : String) (record : Record) :
    classify (check ⟨w, .foldContext⟩ rule record).outcome =
      classify (check ⟨w, .verbatim⟩ rule record.lowercase).outcome := by
  have hread : Tree.ofRule .foldContext rule = Tree.ofRule .verbatim rule :=
    @Tree.ofRule_congr .foldContext .verbatim rfl rule
  rw [check, check, Traced.outcome_bind, Traced.outcome_bind, classify_bind, classify_bind, parse,
    parse, hread]
  exact congrArg (classify (Tree.ofRule .verbatim rule).outcome >>= ·)
    (funext fun tree => classify_evaluate w tree record)

/-- Under settings that fold letter case a tree or a rule has the result that it has on the
lowercased record when strings are compared as they are, or fails in the same way, up to the words
of the error. So records that differ in the letter case of their strings only are not told apart,
up to the words of errors. -/
theorem foldContext_eq_verbatim :
    (∀ tree record, classify (evaluate ⟨w, .foldContext⟩ tree record).outcome =
        classify (evaluate ⟨w, .verbatim⟩ tree record.lowercase).outcome) ∧
      (∀ rule record, classify (check ⟨w, .foldContext⟩ rule record).outcome =
        classify (check ⟨w, .verbatim⟩ rule record.lowercase).outcome) ∧
      ∀ record record' : Record,
        (∀ name, (record.get? name).map Value.lowercase =
          (record'.get? name).map Value.lowercase) →
        (∀ tree, classify (evaluate ⟨w, .foldContext⟩ tree record).outcome =
          classify (evaluate ⟨w, .foldContext⟩ tree record').outcome) ∧
        ∀ rule, classify (check ⟨w, .foldContext⟩ rule record).outcome =
          classify (check ⟨w, .foldContext⟩ rule record').outcome := by
  refine ⟨classify_evaluate w, classify_check w, fun record record' h => ?_⟩
  have hsame : record.lowercase = record'.lowercase := by
    ext1 name
    rw [Record.get?_lowercase, Record.get?_lowercase, h]
  constructor
  · intro tree
    rw [classify_evaluate, classify_evaluate, hsame]
  · intro rule
    rw [classify_check, classify_check, hsame]

/-- Two spellings of a department, of which the comparison with a number is an error that shows
them. -/
theorem foldContext_eq_verbatim_department :
    let loud := (Record.empty.set "age" (.int 40)).set "department" (.str "ΟΔΟΣ")
    let quiet := (Record.empty.set "age" (.int 40)).set "department" (.str "Οδος")
    let rule := "Department == 'οδος' and department > 5"
    (∀ name, (loud.get? name).map Value.lowercase = (quiet.get? name).map Value.lowercase) ∧
      classify (check ⟨.standard, .foldContext⟩ rule loud).outcome =
        classify (check ⟨.standard, .foldContext⟩ rule quiet).outcome ∧
      (check ⟨.standard, .foldContext⟩ rule loud).outcome ≠
        (check ⟨.standard, .foldContext⟩ rule quiet).outcome := by
  intro loud quiet rule
  have hsame : ∀ name, (loud.get? name).map Value.lowercase =
      (quiet.get? name).map Value.lowercase := by
    intro name
    simp only [loud, quiet, Record.get?_set]
    split
    · exact congrArg some (by decide +kernel : Value.lowercase _ = Value.lowercase _)
    · rfl
  exact ⟨hsame, ((foldContext_eq_verbatim .standard).2.2 loud quiet hsame).2 rule,
    by decide +kernel⟩

end Settings

end AttributeRules
