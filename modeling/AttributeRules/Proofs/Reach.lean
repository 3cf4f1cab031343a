import Mathlib.Order.Basic
import AttributeRules.Proofs.Meaning

/-!
# What an evaluation looks at

An evaluation comes to some of the conditions of a tree (`Tree.Reaches`), and a
condition looks at a record for no other value than that of its own attribute,
and not even for that one if the attribute is not admitted
(`Settings.evaluateCondition_congr`). So records that have the same values for
the admitted attributes of a tree are not told apart by it
(`Settings.evaluate_congr`).
-/

namespace AttributeRules

namespace Tree

variable {leaf leaf' : String → Except RuleError Bool}

/-! ## Conditions that are come to -/

/-- The evaluation of the tree comes to the condition with this text. A right operand is come to
after the left one has a result, and not behind an `or` that holds already. -/
inductive Reaches (leaf : String → Except RuleError Bool) (text : String) : Tree → Prop
  | leaf : Reaches leaf text (.leaf text)
  | left {op : Connective} {l : Tree} {right : Option Tree} :
    Reaches leaf text l → Reaches leaf text (.join op (some l) right)
  | right {op : Connective} {l r : Tree} {first : Bool} :
    (meaning leaf l).outcome = .ok first → ¬(op = .or ∧ first) → Reaches leaf text r →
    Reaches leaf text (.join op (some l) (some r))

theorem Reaches.outcome_eq_error {text : String} {t : Tree} {e : RuleError}
    (h : Reaches leaf text t) (he : leaf text = .error e) :
    (meaning leaf t).outcome = .error e := by
  induction h with
  | leaf => rw [outcome_meaning_leaf, he]
  | left _ ih =>
    rw [outcome_meaning_join, operandMeaning, ih]
    rfl
  | right hfirst hneeded _ ih =>
    rw [outcome_meaning_join, operandMeaning, hfirst]
    change (if _ then _ else _) = _
    rw [if_neg hneeded, operandMeaning, ih]
    rfl

/-! ## Evaluations with the same conditions -/

theorem operandMeaning_congr {operand : Option Tree}
    (h : ∀ t ∈ operand, meaning leaf t = meaning leaf' t) (op : Connective) (side : Side) :
    operandMeaning leaf op side operand = operandMeaning leaf' op side operand := by
  cases operand with
  | none => rfl
  | some t => exact h t rfl

/-- A tree whose conditions have the same results is evaluated in the same way. -/
theorem meaning_congr {t : Tree} (h : ∀ text ∈ t.conditions, leaf text = leaf' text) :
    meaning leaf t = meaning leaf' t := by
  induction t with
  | leaf text => rw [meaning, meaning, h text List.mem_cons_self]
  | join op left right ihl ihr =>
    have hl : operandMeaning leaf op .left left = operandMeaning leaf' op .left left :=
      operandMeaning_congr (fun t ht => ihl t ht fun text htext =>
        h text (List.mem_append_left _ (by rwa [Option.mem_def.1 ht]))) op .left
    have hr : operandMeaning leaf op .right right = operandMeaning leaf' op .right right :=
      operandMeaning_congr (fun t ht => ihr t ht fun text htext =>
        h text (List.mem_append_right _ (by rwa [Option.mem_def.1 ht]))) op .right
    have hresume : resume leaf op right = resume leaf' op right := by
      funext first
      rw [resume, resume, hr]
    rw [meaning_join, meaning_join, hl, hresume]

end Tree

namespace Settings

variable (s : Settings)

theorem evaluateCondition_of_not_contains {text : String} {c : Condition}
    (hc : Condition.parse text = .ok c) (hout : s.whitelist.contains c.field = false)
    (record : Record) :
    s.evaluateCondition record text = .error (.invalidAttribute c.field) := by
  rw [evaluateCondition_eq hc, if_neg (Bool.eq_false_iff.1 hout)]

/-- A condition has the same result on records with the same value for its attribute, if that is
admitted. -/
theorem evaluateCondition_congr {text : String} {record record' : Record}
    (h : ∀ c, Condition.parse text = .ok c → s.whitelist.contains c.field = true →
      record.lookup c.field = record'.lookup c.field) :
    s.evaluateCondition record text = s.evaluateCondition record' text := by
  rcases hc : Condition.parse text with e | c
  · rw [evaluateCondition_of_error hc, evaluateCondition_of_error hc]
  · rw [evaluateCondition_eq hc, evaluateCondition_eq hc]
    split
    · next hin => rw [h c hc hin]
    · rfl

/-- Attributes that are not admitted, and attributes that a tree does not name, have no influence.
On two records with the same values for the others its evaluation has the same result or error,
after the same events. If it comes to a condition on an attribute that is not admitted, it fails
for that reason, whatever the record has. -/
theorem evaluate_congr (tree : Tree) :
    (∀ record record' : Record,
      (∀ text ∈ tree.conditions, ∀ c, Condition.parse text = .ok c →
        s.whitelist.contains c.field = true → record.lookup c.field = record'.lookup c.field) →
      s.evaluate tree record = s.evaluate tree record') ∧
    (∀ (record : Record) (text : String) (c : Condition), Condition.parse text = .ok c →
      s.whitelist.contains c.field = false →
      tree.Reaches (s.evaluateCondition record) text →
      (s.evaluate tree record).outcome = .error (.invalidAttribute c.field)) := by
  constructor
  · intro record record' h
    rw [evaluate, evaluate, Tree.evaluate_eq, Tree.evaluate_eq]
    exact Tree.meaning_congr fun text htext => s.evaluateCondition_congr (h text htext)
  · intro record text c hc hout hreach
    rw [outcome_evaluate]
    exact hreach.outcome_eq_error (s.evaluateCondition_of_not_contains hc hout record)

/-- The department is not admitted here. Records that differ in it, in the case of a name and in an
attribute that the tree does not name give the same error, since the value compared is the same;
and where the condition on the department is come to, both fail for that. -/
theorem evaluate_congr_department :
    let s : Settings := ⟨.ofList ["age"], .verbatim⟩
    let tree : Tree := .join .and (some (.leaf "age > 30"))
      (some (.join .or (some (.leaf "department == 'hr'")) none))
    let old := (Record.empty.set "age" (.int 40)).set "department" (.str "hr")
    let old' := (Record.empty.set "Age" (.int 40)).set "salary" (.int 1)
    (∀ text ∈ tree.conditions, ∀ c, Condition.parse text = .ok c →
        s.whitelist.contains c.field = true → old.lookup c.field = old'.lookup c.field) ∧
      s.evaluate tree old = s.evaluate tree old' ∧
      tree.Reaches (s.evaluateCondition old) "department == 'hr'" ∧
      (s.evaluate tree old).outcome = .error (.invalidAttribute "department") := by
  intro s tree old old'
  have hage : Condition.parse "age > 30" = .ok ⟨"age", .greater, .int 30⟩ := by decide +kernel
  have hdepartment :
      Condition.parse "department == 'hr'" = .ok ⟨"department", .equal, .str "hr"⟩ := by
    decide +kernel
  have hagree : ∀ text ∈ tree.conditions, ∀ c, Condition.parse text = .ok c →
      s.whitelist.contains c.field = true → old.lookup c.field = old'.lookup c.field := by
    intro text htext c hc hin
    rcases List.mem_cons.1 htext with rfl | htext
    · obtain rfl := Except.ok.inj (hage.symm.trans hc)
      decide +kernel
    · obtain rfl := List.mem_singleton.1 htext
      obtain rfl := Except.ok.inj (hdepartment.symm.trans hc)
      exact absurd hin (by decide +kernel)
  have hreach : tree.Reaches (s.evaluateCondition old) "department == 'hr'" :=
    have hfirst : (Tree.meaning (s.evaluateCondition old) (.leaf "age > 30")).outcome = .ok true := by
      decide +kernel
    .right hfirst (by decide) (.left .leaf)
  obtain ⟨hsame, hfails⟩ := s.evaluate_congr tree
  exact ⟨hagree, hsame old old' hagree, hreach,
    hfails old _ _ hdepartment (by decide +kernel) hreach⟩

end Settings

end AttributeRules
