import AttributeRules.Proofs.Outcome

/-!
# The meaning of trees

What a tree says, by recursion on it (`Tree.meaning`). The evaluation goes down
the left operands with an explicit spine instead; both have the same result or
error and report the same events, in the same order (`evaluate_eq_meaning`).
Without the events, the answer of a connective depends on those of its operands
only (`Tree.outcome_meaning_join`).
-/

namespace AttributeRules

namespace Tree

mutual

/-- The result of a tree whose conditions are evaluated by `leaf`, by recursion on the tree.
`and` needs both operands; `or` needs the right one only if the left one is false. -/
def meaning (leaf : String → Except RuleError Bool) : Tree → Traced Bool
  | .leaf text => do
    let result ← Traced.ofExcept (leaf text)
    Traced.report (.operand text result)
    return result
  | .join .and left right => do
    let first ← operandMeaning leaf .and .left left
    Traced.report (.leftSide .and first)
    let second ← operandMeaning leaf .and .right right
    Traced.report (.rightSide .and second)
    return first && second
  | .join .or left right => do
    let first ← operandMeaning leaf .or .left left
    Traced.report (.leftSide .or first)
    if first then return true
    let second ← operandMeaning leaf .or .right right
    Traced.report (.rightSide .or second)
    return second

/-- The result of an operand; it is an error if the operand is missing. -/
def operandMeaning (leaf : String → Except RuleError Bool) (op : Connective) (side : Side) :
    Option Tree → Traced Bool
  | none => Traced.fail (.incompleteTree op side)
  | some tree => tree.meaning leaf

end

variable (leaf : String → Except RuleError Bool)

/-- What is left of a connective whose left operand has this result. -/
def resume (op : Connective) (right : Option Tree) (first : Bool) : Traced Bool := do
  Traced.report (.leftSide op first)
  if op = .or ∧ first then return true
  let second ← operandMeaning leaf op .right right
  Traced.report (.rightSide op second)
  return op.apply first second

theorem meaning_join (op : Connective) (left right : Option Tree) :
    meaning leaf (join op left right) =
      operandMeaning leaf op .left left >>= resume leaf op right := by
  cases op with
  | and =>
    rw [meaning]
    refine congrArg (operandMeaning leaf .and .left left >>= ·) (funext fun first => ?_)
    simp only [resume, reduceCtorEq, false_and, if_false, Connective.apply]
  | or =>
    rw [meaning]
    refine congrArg (operandMeaning leaf .or .left left >>= ·) (funext fun first => ?_)
    cases first <;> simp [resume, Connective.apply]

/-! ## The walk along the spine -/

@[simp] theorem ascend_nil (result : Bool) : ascend leaf [] result = pure result := by
  rw [ascend]

/-- Going down a tree with nothing above it is its meaning, if that holds above every spine. -/
theorem descend_nil_of {t : Tree}
    (h : ∀ spine, descend leaf spine t = meaning leaf t >>= ascend leaf spine) :
    descend leaf [] t = meaning leaf t := by
  rw [h, show ascend leaf [] = pure from funext (ascend_nil leaf), bind_pure]

/-- Coming up through a connective resumes it, and then comes up the rest of the spine. -/
theorem ascend_cons {op : Connective} {right : Option Tree} (outer : Spine)
    (h : ∀ t ∈ right, descend leaf [] t = meaning leaf t) (first : Bool) :
    ascend leaf ((op, right) :: outer) first = resume leaf op right first >>= ascend leaf outer := by
  rw [ascend.eq_def]
  simp only [resume, bind_assoc]
  refine congrArg (Traced.report (.leftSide op first) >>= ·) (funext fun _ => ?_)
  split
  · rw [pure_bind]
  · cases right with
    | none => rfl
    | some t =>
      simp only [operandMeaning, h t rfl, bind_assoc, pure_bind]

/-- Going down a tree above a spine is the meaning of the tree, and then coming up the spine. -/
theorem descend_eq (t : Tree) (spine : Spine) :
    descend leaf spine t = meaning leaf t >>= ascend leaf spine := by
  induction t generalizing spine with
  | leaf text => simp only [descend, meaning, bind_assoc, pure_bind]
  | join op left right ihl ihr =>
    rw [meaning_join]
    cases left with
    | none =>
      rw [descend]
      rfl
    | some l =>
      have hr : ∀ t ∈ right, descend leaf [] t = meaning leaf t :=
        fun t ht => descend_nil_of leaf (ihr t ht)
      calc descend leaf spine (join op (some l) right)
          = descend leaf ((op, right) :: spine) l := by rw [descend]
        _ = meaning leaf l >>= ascend leaf ((op, right) :: spine) := ihl l rfl _
        _ = meaning leaf l >>= fun first => resume leaf op right first >>= ascend leaf spine :=
            congrArg (meaning leaf l >>= ·) (funext (ascend_cons leaf spine hr))
        _ = (operandMeaning leaf op .left (some l) >>= resume leaf op right) >>=
              ascend leaf spine := by rw [operandMeaning, bind_assoc]

/-- The walk along the spine evaluates a tree as the recursion does. -/
theorem evaluate_eq (t : Tree) : t.evaluate leaf = t.meaning leaf :=
  descend_nil_of leaf (descend_eq leaf t)

end Tree

/-- Under all settings and on every record a tree evaluates to its meaning: the same result or
error, after the same events. -/
theorem Settings.evaluate_eq_meaning (s : Settings) (tree : Tree) (record : Record) :
    s.evaluate tree record = tree.meaning (s.evaluateCondition record) :=
  tree.evaluate_eq (s.evaluateCondition record)

/-! ## Answers -/

namespace Tree

variable (leaf : String → Except RuleError Bool)

/-- A connective asks its left operand, and then its right one unless that cannot matter. -/
theorem outcome_meaning_join (op : Connective) (left right : Option Tree) :
    (meaning leaf (join op left right)).outcome =
      (do
        let first ← (operandMeaning leaf op .left left).outcome
        if op = .or ∧ first then .ok true
        else
          let second ← (operandMeaning leaf op .right right).outcome
          .ok (op.apply first second)) := by
  rw [meaning_join, Traced.outcome_bind]
  refine congrArg ((operandMeaning leaf op .left left).outcome >>= ·) (funext fun first => ?_)
  rw [resume, Traced.outcome_bind]
  change (if op = .or ∧ first then pure true else _ : Traced Bool).outcome = _
  split
  · rfl
  · rw [Traced.outcome_bind]
    rfl

theorem outcome_meaning_leaf (text : String) : (meaning leaf (.leaf text)).outcome = leaf text := by
  rw [meaning, Traced.outcome_bind, Traced.outcome_ofExcept]
  cases leaf text <;> rfl

end Tree

namespace Condition

theorem kind_of_parse {text : String} {e : RuleError} (h : parse text = .error e) :
    e.kind = .invalidCondition := by
  rw [parse] at h
  split at h
  · cases h
    rfl
  · split at h <;> cases h
    rfl

theorem kind_of_test {c : Condition} {actual : Option Value} {fold : Bool} {e : RuleError}
    (h : c.test actual fold = .error e) : e.kind = .invalidCondition := by
  cases actual with
  | none =>
    rw [test, testAbsent] at h
    split at h <;> cases h
    rfl
  | some v =>
    obtain ⟨field, comparison, literal⟩ := c
    cases literal <;> cases v <;> cases h <;> rfl

end Condition

namespace Settings

variable {s : Settings}

theorem evaluateCondition_of_error {text : String} {e : RuleError}
    (h : Condition.parse text = .error e) (record : Record) :
    s.evaluateCondition record text = .error e := by
  rw [evaluateCondition, h]
  rfl

/-- A condition is compared with the value of its attribute, if that is admitted. -/
theorem evaluateCondition_eq {text : String} {c : Condition} (h : Condition.parse text = .ok c)
    (record : Record) :
    s.evaluateCondition record text =
      if s.whitelist.contains c.field then
        c.test (record.lookup c.field) s.caseMode.foldsValues
      else .error (.invalidAttribute c.field) := by
  rw [evaluateCondition, h]
  rfl

/-- A condition fails for what it says or for the attribute that it names. -/
theorem kind_of_evaluateCondition (s : Settings) {record : Record} {text : String} {e : RuleError}
    (h : s.evaluateCondition record text = .error e) :
    e.kind = .invalidCondition ∨ e.kind = .invalidAttribute := by
  rcases hc : Condition.parse text with e' | c
  · rw [evaluateCondition_of_error hc] at h
    cases h
    exact .inl (Condition.kind_of_parse hc)
  · rw [evaluateCondition_eq hc] at h
    split at h
    · exact .inl (Condition.kind_of_test h)
    · cases h
      exact .inr rfl

theorem outcome_evaluate (t : Tree) (record : Record) :
    (s.evaluate t record).outcome = (t.meaning (s.evaluateCondition record)).outcome :=
  congrArg Traced.outcome (t.evaluate_eq _)

theorem outcome_check {rule : String} {t : Tree} (h : (s.parse rule).outcome = .ok t)
    (record : Record) : (s.check rule record).outcome = (s.evaluate t record).outcome := by
  rw [check, Traced.outcome_bind, h]
  rfl

theorem outcome_check_of_error {rule : String} {e : RuleError}
    (h : (s.parse rule).outcome = .error e) (record : Record) :
    (s.check rule record).outcome = .error e := by
  rw [check, Traced.outcome_bind, h]
  rfl

end Settings

end AttributeRules
