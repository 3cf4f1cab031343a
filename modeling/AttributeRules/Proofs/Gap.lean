import AttributeRules.Proofs.Assembly.Inventory
import AttributeRules.Proofs.Meaning

/-!
# Missing operands

An evaluation fails for one of two reasons: a condition of the tree fails, or a
connective needs an operand that it lacks (`Tree.Lacks`), and the error says
which of the two it is (`Tree.error_cases`). A missing operand need not be an
error, since `or` may do without its right one; `and` never does.

Main statement: `Settings.evaluate_incompleteTree`.
-/

namespace AttributeRules

/-! ## Gaps -/

namespace Tree

/-- Somewhere in the tree stands this connective, without an operand on this side. -/
inductive Lacks (op : Connective) : Side → Tree → Prop
  | left {right : Option Tree} : Lacks op .left (.join op none right)
  | right {left : Option Tree} : Lacks op .right (.join op left none)
  | inLeft {side : Side} {op' : Connective} {l : Tree} {right : Option Tree} :
    Lacks op side l → Lacks op side (.join op' (some l) right)
  | inRight {side : Side} {op' : Connective} {left : Option Tree} {r : Tree} :
    Lacks op side r → Lacks op side (.join op' left (some r))

variable {op : Connective} {side : Side} {t : Tree}

theorem Lacks.isComplete_eq_false (h : Lacks op side t) : t.isComplete = false := by
  induction h with
  | left => rfl
  | right => exact Bool.and_false _
  | inLeft _ ih => rw [isComplete, isFilled, ih, Bool.false_and]
  | @inRight _ _ left r _ ih =>
    show (isFilled left && r.isComplete) = false
    rw [ih, Bool.and_false]

variable {leaf : String → Except RuleError Bool}

theorem error_of_operand {e : RuleError} {operand : Option Tree}
    (h : (operandMeaning leaf op side operand).outcome = .error e) :
    (operand = none ∧ e = .incompleteTree op side) ∨
      ∃ t, operand = some t ∧ (meaning leaf t).outcome = .error e := by
  cases operand with
  | none =>
    cases h
    exact .inl ⟨rfl, rfl⟩
  | some t => exact .inr ⟨t, rfl, h⟩

theorem error_of_join {e : RuleError} {left right : Option Tree}
    (h : (meaning leaf (join op left right)).outcome = .error e) :
    (operandMeaning leaf op .left left).outcome = .error e ∨
      (operandMeaning leaf op .right right).outcome = .error e := by
  rw [outcome_meaning_join] at h
  rcases bind_eq_error h with h | ⟨first, -, h⟩
  · exact .inl h
  · split at h
    · cases h
    · rcases bind_eq_error h with h | ⟨second, -, h⟩
      · exact .inr h
      · cases h

/-- A tree fails with the error of one of its conditions, or with the connective and the side where
it lacks an operand. -/
theorem error_cases {e : RuleError} (h : (meaning leaf t).outcome = .error e) :
    (∃ text ∈ t.conditions, leaf text = .error e) ∨
      ∃ op side, e = .incompleteTree op side ∧ Lacks op side t := by
  induction t with
  | leaf text =>
    rw [outcome_meaning_leaf] at h
    exact .inl ⟨text, List.mem_cons_self, h⟩
  | join op left right ihl ihr =>
    rcases error_of_join h with h | h
    · rcases error_of_operand h with ⟨rfl, rfl⟩ | ⟨l, rfl, h⟩
      · exact .inr ⟨op, .left, rfl, .left⟩
      · rcases ihl l rfl h with ⟨text, htext, he⟩ | ⟨op', side, he, hlacks⟩
        · exact .inl ⟨text, List.mem_append_left _ htext, he⟩
        · exact .inr ⟨op', side, he, .inLeft hlacks⟩
    · rcases error_of_operand h with ⟨rfl, rfl⟩ | ⟨r, rfl, h⟩
      · exact .inr ⟨op, .right, rfl, .right⟩
      · rcases ihr r rfl h with ⟨text, htext, he⟩ | ⟨op', side, he, hlacks⟩
        · exact .inl ⟨text, List.mem_append_right _ htext, he⟩
        · exact .inr ⟨op', side, he, .inRight hlacks⟩

theorem outcome_and_eq_ok {left right : Option Tree} {b : Bool}
    (h : (meaning leaf (join .and left right)).outcome = .ok b) :
    (∃ first, (operandMeaning leaf .and .left left).outcome = .ok first) ∧
      ∃ second, (operandMeaning leaf .and .right right).outcome = .ok second := by
  rw [outcome_meaning_join] at h
  obtain ⟨first, hfirst, h⟩ := bind_eq_ok h
  rw [if_neg (by simp)] at h
  obtain ⟨second, hsecond, -⟩ := bind_eq_ok h
  exact ⟨⟨first, hfirst⟩, second, hsecond⟩

/-- An operand that has a result is there, and complete if that follows for its tree. -/
theorem isFilled_of_outcome_ok {operand : Option Tree} {b : Bool}
    (h : (operandMeaning leaf op side operand).outcome = .ok b)
    (hcomplete : ∀ t ∈ operand, (meaning leaf t).outcome = .ok b → t.isComplete = true) :
    isFilled operand = true := by
  cases operand with
  | none => cases h
  | some t => exact hcomplete t rfl h

/-- A tree of `and` alone has a result only if it is complete. -/
theorem isComplete_of_outcome_ok (hand : ∀ op ∈ t.connectives, op = .and) {b : Bool}
    (h : (meaning leaf t).outcome = .ok b) : t.isComplete = true := by
  induction t generalizing b with
  | leaf text => rfl
  | join op left right ihl ihr =>
    rw [connectives, List.forall_mem_cons, List.forall_mem_append] at hand
    obtain ⟨rfl, handl, handr⟩ := hand
    obtain ⟨⟨first, hfirst⟩, second, hsecond⟩ := outcome_and_eq_ok h
    have hl : isFilled left = true := by
      refine isFilled_of_outcome_ok hfirst fun l hl => ihl l hl fun op hop => handl op ?_
      rwa [Option.mem_def.1 hl]
    have hr : isFilled right = true := by
      refine isFilled_of_outcome_ok hsecond fun r hr => ihr r hr fun op hop => handr op ?_
      rwa [Option.mem_def.1 hr]
    rw [isComplete, hl, hr, Bool.and_self]

end Tree

namespace Settings

variable (s : Settings)

/-- An error for a missing operand names a connective of the tree that lacks the operand on that
side, so that a complete tree never gives it. If all conditions of a tree have results, it can fail
for nothing else; and if `and` is its only connective, it has a result if and only if it is
complete. -/
theorem evaluate_incompleteTree (tree : Tree) (record : Record) :
    (∀ op side, (s.evaluate tree record).outcome = .error (.incompleteTree op side) →
      tree.Lacks op side ∧ tree.isComplete = false) ∧
    ((∀ text ∈ tree.conditions, ∃ b, s.evaluateCondition record text = .ok b) →
      (∀ e, (s.evaluate tree record).outcome = .error e →
        ∃ op side, e = .incompleteTree op side) ∧
      ((∀ op ∈ tree.connectives, op = .and) →
        ((∃ b, (s.evaluate tree record).outcome = .ok b) ↔ tree.isComplete = true))) := by
  rw [outcome_evaluate]
  constructor
  · intro op side h
    rcases Tree.error_cases h with ⟨text, -, he⟩ | ⟨op', side', he, hlacks⟩
    · rcases s.kind_of_evaluateCondition he with hkind | hkind <;> cases hkind
    · cases he
      exact ⟨hlacks, hlacks.isComplete_eq_false⟩
  · intro hconditions
    have hgap : ∀ e, (tree.meaning (s.evaluateCondition record)).outcome = .error e →
        ∃ op side, e = .incompleteTree op side ∧ Tree.Lacks op side tree := by
      intro e h
      refine (Tree.error_cases h).resolve_left ?_
      rintro ⟨text, htext, he⟩
      obtain ⟨b, hb⟩ := hconditions text htext
      cases hb.symm.trans he
    refine ⟨fun e h => ?_, fun hand => ⟨fun ⟨b, h⟩ => Tree.isComplete_of_outcome_ok hand h,
      fun hcomplete => ?_⟩⟩
    · obtain ⟨op, side, he, -⟩ := hgap e h
      exact ⟨op, side, he⟩
    · rcases houtcome : (tree.meaning (s.evaluateCondition record)).outcome with e | b
      · obtain ⟨op, side, -, hlacks⟩ := hgap e houtcome
        cases hcomplete.symm.trans hlacks.isComplete_eq_false
      · exact ⟨b, rfl⟩

/-- The `or` within has no right operand, and needs it for a record with an age of 40. A tree of
`and` that lacks an operand has no result although its first condition is false already, and one
that lacks none has one. -/
theorem evaluate_incompleteTree_nested :
    let s : Settings := {}
    let record := Record.empty.set "age" (.int 40)
    let old : Tree := .leaf "age > 60"
    let adult : Tree := .leaf "age > 18"
    let nested : Tree := .join .and (some (.join .or (some old) none)) (some adult)
    let lacking : Tree := .join .and (some (.join .and (some old) none)) (some adult)
    let whole : Tree := .join .and (some old) (some adult)
    ((s.evaluate nested record).outcome = .error (.incompleteTree .or .right) ∧
        nested.Lacks .or .right ∧ nested.isComplete = false) ∧
      (∀ text ∈ lacking.conditions, ∃ b, s.evaluateCondition record text = .ok b) ∧
      (∀ op ∈ lacking.connectives, op = .and) ∧
      (∃ op side, (s.evaluate lacking record).outcome = .error (.incompleteTree op side)) ∧
      (∀ text ∈ whole.conditions, ∃ b, s.evaluateCondition record text = .ok b) ∧
      (∀ op ∈ whole.connectives, op = .and) ∧
      ∃ b, (s.evaluate whole record).outcome = .ok b := by
  intro s record old adult nested lacking whole
  have hresults : ∀ text ∈ ["age > 60", "age > 18"],
      ∃ b, s.evaluateCondition record text = .ok b := by
    have hold : s.evaluateCondition record "age > 60" = .ok false := by decide +kernel
    have hadult : s.evaluateCondition record "age > 18" = .ok true := by decide +kernel
    simp [hold, hadult]
  have hnested : (s.evaluate nested record).outcome = .error (.incompleteTree .or .right) := by
    decide +kernel
  have hlacking : ∀ op ∈ lacking.connectives, op = .and := by decide
  have hwhole : ∀ op ∈ whole.connectives, op = .and := by decide
  obtain ⟨honly, hiff⟩ := (s.evaluate_incompleteTree lacking record).2 hresults
  obtain ⟨-, hiff'⟩ := (s.evaluate_incompleteTree whole record).2 hresults
  have hgap : ∃ op side,
      (s.evaluate lacking record).outcome = .error (.incompleteTree op side) := by
    rcases houtcome : (s.evaluate lacking record).outcome with e | b
    · obtain ⟨op, side, rfl⟩ := honly e houtcome
      exact ⟨op, side, rfl⟩
    · exact absurd ((hiff hlacking).1 ⟨b, houtcome⟩) (by decide)
  exact ⟨⟨hnested, (s.evaluate_incompleteTree nested record).1 .or .right hnested⟩, hresults,
    hlacking, hgap, hresults, hwhole, (hiff' hwhole).2 (by decide)⟩

end Settings

end AttributeRules
