import AttributeRules.Proofs.Assembly.Grammar
import AttributeRules.Proofs.Meaning

/-!
# The answer of combined rules

Rules that can all be read are combined to a chain of `or` over their trees
(`Tree.outcome_combine`). The chain is as deep as the list of rules is long, but
evaluating it is asking the rules one after the other, up to the first answer
that is not no (`Settings.evaluate_combine`).
-/

namespace AttributeRules

/-! ## The first answer that counts -/

/-- The first answer that is not no, be it yes or an error; no if there is none. -/
def firstDecided : List (Except RuleError Bool) → Except RuleError Bool
  | [] => .ok false
  | answer :: answers => if answer = .ok false then firstDecided answers else answer

theorem firstDecided_append {before : List (Except RuleError Bool)}
    (hno : ∀ answer ∈ before, answer = .ok false) (after : List (Except RuleError Bool)) :
    firstDecided (before ++ after) = firstDecided after := by
  induction before with
  | nil => rfl
  | cons answer before ih =>
    rw [List.cons_append, firstDecided, if_pos (hno answer List.mem_cons_self)]
    exact ih fun a ha => hno a (List.mem_cons_of_mem answer ha)

theorem firstDecided_cons {answer : Except RuleError Bool} (h : answer ≠ .ok false)
    (after : List (Except RuleError Bool)) : firstDecided (answer :: after) = answer := by
  rw [firstDecided, if_neg h]

/-- The first answer that counts among answers without errors says whether one of them is yes. -/
theorem firstDecided_map_ok {α : Type} (p : α → Bool) (xs : List α) :
    firstDecided (xs.map fun x => .ok (p x)) = .ok (xs.any p) := by
  induction xs with
  | nil => rfl
  | cons x xs ih =>
    rw [List.map_cons, List.any_cons]
    cases hx : p x with
    | true => rfl
    | false => exact ih

theorem firstDecided_cons_cons (a b : Except RuleError Bool) (after : List (Except RuleError Bool)) :
    firstDecided (firstDecided [a, b] :: after) = firstDecided (a :: b :: after) := by
  simp only [firstDecided]
  split_ifs <;> simp_all

namespace Tree

/-! ## The tree -/

/-- The tree of rules that are read as these trees, combined behind a tree. -/
theorem outcome_combineAfter (read : String → Id (Traced Tree)) {tree : String → Tree}
    {rules : List String} (h : ∀ rule ∈ rules, (read rule).run.outcome = .ok (tree rule))
    (index : Nat) (first : Tree) :
    (combineAfter read index (some first) rules).run.outcome =
      .ok (some (joinChain first (rules.map fun rule => (.or, tree rule)))) := by
  induction rules generalizing index first with
  | nil => rfl
  | cons rule rules ih =>
    have hrule := h rule List.mem_cons_self
    have hrules := ih fun r hr => h r (List.mem_cons_of_mem rule hr)
    simp only [combineAfter, Id.run_bind, hrule, Id.run_pure, hrules]
    rfl

theorem outcome_combine (read : String → Id (Traced Tree)) {tree : String → Tree} {rule : String}
    {rules : List String} (h : ∀ r ∈ rule :: rules, (read r).run.outcome = .ok (tree r)) :
    (combine read (rule :: rules)).run.outcome =
      .ok (some (joinChain (tree rule) (rules.map fun r => (.or, tree r)))) := by
  have hrule := h rule List.mem_cons_self
  have hrules := outcome_combineAfter read (fun r hr => h r (List.mem_cons_of_mem rule hr)) 1
    (tree rule)
  simp only [combine, combineAfter, Id.run_bind, hrule, Id.run_pure, orElse]
  exact hrules

/-! ## The answer -/

variable (leaf : String → Except RuleError Bool)

theorem outcome_meaning_or (left right : Tree) :
    (meaning leaf (join .or (some left) (some right))).outcome =
      firstDecided [(meaning leaf left).outcome, (meaning leaf right).outcome] := by
  rw [outcome_meaning_join]
  simp only [operandMeaning]
  rcases (meaning leaf left).outcome with e | first
  · rfl
  cases first with
  | true => rfl
  | false =>
    rcases (meaning leaf right).outcome with e | second
    · rfl
    · cases second <;> rfl

/-- A chain of `or` has the first answer of its trees that is not no. -/
theorem outcome_meaning_orChain (first : Tree) (rest : List Tree) :
    (meaning leaf (joinChain first (rest.map (.or, ·)))).outcome =
      firstDecided ((first :: rest).map fun t => (meaning leaf t).outcome) := by
  induction rest generalizing first with
  | nil =>
    simp only [List.map_cons, List.map_nil, firstDecided]
    split_ifs with h
    · exact h
    · rfl
  | cons next rest ih =>
    calc (meaning leaf (joinChain (join .or (some first) (some next)) (rest.map (.or, ·)))).outcome
        = firstDecided ((meaning leaf (join .or (some first) (some next))).outcome ::
            rest.map fun t => (meaning leaf t).outcome) := ih _
      _ = firstDecided ((first :: next :: rest).map fun t => (meaning leaf t).outcome) := by
          rw [outcome_meaning_or, firstDecided_cons_cons]
          rfl

end Tree

namespace Settings

variable {s : Settings}

theorem outcome_evaluate_orChain {α : Type} (tree : α → Tree) (first : α) (rest : List α)
    (record : Record) :
    (s.evaluate (joinChain (tree first) (rest.map fun x => (.or, tree x))) record).outcome =
      firstDecided ((first :: rest).map fun x => (s.evaluate (tree x) record).outcome) := by
  have hchain := Tree.outcome_meaning_orChain (s.evaluateCondition record) (tree first)
    (rest.map tree)
  rw [List.map_map, ← List.map_cons, List.map_map] at hchain
  rw [outcome_evaluate]
  refine hchain.trans (congrArg firstDecided ?_)
  exact List.map_congr_left fun x _ => (outcome_evaluate (tree x) record).symm

/-- The tree of combined rules has the first answer of the rules that is not no. -/
theorem outcome_evaluate_combine {rules : List String} {t : Tree} {tree : String → Tree}
    (hne : rules ≠ []) (h : ∀ rule ∈ rules, (s.parse rule).outcome = .ok (tree rule))
    (ht : (s.combine rules).outcome = .ok (some t)) (record : Record) :
    (s.evaluate t record).outcome =
      firstDecided (rules.map fun rule => (s.check rule record).outcome) := by
  obtain ⟨rule, rules, rfl⟩ := List.exists_cons_of_ne_nil hne
  have hcombined := Tree.outcome_combine (fun rule => pure (s.parse rule)) h
  obtain rfl : joinChain (tree rule) (rules.map fun r => (.or, tree r)) = t :=
    Option.some.inj (Except.ok.inj (hcombined.symm.trans ht))
  rw [outcome_evaluate_orChain]
  exact congrArg firstDecided
    (List.map_congr_left fun r hr => (outcome_check (h r hr) record).symm)

end Settings

/-- Rules that can all be read are combined to a tree that has, on every record, the answer of the
first rule that does not say no, whether that is yes or an error; whatever rules follow it. If all
say no, so does the tree. -/
theorem Settings.evaluate_combine (s : Settings) (rules : List String) (hne : rules ≠ [])
    (hread : ∀ rule ∈ rules, ∃ t, (s.parse rule).outcome = .ok t) :
    ∃ t, (s.combine rules).outcome = .ok (some t) ∧ ∀ record,
      (∀ before rule after, rules = before ++ rule :: after →
        (∀ r ∈ before, (s.check r record).outcome = .ok false) →
        (s.check rule record).outcome ≠ .ok false →
        (s.evaluate t record).outcome = (s.check rule record).outcome) ∧
      ((∀ rule ∈ rules, (s.check rule record).outcome = .ok false) →
        (s.evaluate t record).outcome = .ok false) := by
  have : Nonempty Tree := ⟨.leaf ""⟩
  choose! tree htree using hread
  obtain ⟨t, ht⟩ : ∃ t, (s.combine rules).outcome = .ok (some t) := by
    obtain ⟨rule, rules, rfl⟩ := List.exists_cons_of_ne_nil hne
    exact ⟨_, Tree.outcome_combine (fun rule => pure (s.parse rule)) htree⟩
  refine ⟨t, ht, fun record => ?_⟩
  have hanswer := outcome_evaluate_combine hne htree ht record
  constructor
  · rintro before rule after rfl hbefore hrule
    have hno : ∀ answer ∈ before.map fun r => (s.check r record).outcome, answer = .ok false := by
      simpa using hbefore
    rw [hanswer, List.map_append, firstDecided_append hno, List.map_cons, firstDecided_cons hrule]
  · intro hall
    have hno : ∀ answer ∈ rules.map fun r => (s.check r record).outcome, answer = .ok false := by
      simpa using hall
    rw [hanswer, ← List.append_nil (rules.map _), firstDecided_append hno]
    rfl

/-- On a record without a value for `experience` the second of these rules fails, so that the
third, which holds, is not asked. On another record all of them say no. -/
theorem Settings.evaluate_combine_noValue :
    let s : Settings := {}
    let rules := ["age > 30", "experience > 3", "age > 10"]
    let silent := Record.empty.set "age" (.int 20)
    let junior := (Record.empty.set "age" (.int 5)).set "experience" (.int 2)
    let fault := ConditionFault.noValue ⟨"experience", .greater, .int 3⟩
    (∀ rule ∈ rules, ∃ t, (s.parse rule).outcome = .ok t) ∧
      (s.check "experience > 3" silent).outcome = .error (.invalidCondition fault) ∧
      (s.check "age > 10" silent).outcome = .ok true ∧
      ∃ t, (s.combine rules).outcome = .ok (some t) ∧
        (s.evaluate t silent).outcome = .error (.invalidCondition fault) ∧
        (s.evaluate t junior).outcome = .ok false := by
  intro s rules silent junior fault
  have hread : ∀ rule ∈ rules, ∃ t, (s.parse rule).outcome = .ok t := by
    have h : ∀ rule ∈ rules, (s.parse rule).outcome = .ok (.leaf rule) := by decide +kernel
    exact fun rule hrule => ⟨_, h rule hrule⟩
  have hfault : (s.check "experience > 3" silent).outcome = .error (.invalidCondition fault) := by
    decide +kernel
  obtain ⟨t, ht, hanswer⟩ := evaluate_combine s rules (by decide) hread
  have hsilent := (hanswer silent).1 ["age > 30"] "experience > 3" ["age > 10"] rfl
    (by decide +kernel) (by rw [hfault]; decide)
  have hjunior := (hanswer junior).2 (by decide +kernel)
  exact ⟨hread, hfault, by decide +kernel, t, ht, hsilent.trans hfault, hjunior⟩

end AttributeRules
