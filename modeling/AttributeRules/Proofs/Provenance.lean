import Mathlib.Data.List.Perm.Subperm
import AttributeRules.Proofs.Outcome

/-!
# Where conditions come from

No condition is made up or doubled while trees are put together: one more token
adds at most the condition that it is (`Assembly.count_conditions_of_push`), so
a finished tree has a condition at most as often as it is a token of the rule
(`Tree.subperm_of_ofTokens`).
-/

namespace AttributeRules

namespace Token

/-- The text of the condition that the token is, if it is one. -/
def text? : Token → Option String
  | condition text => some text
  | opening | closing | keyword _ => none

/-- The texts of the conditions among the tokens, from left to right. -/
def texts (tokens : List Token) : List String := tokens.filterMap text?

theorem texts_append (ts us : List Token) : texts (ts ++ us) = texts ts ++ texts us :=
  List.filterMap_append

theorem mem_texts {tokens : List Token} {text : String} :
    text ∈ texts tokens ↔ .condition text ∈ tokens := by
  rw [texts, List.mem_filterMap]
  constructor
  · rintro ⟨t, ht, htext⟩
    cases t <;> cases htext
    exact ht
  · exact fun h => ⟨_, h, rfl⟩

end Token

/-! ## Assembled trees -/

namespace Assembly

variable (text : String)

/-- The texts of the conditions of all trees under construction. -/
def conditions (a : Assembly) : List String :=
  Tree.operandConditions a.current ++ a.suspended.flatMap Tree.operandConditions

theorem count_of_attachGroup {group : Option Tree} {tree t : Tree}
    (h : attachGroup group tree = .ok t) :
    t.conditions.count text ≤
      (Tree.operandConditions group).count text + tree.conditions.count text := by
  unfold attachGroup at h
  split at h
  · next op right =>
    cases h
    simp only [Tree.conditions, Tree.operandConditions, List.nil_append, List.count_append]
    omega
  · next op left right _ =>
    cases h
    simp only [Tree.conditions, List.count_append]
    omega
  · next old =>
    split at h
    · cases h
      exact Nat.le_add_left _ _
    · cases h

theorem count_of_attachCondition {new : String} {slot : Option Tree} {t : Tree}
    (h : attachCondition new slot = .ok t) :
    t.conditions.count text ≤ (Tree.operandConditions slot).count text + [new].count text := by
  unfold attachCondition at h
  split at h
  · cases h
    exact Nat.le_add_left _ _
  · next op left right =>
    cases h
    simp only [Tree.operandConditions, Tree.conditions, List.count_append]
    omega
  · cases h

/-- One token adds at most the condition that it is. -/
theorem count_conditions_of_push {a b : Assembly} {t : Token} (h : a.push t = .ok b) :
    b.conditions.count text ≤ a.conditions.count text + (Token.texts [t]).count text := by
  obtain ⟨slot, outer⟩ := a
  simp only [conditions, List.count_append]
  cases t with
  | opening =>
    cases h
    simp only [Tree.operandConditions, List.flatMap_cons, List.count_append, List.count_nil]
    omega
  | closing =>
    rcases outer with _ | ⟨_ | tree, outer⟩
    · cases h
    · cases h
      simp only [Tree.operandConditions, List.flatMap_cons, List.nil_append]
      omega
    · obtain ⟨t, ht, ⟨⟩⟩ := bind_eq_ok h
      have hcount : t.conditions.count text ≤
          (Tree.operandConditions slot).count text + tree.conditions.count text :=
        count_of_attachGroup text ht
      simp only [Tree.operandConditions, List.flatMap_cons, List.count_append]
      omega
  | keyword op =>
    cases h
    simp only [Tree.operandConditions, Tree.conditions, List.append_nil]
    omega
  | condition new =>
    obtain ⟨t, ht, ⟨⟩⟩ := bind_eq_ok h
    have hcount : t.conditions.count text ≤
        (Tree.operandConditions slot).count text + [new].count text :=
      count_of_attachCondition text ht
    have htexts : Token.texts [.condition new] = [new] := rfl
    simp only [Tree.operandConditions, htexts]
    omega

/-- A list of tokens adds at most the conditions among them. -/
theorem count_conditions_of_run {tokens : List Token} {a b : Assembly}
    (h : tokens.foldlM push a = .ok b) :
    b.conditions.count text ≤ a.conditions.count text + (Token.texts tokens).count text := by
  refine run_induction (P := fun taken b => b.conditions.count text ≤
    a.conditions.count text + (Token.texts taken).count text) h (Nat.le_add_right _ _) ?_
  intro taken t rest a' b' _ htaken hp
  have := count_conditions_of_push text hp
  rw [Token.texts_append, List.count_append]
  omega

end Assembly

namespace Tree

variable {text : String}

/-- An assembled tree has no condition more often than it is a token. -/
theorem subperm_of_ofTokens {tokens : List Token} {t : Tree} (h : ofTokens tokens = .ok t) :
    t.conditions.Subperm (Token.texts tokens) := by
  refine List.subperm_iff_count.2 fun text => ?_
  have hrun := Assembly.count_conditions_of_run text (ofTokens_eq_ok.1 h)
  simpa [Assembly.conditions, Assembly.empty, operandConditions] using hrun

theorem mem_of_ofTokens {tokens : List Token} {t : Tree} (h : ofTokens tokens = .ok t)
    (ht : text ∈ t.conditions) : .condition text ∈ tokens :=
  Token.mem_texts.1 ((subperm_of_ofTokens h).subset ht)

/-- The conditions of the tree of a rule are among the tokens of the rule. -/
theorem mem_of_ofRule {mode : CaseMode} {rule : String} {t : Tree}
    (h : (ofRule mode rule).outcome = .ok t) (ht : text ∈ t.conditions) :
    ∃ tokens, (Token.ofRule mode rule).outcome = .ok tokens ∧ .condition text ∈ tokens := by
  rw [outcome_ofRule] at h
  obtain ⟨tokens, htokens, hassembled⟩ := bind_eq_ok h
  exact ⟨tokens, htokens, mem_of_ofTokens hassembled ht⟩

/-! ## Combined rules -/

theorem conditions_orElse (combined : Option Tree) (next : Tree) :
    (orElse combined next).conditions = operandConditions combined ++ next.conditions := by
  cases combined <;> rfl

/-- The conditions of rules combined behind a tree are those of the tree and of the rules. -/
theorem mem_of_combineAfter {read : String → Id (Traced Tree)} {index : Nat}
    {combined result : Option Tree} {rules : List String}
    (h : (combineAfter read index combined rules).run.outcome = .ok result)
    (hr : text ∈ operandConditions result) :
    text ∈ operandConditions combined ∨
      ∃ rule ∈ rules, ∃ t, (read rule).run.outcome = .ok t ∧ text ∈ t.conditions := by
  induction rules generalizing index combined with
  | nil =>
    cases h
    exact .inl hr
  | cons rule rules ih =>
    rcases hread : (read rule).run with ⟨e | next, events⟩
    · simp only [combineAfter, Id.run_bind, hread, Id.run_pure] at h
      cases h
    · simp only [combineAfter, Id.run_bind, hread, Id.run_pure] at h
      rcases ih h with hmem | ⟨rule', hrule', hsome⟩
      · rw [operandConditions, conditions_orElse, List.mem_append] at hmem
        rcases hmem with hmem | hmem
        · exact .inl hmem
        · exact .inr ⟨rule, List.mem_cons_self, next, by rw [hread], hmem⟩
      · exact .inr ⟨rule', List.mem_cons_of_mem rule hrule', hsome⟩

end Tree

theorem Settings.mem_of_combine {s : Settings} {rules : List String} {t : Tree} {text : String}
    (h : (s.combine rules).outcome = .ok (some t)) (ht : text ∈ t.conditions) :
    ∃ rule ∈ rules, ∃ u, (s.parse rule).outcome = .ok u ∧ text ∈ u.conditions :=
  (Tree.mem_of_combineAfter h ht).resolve_left List.not_mem_nil

end AttributeRules
