import AttributeRules.Proofs.Assembly.Crowding
import AttributeRules.Proofs.Assembly.Order

/-!
# Trees with all that was read

Separated tokens have a tree, if their parentheses are balanced and there is
anything else in them. An operand always comes to a vacant place, so that the
tree has all their conditions in their order and every connective as often as it
is a keyword of theirs (`Tree.exists_ofTokens_separated`). Keywords may be
doubled or missing an operand, and groups may be empty.
-/

namespace AttributeRules

namespace Tree

mutual

/-- The connectives, each before those of its operands. -/
def connectives : Tree → List Connective
  | leaf _ => []
  | join op l r => op :: (operandConnectives l ++ operandConnectives r)

/-- The connectives of an operand; none if it is missing. -/
def operandConnectives : Option Tree → List Connective
  | none => []
  | some t => t.connectives

end

end Tree

namespace Token

theorem Bare.exists_last {level : List Token} (h : Bare level) :
    ∃ front last, level = front ++ [last] ∧ last.endsOperand = true := by
  have hne : level ≠ [] := by
    rintro rfl
    exact h.not_hollow hollow_nil
  obtain ⟨front, last, rfl⟩ := (List.eq_nil_or_concat' level).resolve_left hne
  refine ⟨front, last, rfl, ?_⟩
  cases last with
  | opening => exact absurd List.getLast?_concat h.balanced.opening_not_mem_getLast?
  | keyword op => exact absurd (by simp) (h.keyword_not_mem op)
  | closing | condition => rfl

theorem Operand.exists_first {operand : List Token} (h : Operand operand) :
    ∃ first more, operand = first :: more ∧ first.startsOperand = true := by
  cases h with
  | condition text => exact ⟨_, _, rfl, rfl⟩
  | group => exact ⟨_, _, rfl, rfl⟩

/-- Where no operand follows directly on another, none follows on a bare item. -/
theorem Separated.not_crowded {tokens : List Token} (h : Separated tokens) :
    ¬Crowded tokens := by
  rintro ⟨outer, level, operand, after, rfl, -, hbare, hoperand⟩
  obtain ⟨front, last, rfl, hlast⟩ := hbare.exists_last
  obtain ⟨first, more, rfl, hfirst⟩ := hoperand.exists_first
  have hsplit : outer ++ (front ++ [last] ++ (first :: more ++ after)) =
      (outer ++ front ++ [last]) ++ first :: (more ++ after) := by simp
  rw [hsplit] at h
  rw [h.not_endsOperand hfirst last List.getLast?_concat] at hlast
  cases hlast

end Token

namespace Assembly

/-- The connectives of all trees under construction. -/
def connectives (a : Assembly) : List Connective :=
  Tree.operandConnectives a.current ++ a.suspended.flatMap Tree.operandConnectives

theorem Vacant.connectives_attachGroup {group : Option Tree} {tree t : Tree}
    (hv : Vacant (some tree)) (h : Assembly.attachGroup group tree = .ok t) :
    t.connectives = tree.connectives ++ Tree.operandConnectives group := by
  cases hv with
  | right op left =>
    cases left <;> cases h <;> simp [Tree.connectives, Tree.operandConnectives]

theorem Vacant.connectives_attachCondition {slot : Option Tree} {text : String} {t : Tree}
    (hv : Vacant slot) (h : Assembly.attachCondition text slot = .ok t) :
    t.connectives = Tree.operandConnectives slot := by
  cases hv with
  | whole =>
    cases h
    rfl
  | right op left =>
    cases h
    simp [Tree.connectives, Tree.operandConnectives]

/-- One token more adds the connective that it is. -/
theorem InOrder.connectives_push {tokens : List Token} {a b : Assembly} {t : Token}
    (h : InOrder tokens a)
    (hsep : t.startsOperand = true → ∀ last ∈ tokens.getLast?, last.endsOperand = false)
    (hp : a.push t = .ok b) (op : Connective) :
    b.connectives.count op = a.connectives.count op + [t].count (.keyword op) := by
  obtain ⟨-, hsuspended, hcurrent⟩ := h
  obtain ⟨slot, outer⟩ := a
  cases t with
  | opening =>
    cases hp
    simp [connectives, Tree.operandConnectives]
  | closing =>
    rcases outer with _ | ⟨_ | tree, outer⟩
    · cases hp
    · cases hp
      simp [connectives, Tree.operandConnectives]
    · obtain ⟨t, ht, ⟨⟩⟩ := bind_eq_ok hp
      have hv := (List.forall_mem_cons.1 hsuspended).1
      simp only [connectives, Tree.operandConnectives, hv.connectives_attachGroup ht,
        List.flatMap_cons, List.count_append, List.count_singleton, beq_iff_eq, reduceCtorEq,
        if_false]
      omega
  | keyword op' =>
    cases hp
    simp [connectives, Tree.operandConnectives, Tree.connectives, List.count_cons]
  | condition text =>
    obtain ⟨t, ht, ⟨⟩⟩ := bind_eq_ok hp
    have hv := hcurrent (hsep rfl)
    simp [connectives, Tree.operandConnectives, hv.connectives_attachCondition ht]

/-- Separated tokens that can all be taken leave their connectives. -/
theorem count_connectives_of_run {tokens : List Token} {a : Assembly}
    (hsep : Token.Separated tokens) (hr : tokens.foldlM push empty = .ok a) (op : Connective) :
    a.connectives.count op = tokens.count (.keyword op) := by
  have hrun := run_induction (P := fun ts a => InOrder ts a ∧
    a.connectives.count op = ts.count (.keyword op)) hr ⟨.empty, rfl⟩ ?_
  · exact hrun.2
  rintro taken t rest a b rfl ⟨horder, hcount⟩ hp
  have hnext : t.startsOperand = true → ∀ last ∈ taken.getLast?, last.endsOperand = false :=
    hsep.not_endsOperand
  refine ⟨horder.push hnext hp, ?_⟩
  rw [horder.connectives_push hnext hp op, hcount, List.count_append]

end Assembly

namespace Tree

/-- Separated tokens with balanced parentheses, and something else among them, have a tree with all
that they are: their conditions in their order, and each connective as often. -/
theorem exists_ofTokens_separated {tokens : List Token} (hbalanced : Token.Balanced tokens)
    (hsome : ∃ t ∈ tokens, t.isParenthesis = false) (hsep : Token.Separated tokens) :
    ∃ t, ofTokens tokens = .ok t ∧ t.conditions = Token.texts tokens ∧
      ∀ op, t.connectives.count op = tokens.count (.keyword op) := by
  rcases hbalanced.ofTokens_cases with ⟨hcrowded, -⟩ | ⟨-, hhollow, -⟩ | ⟨-, -, t, ht⟩
  · exact absurd hcrowded hsep.not_crowded
  · obtain ⟨t, ht, hsolid⟩ := hsome
    rw [hhollow.isParenthesis t ht] at hsolid
    cases hsolid
  · refine ⟨t, ht, conditions_of_ofTokens hsep ht, fun op => ?_⟩
    rw [← Assembly.count_connectives_of_run hsep (ofTokens_eq_ok.1 ht) op]
    simp [Assembly.connectives, operandConnectives]

/-- In `and () or (a and) or ((or))` a group comes to the left of its keyword, another one is
empty, and every keyword lacks an operand. -/
theorem exists_ofTokens_separated_dangling :
    let tokens : List Token := [.keyword .and, .opening, .closing, .keyword .or, .opening,
      .condition "a", .keyword .and, .closing, .keyword .or, .opening, .opening, .keyword .or,
      .closing, .closing]
    Token.Balanced tokens ∧ Token.Separated tokens ∧
      ∃ t, ofTokens tokens = .ok t ∧ t.conditions = ["a"] ∧ t.connectives.count .and = 2 ∧
        t.connectives.count .or = 3 := by
  intro tokens
  have hbalanced : Token.Balanced tokens := by decide
  have hsep : Token.Separated tokens := by decide
  obtain ⟨t, ht, htexts, hcount⟩ :=
    exists_ofTokens_separated hbalanced ⟨.keyword .and, by simp [tokens], rfl⟩ hsep
  exact ⟨hbalanced, hsep, t, ht, htexts, hcount .and, hcount .or⟩

end Tree

end AttributeRules
