import AttributeRules.Proofs.Assembly.Reading
import AttributeRules.Proofs.Provenance

/-!
# Conditions in their order

If no condition and no group follows another one directly, then every one of
them comes to a vacant place behind all conditions before it (`Vacant`,
`InOrder.push`), and the tree has all conditions of the rule in their order.

Where an operand follows another one directly, its place may be taken: what
stood there is lost, and the tree looks complete (`Tree.ofRule_conditions_lost`).

Main statement: `Tree.ofRule_conditions`.
-/

namespace AttributeRules

namespace Assembly

/-- The texts of the conditions of all trees under construction, the outermost tree first. -/
def inOrder (a : Assembly) : List String :=
  a.suspended.reverse.flatMap Tree.operandConditions ++ Tree.operandConditions a.current

/-- There is room for an operand behind all that is there: nothing is, or the right side of the
tree is missing. -/
inductive Vacant : Option Tree → Prop
  | whole : Vacant none
  | right (op : Connective) (left : Option Tree) : Vacant (some (.join op left none))

/-- A group comes behind the conditions of a tree with a vacant place. If both of its sides are
missing there are none. -/
theorem Vacant.attachGroup {group : Option Tree} {tree t : Tree} (hv : Vacant (some tree))
    (h : Assembly.attachGroup group tree = .ok t) :
    t.conditions = tree.conditions ++ Tree.operandConditions group := by
  cases hv with
  | right op left =>
    cases left <;> cases h <;> simp [Tree.conditions, Tree.operandConditions]

theorem Vacant.attachCondition {slot : Option Tree} {text : String} {t : Tree} (hv : Vacant slot)
    (h : Assembly.attachCondition text slot = .ok t) :
    t.conditions = Tree.operandConditions slot ++ [text] := by
  cases hv with
  | whole =>
    cases h
    rfl
  | right op left =>
    cases h
    simp [Tree.conditions, Tree.operandConditions]

/-- The trees under construction have the conditions of the tokens, in the same order, and there is
room for an operand wherever one may come. -/
structure InOrder (tokens : List Token) (a : Assembly) : Prop where
  inOrder_eq : a.inOrder = Token.texts tokens
  suspended : ∀ slot ∈ a.suspended, Vacant slot
  current : (∀ last ∈ tokens.getLast?, last.endsOperand = false) → Vacant a.current

theorem InOrder.empty : InOrder [] Assembly.empty := ⟨rfl, nofun, fun _ => .whole⟩

/-- An operand has come to an end, so that there need not be room for another one. -/
theorem InOrder.ended {tokens : List Token} {last : Token} {a : Assembly}
    (h : a.inOrder = Token.texts (tokens ++ [last])) (hs : ∀ slot ∈ a.suspended, Vacant slot)
    (hlast : last.endsOperand = true) : InOrder (tokens ++ [last]) a := by
  refine ⟨h, hs, fun hends => ?_⟩
  rw [hends last List.getLast?_concat] at hlast
  cases hlast

/-- One token more, which does not start an operand behind another one. -/
theorem InOrder.push {tokens : List Token} {a b : Assembly} {t : Token} (h : InOrder tokens a)
    (hsep : t.startsOperand = true → ∀ last ∈ tokens.getLast?, last.endsOperand = false)
    (hp : a.push t = .ok b) : InOrder (tokens ++ [t]) b := by
  obtain ⟨horder, hsuspended, hcurrent⟩ := h
  obtain ⟨slot, outer⟩ := a
  cases t with
  | opening =>
    cases hp
    refine ⟨?_, List.forall_mem_cons.2 ⟨hcurrent (hsep rfl), hsuspended⟩, fun _ => .whole⟩
    rw [Token.texts_append, ← horder]
    simp [inOrder, Tree.operandConditions, Token.texts, Token.text?]
  | closing =>
    rcases outer with _ | ⟨_ | tree, outer⟩
    · cases hp
    · cases hp
      refine .ended ?_ (List.forall_mem_cons.1 hsuspended).2 rfl
      rw [Token.texts_append, ← horder]
      simp [inOrder, Tree.operandConditions, Token.texts, Token.text?]
    · obtain ⟨t, ht, ⟨⟩⟩ := bind_eq_ok hp
      obtain ⟨hv, hsuspended⟩ := List.forall_mem_cons.1 hsuspended
      refine .ended ?_ hsuspended rfl
      rw [Token.texts_append, ← horder]
      simp [inOrder, Tree.operandConditions, Token.texts, Token.text?, hv.attachGroup ht]
  | keyword op =>
    cases hp
    refine ⟨?_, hsuspended, fun _ => .right op slot⟩
    rw [Token.texts_append, ← horder]
    simp [inOrder, Tree.operandConditions, Tree.conditions, Token.texts, Token.text?]
  | condition text =>
    obtain ⟨t, ht, ⟨⟩⟩ := bind_eq_ok hp
    refine .ended ?_ hsuspended rfl
    rw [Token.texts_append, ← horder]
    simp [inOrder, Tree.operandConditions, Token.texts, Token.text?,
      (hcurrent (hsep rfl)).attachCondition ht]

/-- Separated tokens that can all be taken leave their conditions in order. -/
theorem InOrder.run {tokens : List Token} {a : Assembly} (hsep : Token.Separated tokens)
    (hr : tokens.foldlM Assembly.push Assembly.empty = .ok a) : InOrder tokens a := by
  refine run_induction (P := InOrder) hr .empty ?_
  rintro taken t rest a b rfl h hp
  exact h.push hsep.not_endsOperand hp

end Assembly

namespace Tree

/-- The tree of separated tokens has their conditions in their order. -/
theorem conditions_of_ofTokens {tokens : List Token} {t : Tree} (hsep : Token.Separated tokens)
    (h : ofTokens tokens = .ok t) : t.conditions = Token.texts tokens := by
  rw [← (Assembly.InOrder.run hsep (ofTokens_eq_ok.1 h)).inOrder_eq]
  rfl

/-- The tree of a rule has no condition more often than the rule. If in the rule no condition and no
group follows another one directly, then the tree has all its conditions in their order, whether or
not it is complete. -/
theorem ofRule_conditions {mode : CaseMode} {rule : String} {t : Tree}
    (h : (ofRule mode rule).outcome = .ok t) :
    ∃ tokens, (Token.ofRule mode rule).outcome = .ok tokens ∧
      t.conditions.Subperm (Token.texts tokens) ∧
      (Token.Separated tokens → t.conditions = Token.texts tokens) := by
  rw [outcome_ofRule] at h
  obtain ⟨tokens, htokens, hassembled⟩ := bind_eq_ok h
  exact ⟨tokens, htokens, subperm_of_ofTokens hassembled,
    fun hsep => conditions_of_ofTokens hsep hassembled⟩

/-- Groups within groups leave the conditions as they are read. -/
theorem ofRule_conditions_nested :
    let rule := "((age > 30) OR (salary > 5 AND age < 60)) AND experience > 2"
    let tree : Tree := .join .and
      (some (.join .or (some (.leaf "age > 30"))
        (some (.join .and (some (.leaf "salary > 5")) (some (.leaf "age < 60"))))))
      (some (.leaf "experience > 2"))
    (ofRule .verbatim rule).outcome = .ok tree ∧ tree.isComplete = true ∧
      ∃ tokens, (Token.ofRule .verbatim rule).outcome = .ok tokens ∧ Token.Separated tokens ∧
        tree.conditions = Token.texts tokens := by
  intro rule tree
  have hread : (ofRule .verbatim rule).outcome = .ok tree := by decide +kernel
  have hsep : Token.Separated (Token.scan .verbatim rule.toList) := by decide +kernel
  obtain ⟨tokens, htokens, -, horder⟩ := ofRule_conditions hread
  have hscan := (Token.outcome_ofRule_eq_ok.1 htokens).2
  exact ⟨hread, rfl, tokens, htokens, hscan ▸ hsep, horder (hscan ▸ hsep)⟩

/-- A group that follows a condition takes its place: the tree is complete, and the condition is
lost. -/
theorem ofRule_conditions_lost :
    let rule := "age > 30 AND salary > 5 (experience > 2)"
    let tree : Tree := .join .and (some (.leaf "age > 30")) (some (.leaf "experience > 2"))
    (ofRule .verbatim rule).outcome = .ok tree ∧ tree.isComplete = true ∧
      ∃ tokens, (Token.ofRule .verbatim rule).outcome = .ok tokens ∧
        Token.texts tokens = ["age > 30", "salary > 5", "experience > 2"] ∧
        tree.conditions ≠ Token.texts tokens := by
  intro rule tree
  have hread : (ofRule .verbatim rule).outcome = .ok tree := by decide +kernel
  have htexts : Token.texts (Token.scan .verbatim rule.toList) =
      ["age > 30", "salary > 5", "experience > 2"] := by decide +kernel
  have htokens : (Token.ofRule .verbatim rule).outcome =
      .ok (Token.scan .verbatim rule.toList) :=
    Token.outcome_ofRule_eq_ok.2 ⟨by decide +kernel, rfl⟩
  exact ⟨hread, rfl, _, htokens, htexts, by rw [htexts]; decide⟩

/-- A group behind a keyword without operands comes before the condition that it follows. -/
example : (ofRule .verbatim "AND salary > 5 (experience > 2)").outcome =
    .ok (.join .and (some (.leaf "experience > 2")) (some (.leaf "salary > 5"))) := by
  decide +kernel

end Tree

end AttributeRules
