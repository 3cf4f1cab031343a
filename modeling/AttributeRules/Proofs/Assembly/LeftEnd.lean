import AttributeRules.Proofs.Outcome
import AttributeRules.Proofs.Reach

/-!
# The left end of a tree

The first thing that the evaluation of a tree comes to is the condition at its
lower left end (`Tree.LeftEnd`). While tokens are assembled that condition
stays where it is: a keyword puts the whole tree to the left, and everything
else goes to the right of it (`Assembly.Begun.push`).
-/

namespace AttributeRules

namespace Tree

/-- The condition with this text stands at the lower left end of the tree. -/
inductive LeftEnd (text : String) : Tree → Prop
  | leaf : LeftEnd text (.leaf text)
  | join {op : Connective} {l : Tree} {right : Option Tree} :
    LeftEnd text l → LeftEnd text (.join op (some l) right)

/-- Every evaluation comes to the condition at the left end. -/
theorem LeftEnd.reaches {text : String} {t : Tree} (h : LeftEnd text t)
    (leaf : String → Except RuleError Bool) : t.Reaches leaf text := by
  induction h with
  | leaf => exact .leaf
  | join _ ih => exact .left ih

end Tree

namespace Assembly

variable {text : String}

/-- The outermost tree under construction has the condition at its left end. -/
inductive Begun (text : String) : Assembly → Prop
  | current {t : Tree} : Tree.LeftEnd text t → Begun text ⟨some t, []⟩
  | suspended {t : Tree} (slot : Option Tree) (inner : List (Option Tree)) :
    Tree.LeftEnd text t → Begun text ⟨slot, inner ++ [some t]⟩

theorem leftEnd_attachGroup {group : Option Tree} {tree t : Tree} (hl : Tree.LeftEnd text tree)
    (h : attachGroup group tree = .ok t) : Tree.LeftEnd text t := by
  cases hl with
  | leaf =>
    cases group with
    | none =>
      cases h
      exact .leaf
    | some group => cases h
  | join hl =>
    cases h
    exact .join hl

theorem leftEnd_attachCondition {new : String} {tree t : Tree} (hl : Tree.LeftEnd text tree)
    (h : attachCondition new (some tree) = .ok t) : Tree.LeftEnd text t := by
  cases hl with
  | leaf => cases h
  | join hl =>
    cases h
    exact .join hl

/-- One token more leaves the condition at the left end. -/
theorem Begun.push {a b : Assembly} {t : Token} (h : Begun text a) (hp : a.push t = .ok b) :
    Begun text b := by
  cases h with
  | current hl =>
    cases t with
    | opening =>
      cases hp
      exact .suspended none [] hl
    | closing => cases hp
    | keyword op =>
      cases hp
      exact .current (.join hl)
    | condition new =>
      obtain ⟨u, hu, ⟨⟩⟩ := bind_eq_ok hp
      exact .current (leftEnd_attachCondition hl hu)
  | suspended slot inner hl =>
    cases t with
    | opening =>
      cases hp
      exact .suspended none (slot :: inner) hl
    | closing =>
      -- The group belongs to the tree that has the condition, or to a tree within a further group.
      rcases inner with _ | ⟨_ | group, inner⟩
      · obtain ⟨u, hu, ⟨⟩⟩ := bind_eq_ok hp
        exact .current (leftEnd_attachGroup hl hu)
      · cases hp
        exact .suspended _ inner hl
      · obtain ⟨u, hu, ⟨⟩⟩ := bind_eq_ok hp
        exact .suspended _ inner hl
    | keyword op =>
      cases hp
      exact .suspended _ inner hl
    | condition new =>
      obtain ⟨u, hu, ⟨⟩⟩ := bind_eq_ok hp
      exact .suspended _ inner hl

/-- So do all tokens that follow. -/
theorem Begun.run {tokens : List Token} {a b : Assembly} (h : Begun text a)
    (hr : tokens.foldlM Assembly.push a = .ok b) : Begun text b :=
  run_induction (P := fun _ => Begun text) hr h fun _ _ _ _ _ _ h hp => h.push hp

/-! ## Errors -/

/-- The error says that parentheses or operands do not fit together. -/
def Misfit (e : RuleError) : Prop :=
  e.kind = .unbalancedParentheses ∨ e.kind = .misplacedCondition

theorem misfit_of_attachGroup {group : Option Tree} {tree : Tree} {e : RuleError}
    (h : attachGroup group tree = .error e) : Misfit e := by
  unfold attachGroup at h
  split at h
  · cases h
  · cases h
  · split at h
    · cases h
    · cases h
      exact .inr rfl

theorem misfit_of_attachCondition {slot : Option Tree} {e : RuleError}
    (h : attachCondition text slot = .error e) : Misfit e := by
  unfold attachCondition at h
  split at h
  · cases h
  · cases h
  · cases h
    exact .inr rfl

theorem misfit_of_push {a : Assembly} {t : Token} {e : RuleError} (h : a.push t = .error e) :
    Misfit e := by
  obtain ⟨slot, outer⟩ := a
  cases t with
  | opening => cases h
  | closing =>
    rcases outer with _ | ⟨_ | tree, outer⟩
    · cases h
      exact .inl rfl
    · cases h
    · rcases bind_eq_error h with h | ⟨t, -, h⟩
      · exact misfit_of_attachGroup h
      · cases h
  | keyword op => cases h
  | condition new =>
    rcases bind_eq_error h with h | ⟨t, -, h⟩
    · exact misfit_of_attachCondition h
    · cases h

theorem misfit_of_run {tokens : List Token} {a : Assembly} {e : RuleError}
    (h : tokens.foldlM push a = .error e) : Misfit e := by
  obtain ⟨-, t, -, b, -, -, hp⟩ := exists_push_error h
  exact misfit_of_push hp

/-- What has begun with a condition is finished to a tree with that condition at its left end,
unless a parenthesis is still open. -/
theorem Begun.finish {a : Assembly} (h : Begun text a) :
    (∃ t, a.finish = .ok t ∧ Tree.LeftEnd text t) ∨
      a.finish = .error .unbalancedParentheses := by
  cases h with
  | current hl => exact .inl ⟨_, rfl, hl⟩
  | suspended slot inner hl => cases inner <;> exact .inr rfl

end Assembly

/-- Tokens that begin with a condition have a tree with that condition at its left end, unless
they do not fit together. -/
theorem Tree.ofTokens_condition (text : String) (tokens : List Token) :
    (∃ t, ofTokens (.condition text :: tokens) = .ok t ∧ Tree.LeftEnd text t) ∨
      ∃ e, ofTokens (.condition text :: tokens) = .error e ∧ Assembly.Misfit e := by
  have hfirst : ofTokens (.condition text :: tokens) =
      tokens.foldlM Assembly.push ⟨some (.leaf text), []⟩ >>= Assembly.finish := rfl
  rw [hfirst]
  rcases hr : tokens.foldlM Assembly.push ⟨some (.leaf text), []⟩ with e | a
  · exact .inr ⟨e, rfl, Assembly.misfit_of_run hr⟩
  · rcases ((Assembly.Begun.current .leaf).run hr).finish with ⟨t, ht, hl⟩ | hopen
    · exact .inl ⟨t, ht, hl⟩
    · exact .inr ⟨_, hopen, .inl rfl⟩

end AttributeRules
