import AttributeRules.Proofs.Assembly.Grammar
import AttributeRules.Proofs.Provenance
import AttributeRules.Proofs.Token.ConditionText

/-!
# Reading what was written

The written form of a tree is scanned to the tokens of the tree, if its leaves
have the texts of conditions (`Tree.scan_render`), and when no operand is missing
these are derived as the tree is built (`Tree.factor_tokens`). So a complete tree
is read back from its written form (`Tree.ofRule_render`).
-/

namespace AttributeRules

open Token

theorem Connective.spells_word (op : Connective) : op.Spells op.word.toList := by
  cases op <;> decide

/-- Some rule is cut into tokens with this condition among them. -/
def Token.Emitted (mode : CaseMode) (text : String) : Prop :=
  ∃ rule tokens, (ofRule mode rule).outcome = .ok tokens ∧ condition text ∈ tokens

theorem Token.Emitted.isConditionText {mode : CaseMode} {text : String} (h : Emitted mode text) :
    IsConditionText mode text := by
  obtain ⟨rule, tokens, hrule, hmem⟩ := h
  obtain ⟨-, rfl⟩ := outcome_ofRule_eq_ok.1 hrule
  exact isConditionText_of_mem_scan hmem

namespace Tree

mutual

/-- The tokens of the written form. -/
def tokens : Tree → List Token
  | leaf text => [condition text]
  | join op l r => opening :: (operandTokens l ++ keyword op :: (operandTokens r ++ [closing]))

/-- The tokens of the written form of an operand. -/
def operandTokens : Option Tree → List Token
  | none => [condition "?"]
  | some t => t.tokens

end

/-! ## Scanning -/

variable {mode : CaseMode}

theorem isConditionText_missing : IsConditionText mode "?" where
  ne_nil := by decide
  trimmed := by
    have h : Text.isBlank '?' = false := by decide
    exact ⟨by simp [h], by simp [h]⟩
  uncut := by decide
  lowered _ := by decide +kernel

theorem toList_render_join (op : Connective) (l r : Option Tree) :
    (join op l r).render.toList = [] ++ '(' :: ((renderOperand l).toList ++
      ' ' :: (op.word.toList ++ ' ' :: ((renderOperand r).toList ++ ')' :: []))) := by
  simp [render]

theorem scan_renderOperand {o : Option Tree}
    (h : ∀ t ∈ o, scan mode t.render.toList = t.tokens) :
    scan mode (renderOperand o).toList = operandTokens o := by
  cases o with
  | none => exact isConditionText_missing.scan_eq
  | some t => exact h t rfl

/-- The written form of a tree is scanned to its tokens. -/
theorem scan_render {t : Tree} (h : ∀ text ∈ t.conditions, IsConditionText mode text) :
    scan mode t.render.toList = t.tokens := by
  have hnil : scan mode [] = [] := scan_of_blank nofun
  have hblank : Text.isBlank ' ' = true := by decide
  induction t with
  | leaf text => exact (h text List.mem_cons_self).scan_eq
  | join op l r ihl ihr =>
    have hl : scan mode (renderOperand l).toList = operandTokens l :=
      scan_renderOperand fun t ht => ihl t ht fun text htext =>
        h text (List.mem_append_left _ (by rwa [Option.mem_def.1 ht]))
    have hr : scan mode (renderOperand r).toList = operandTokens r :=
      scan_renderOperand fun t ht => ihr t ht fun text htext =>
        h text (List.mem_append_right _ (by rwa [Option.mem_def.1 ht]))
    rw [toList_render_join, scan_opening, scan_keyword _ hblank op.spells_word (by rfl),
      scan_cons_blank hblank, scan_closing, hl, hr, hnil]
    rfl

/-! ## Assembling -/

/-- The tokens of a complete tree are those of one factor, which has this tree. -/
theorem factor_tokens {t : Tree} (hc : t.isComplete = true) : Grammar.Factor t.tokens t := by
  induction t with
  | leaf text => exact .condition text
  | join op l r ihl ihr =>
    simp only [isComplete, Bool.and_eq_true] at hc
    rcases l with _ | l
    · exact absurd hc.1 Bool.false_ne_true
    rcases r with _ | r
    · exact absurd hc.2 Bool.false_ne_true
    have hterm := (Grammar.Term.ofFactor (ihl l rfl hc.1)).join op (ihr r rfl hc.2)
    simpa [tokens, operandTokens] using Grammar.Factor.group hterm

/-- A complete tree with the texts of conditions is read back from its written form. -/
theorem outcome_ofRule_render {t : Tree} (hc : t.isComplete = true)
    (h : ∀ text ∈ t.conditions, IsConditionText mode text) :
    (ofRule mode t.render).outcome = .ok t := by
  rw [outcome_ofRule_eq, scan_render h]
  exact (Grammar.Term.ofFactor (factor_tokens hc)).ofTokens

/-- A complete tree is read back from its written form if its conditions are all such as rules
are cut into in the case mode. So is a complete tree that was read from a rule, or from several
that were combined. -/
theorem ofRule_render (mode : CaseMode) (t : Tree) (hc : t.isComplete = true) :
    ((∀ text ∈ t.conditions, Token.Emitted mode text) →
      (ofRule mode t.render).outcome = .ok t) ∧
    (∀ rule, (ofRule mode rule).outcome = .ok t → (ofRule mode t.render).outcome = .ok t) ∧
    (∀ (s : Settings) (rules : List String), s.caseMode = mode →
      (s.combine rules).outcome = .ok (some t) → (ofRule mode t.render).outcome = .ok t) := by
  have hemitted : (∀ text ∈ t.conditions, Token.Emitted mode text) →
      (ofRule mode t.render).outcome = .ok t := fun h =>
    outcome_ofRule_render hc fun text htext => (h text htext).isConditionText
  refine ⟨hemitted, fun rule hrule => hemitted fun text htext => ?_,
    fun s rules hmode hrules => hemitted fun text htext => ?_⟩
  · exact ⟨rule, mem_of_ofRule hrule htext⟩
  · obtain ⟨rule, -, u, hu, hmem⟩ := Settings.mem_of_combine hrules htext
    subst hmode
    exact ⟨rule, mem_of_ofRule hu hmem⟩

/-- A tree that is that of a rule, and that of two rules combined, with capitals in all of them. -/
theorem ofRule_render_capitals :
    let t : Tree := join .or (some (leaf "age > 1"))
      (some (join .and (some (leaf "city == 'émile'")) (some (leaf "salary in 'i,j'"))))
    let rule := "Age > 1 OR (City == 'Émile' And SALARY in 'I,j')"
    let rules := ["AGE > 1", "CITY == 'ÉMILE' AND Salary IN 'i,J'"]
    t.isComplete = true ∧ (∀ text ∈ t.conditions, Token.Emitted .verbatim text) ∧
      (ofRule .verbatim rule).outcome = .ok t ∧
      (Settings.combine ⟨.standard, .verbatim⟩ rules).outcome = .ok (some t) ∧
      (ofRule .verbatim t.render).outcome = .ok t := by
  intro t rule rules
  have hrule : (ofRule .verbatim rule).outcome = .ok t := by decide +kernel
  have hrules : (Settings.combine ⟨.standard, .verbatim⟩ rules).outcome = .ok (some t) := by
    decide +kernel
  have hemitted : ∀ text ∈ t.conditions, Token.Emitted .verbatim text :=
    fun text htext => ⟨rule, mem_of_ofRule hrule htext⟩
  exact ⟨rfl, hemitted, hrule, hrules, (ofRule_render .verbatim t rfl).1 hemitted⟩

end Tree

end AttributeRules
