import AttributeRules.Proofs.Outcome
import AttributeRules.Proofs.Token.Scan

/-!
# Wording and shape

A tree is assembled without a look into the texts of its conditions: if the
conditions among the tokens are reworded, so are those of every tree under
construction, and each step succeeds or fails as before (`Assembly.push_reword`).
A case mode is such a wording, of the tokens that are found when case is
preserved (`Token.scan_lowercase`). So the tree of a rule has one shape in all
case modes (`Tree.ofRule_caseMode`).
-/

namespace AttributeRules

variable (f : String → String)

/-! ## New texts -/

namespace Tree

mutual

/-- The tree with new texts for its conditions. Its connectives and the operands that it lacks stay
where they are. -/
def reword (f : String → String) : Tree → Tree
  | leaf text => leaf (f text)
  | join op l r => join op (rewordOperand f l) (rewordOperand f r)

/-- The operand with new texts for its conditions; none if it is missing. -/
def rewordOperand (f : String → String) : Option Tree → Option Tree
  | none => none
  | some t => some (t.reword f)

end

end Tree

/-- The token with a new text, if it is a condition. -/
def Token.reword : Token → Token
  | condition text => condition (f text)
  | t => t

/-- The tree under construction with new texts, and so those set aside. -/
def Assembly.reword (a : Assembly) : Assembly :=
  ⟨Tree.rewordOperand f a.current, a.suspended.map (Tree.rewordOperand f)⟩

/-- The misplacement with new texts for the conditions that it shows. -/
def Misplacement.reword : Misplacement → Misplacement
  | group g c => group (g.reword f) (f c)
  | condition new old => condition (f new) (f old)
  | described text => described text

/-- The error with new texts for the misplaced conditions that it shows. -/
def RuleError.reword : RuleError → RuleError
  | misplacedCondition cause => misplacedCondition (cause.reword f)
  | e => e

theorem RuleError.kind_reword (e : RuleError) : (e.reword f).kind = e.kind := by
  cases e <;> rfl

/-- What comes out when the conditions are reworded: the reworded result, or the reworded error. -/
def rephrase {α β : Type} (g : α → β) : Except RuleError α → Except RuleError β
  | .ok a => .ok (g a)
  | .error e => .error (e.reword f)

theorem rephrase_bind {α β γ δ : Type} {g : α → β} {k : γ → δ} (x : Except RuleError α)
    {p : α → Except RuleError γ} {q : β → Except RuleError δ}
    (h : ∀ a, q (g a) = rephrase f k (p a)) :
    rephrase f g x >>= q = rephrase f k (x >>= p) := by
  cases x with
  | error e => rfl
  | ok a => exact h a

theorem classify_rephrase {α β : Type} (g : α → β) (x : Except RuleError α) :
    classify (rephrase f g x) = (classify x).map g := by
  cases x with
  | error e => exact congrArg Except.error (e.kind_reword f)
  | ok a => rfl

/-! ## Assembling reworded tokens -/

namespace Assembly

theorem attachGroup_reword (group : Option Tree) (tree : Tree) :
    attachGroup (Tree.rewordOperand f group) (tree.reword f) =
      rephrase f (Tree.reword f) (attachGroup group tree) := by
  cases tree with
  | leaf text => cases group <;> rfl
  | join op left right => cases left <;> rfl

theorem attachCondition_reword (text : String) (slot : Option Tree) :
    attachCondition (f text) (Tree.rewordOperand f slot) =
      rephrase f (Tree.reword f) (attachCondition text slot) := by
  rcases slot with _ | ⟨_ | _⟩ <;> rfl

/-- A reworded token does to the reworded trees what the token does to the trees. -/
theorem push_reword (a : Assembly) (t : Token) :
    (a.reword f).push (t.reword f) = rephrase f (Assembly.reword f) (a.push t) := by
  obtain ⟨slot, outer⟩ := a
  cases t with
  | opening => rfl
  | closing =>
    rcases outer with _ | ⟨_ | tree, outer⟩
    · rfl
    · rfl
    · show attachGroup (Tree.rewordOperand f slot) (tree.reword f) >>= _ = _
      rw [attachGroup_reword]
      exact rephrase_bind f (attachGroup slot tree) fun _ => rfl
  | keyword op => rfl
  | condition text =>
    show attachCondition (f text) (Tree.rewordOperand f slot) >>= _ = _
    rw [attachCondition_reword]
    exact rephrase_bind f (attachCondition text slot) fun _ => rfl

theorem run_reword (tokens : List Token) (a : Assembly) :
    (tokens.map (Token.reword f)).foldlM push (a.reword f) =
      rephrase f (Assembly.reword f) (tokens.foldlM push a) := by
  induction tokens generalizing a with
  | nil => rfl
  | cons t tokens ih =>
    rw [List.map_cons, List.foldlM_cons, List.foldlM_cons, push_reword]
    exact rephrase_bind f (a.push t) ih

theorem finish_reword (a : Assembly) :
    (a.reword f).finish = rephrase f (Tree.reword f) a.finish := by
  obtain ⟨_ | tree, _ | ⟨group, outer⟩⟩ := a <;> rfl

end Assembly

/-- The tree of reworded tokens is the reworded tree. -/
theorem Tree.ofTokens_reword (tokens : List Token) :
    ofTokens (tokens.map (Token.reword f)) = rephrase f (reword f) (ofTokens tokens) := by
  rw [ofTokens, ofTokens, show Assembly.empty = Assembly.empty.reword f from rfl,
    Assembly.run_reword]
  exact rephrase_bind f _ (Assembly.finish_reword f)

/-! ## Case modes -/

namespace Token

variable {f : String → String} {mode mode' : CaseMode}

theorem map_reword_id (tokens : List Token) : tokens.map (reword id) = tokens := by
  have hkept : ∀ t : Token, t.reword id = t := fun t => by cases t <;> rfl
  rw [List.map_congr_left fun t _ => hkept t, List.map_id']

theorem reword_separator {afterWord : Bool} {s r : List Char} {t : Token}
    (h : separator? afterWord s = some (t, r)) : t.reword f = t := by
  cases t with
  | condition text => exact absurd rfl (ne_condition_of_separator? h text)
  | opening | closing | keyword => rfl

/-- Modes that find the same conditions in a text without separators, up to their wording, find the
same tokens in every text. -/
theorem scan_reword (h : ∀ s, ofText mode s = (ofText mode' s).map (reword f)) (s : List Char) :
    scan mode s = (scan mode' s).map (reword f) := by
  fun_induction scan mode s with
  | case1 s text hcut =>
    have hnone : (cut false s).2 = none := by rw [hcut]
    have hwhole : text = s := by rw [← cut_fst_of_none hnone, hcut]
    rw [scan_of_none hnone, hwhole, h]
  | case2 s text separator rest hcut _ ih =>
    obtain ⟨sep, -, hsep⟩ := cut_eq_some hcut
    rw [scan_of_some hcut, List.map_append, List.map_cons, reword_separator hsep, h, ih]

/-- Modes that treat the texts of conditions alike find the same tokens. -/
theorem scan_congr (h : mode.lowersConditions = mode'.lowersConditions) (s : List Char) :
    scan mode s = scan mode' s := by
  have htext : ∀ s, ofText mode s = (ofText mode' s).map (reword id) := fun s => by
    rw [map_reword_id, ofText, ofText, h]
  rw [scan_reword htext, map_reword_id]

/-- A mode that lowercases conditions finds the tokens that are found when their case is preserved,
with the conditions lowercased. -/
theorem scan_lowercase (h : mode.lowersConditions = true) (s : List Char) :
    scan mode s = (scan .preserveLiterals s).map (reword Text.lowercase) := by
  refine scan_reword (fun s => ?_) s
  rw [ofText, ofText]
  split
  · rfl
  · rw [h]
    rfl

end Token

namespace Tree

theorem ofRule_congr {mode mode' : CaseMode}
    (h : mode.lowersConditions = mode'.lowersConditions) (rule : String) :
    ofRule mode rule = ofRule mode' rule := by
  rw [ofRule, ofRule, Token.ofRule, Token.ofRule, Token.scan_congr h]

/-- A mode that lowercases conditions reads a rule as the tree with the lowercase of its conditions,
and shows them so in an error. -/
theorem outcome_ofRule_lowercase {mode : CaseMode} (h : mode.lowersConditions = true)
    (rule : String) :
    (ofRule mode rule).outcome =
      rephrase Text.lowercase (reword Text.lowercase) (ofRule .preserveLiterals rule).outcome := by
  rw [outcome_ofRule, outcome_ofRule, Token.ofRule, Token.ofRule]
  split
  · rfl
  · have htokens := ofTokens_reword Text.lowercase (Token.scan .preserveLiterals rule.toList)
    rwa [← Token.scan_lowercase h] at htokens

/-- The case mode decides the texts of the conditions and nothing else. The two modes that lowercase
conditions read every rule in the same way. Preserving their case gives a tree for the same rules,
of which the others have the tree with each text lowercased, every connective and every gap where it
is; and where it gives an error, the others give one of the same class. -/
theorem ofRule_caseMode (rule : String) :
    ofRule .foldContext rule = ofRule .verbatim rule ∧
      classify (ofRule .verbatim rule).outcome =
        (classify (ofRule .preserveLiterals rule).outcome).map (reword Text.lowercase) := by
  have hlowered : CaseMode.foldContext.lowersConditions = CaseMode.verbatim.lowersConditions := rfl
  refine ⟨ofRule_congr hlowered rule, ?_⟩
  rw [outcome_ofRule_lowercase rfl, classify_rephrase]

end Tree

end AttributeRules
