import AttributeRules.Proofs.Assembly.Grammar
import AttributeRules.Proofs.Outcome

/-!
# Tokens without operands side by side

While tokens are assembled in which no condition and no group follows another
one directly (`Token.Separated`), each of these comes to a place that waits for
one (`Awaiting`). So no side is filled twice, and one that was passed over stays
empty: a complete tree so far has been derived from the tokens of its level
(`Reading.run`).

Main statement: `Tree.ofTokens_grammar`.
-/

namespace AttributeRules

namespace Token

/-- Whether an operand starts with this token. -/
def startsOperand : Token → Bool
  | opening | condition _ => true
  | closing | keyword _ => false

/-- Whether an operand ends with this token. -/
def endsOperand : Token → Bool
  | closing | condition _ => true
  | opening | keyword _ => false

/-- No operand follows directly on another. -/
def Separated (tokens : List Token) : Prop :=
  tokens.IsChain fun t u => t.endsOperand = true → u.startsOperand = false

instance (tokens : List Token) : Decidable (Separated tokens) :=
  inferInstanceAs (Decidable (tokens.IsChain _))

theorem Separated.not_endsOperand {before after : List Token} {t : Token}
    (h : Separated (before ++ t :: after)) (ht : t.startsOperand = true) :
    ∀ last ∈ before.getLast?, last.endsOperand = false := by
  intro last hlast
  have := (List.isChain_append.1 h).2.2 last hlast t rfl
  grind

end Token

namespace Grammar

/-- The tree in the slot, if it is complete, is derived from the tokens. -/
def Spells (ts : List Token) (slot : Option Tree) : Prop :=
  ∀ t ∈ slot, t.isComplete = true → Term ts t

/-- The tree in the slot, if it is complete, is that of a factor of these tokens. -/
def SpellsFactor (ts : List Token) (slot : Option Tree) : Prop :=
  ∀ t ∈ slot, t.isComplete = true → Factor ts t

theorem SpellsFactor.spells {ts : List Token} {slot : Option Tree} (h : SpellsFactor ts slot) :
    Spells ts slot :=
  fun t ht hc => .ofFactor (h t ht hc)

theorem SpellsFactor.leaf (text : String) :
    SpellsFactor [.condition text] (some (.leaf text)) := by
  rintro _ ⟨⟩ -
  exact .condition text

theorem Spells.none (ts : List Token) : Spells ts none := nofun

/-- The level between two parentheses is one operand. -/
theorem Spells.group {ts : List Token} {slot : Option Tree} (h : Spells ts slot) :
    SpellsFactor (.opening :: (ts ++ [.closing])) slot :=
  fun t ht hc => .group (h t ht hc)

/-- A connective with a missing operand is never complete, whatever was read. -/
theorem Spells.of_missing {op : Connective} {left right : Option Tree} (ts : List Token)
    (h : left = Option.none ∨ right = Option.none) : Spells ts (some (.join op left right)) := by
  rintro _ ⟨⟩ hc
  rcases h with rfl | rfl <;> simp [Tree.isComplete, Tree.isFilled] at hc

/-- The right operand of a keyword completes the level. -/
theorem Spells.join {us ts : List Token} {left right : Option Tree} (op : Connective)
    (h : Spells us left) (hr : SpellsFactor ts right) :
    Spells (us ++ .keyword op :: ts) (some (.join op left right)) := by
  rcases left with _ | l
  · exact .of_missing _ (.inl rfl)
  rcases right with _ | r
  · exact .of_missing _ (.inr rfl)
  rintro _ ⟨⟩ hc
  simp only [Tree.isComplete, Tree.isFilled, Bool.and_eq_true] at hc
  exact (h l rfl hc.1).join op (hr r rfl hc.2)

/-- A level of parentheses that waits for an operand: its tokens so far and its tree so far. -/
inductive Awaiting : List Token → Option Tree → Prop
  | start : Awaiting [] none
  | right {us : List Token} {left : Option Tree} (op : Connective) :
    Spells us left → Awaiting (us ++ [.keyword op]) (some (.join op left none))

/-- The levels of the parentheses that are still open, with all tokens up to the last of them. -/
inductive Suspended : List Token → List (Option Tree) → Prop
  | nil : Suspended [] []
  | cons {before level : List Token} {slot : Option Tree} {outer : List (Option Tree)} :
    Suspended before outer → Awaiting level slot →
    Suspended (before ++ level ++ [.opening]) (slot :: outer)

/-- What has been read: tokens up to the last open parenthesis, and those of the level behind it,
which waits for an operand unless one has just ended. -/
inductive Reading : List Token → Assembly → Prop
  | intro {before level : List Token} {a : Assembly} :
    Suspended before a.suspended → Spells level a.current →
    ((∀ last ∈ (before ++ level).getLast?, last.endsOperand = false) → Awaiting level a.current) →
    Reading (before ++ level) a

theorem Reading.empty : Reading [] .empty :=
  @Reading.intro [] [] .empty .nil (.none _) fun _ => .start

/-! ## One token more -/

/-- An operand has come to an end, so that nothing waits for one. -/
theorem Reading.ended {before level : List Token} {last : Token} {a : Assembly}
    (hs : Suspended before a.suspended) (h : Spells (level ++ [last]) a.current)
    (hlast : last.endsOperand = true) : Reading (before ++ (level ++ [last])) a :=
  .intro hs h fun hends => by
    have := hends last (by rw [← List.append_assoc]; exact List.getLast?_concat)
    rw [hlast] at this
    cases this

theorem Awaiting.attachCondition {level : List Token} {slot : Option Tree} {text : String}
    {t : Tree} (hw : Awaiting level slot) (h : Assembly.attachCondition text slot = .ok t) :
    Spells (level ++ [.condition text]) (some t) := by
  cases hw with
  | start =>
    cases h
    exact (SpellsFactor.leaf text).spells
  | right op hl =>
    cases h
    rw [List.append_assoc]
    exact hl.join op (.leaf text)

/-- A group that is put into a tree that waits for an operand. If the left side is missing it
goes there, which leaves the right side empty. -/
theorem Awaiting.attachGroup {level ts : List Token} {slot group : Option Tree} {tree t : Tree}
    (hw : Awaiting level slot) (hslot : slot = some tree) (hg : SpellsFactor ts group)
    (h : Assembly.attachGroup group tree = .ok t) : Spells (level ++ ts) (some t) := by
  cases hw with
  | start => cases hslot
  | @right us left op hl =>
    cases hslot
    rcases left with _ | l
    · cases h
      exact .of_missing _ (.inr rfl)
    · cases h
      rw [List.append_assoc]
      exact hl.join op hg

/-- One token more, which does not start an operand behind another one. -/
theorem Reading.push {tokens : List Token} {a b : Assembly} {t : Token} (h : Reading tokens a)
    (hsep : t.startsOperand = true → ∀ last ∈ tokens.getLast?, last.endsOperand = false)
    (hp : a.push t = .ok b) : Reading (tokens ++ [t]) b := by
  obtain ⟨hs, hc, hw⟩ := h
  rename_i before level
  obtain ⟨slot, outer⟩ := a
  cases t with
  | opening =>
    cases hp
    have hr : Reading (before ++ level ++ [.opening] ++ []) ⟨none, slot :: outer⟩ :=
      .intro (hs.cons (hw (hsep rfl))) (.none _) fun _ => .start
    rwa [List.append_nil] at hr
  | closing =>
    cases hs with
    | nil => cases hp
    | @cons before' level' slot' outer' hs' hw' =>
      have hg := hc.group
      rw [show before' ++ level' ++ [.opening] ++ level ++ [.closing] =
        before' ++ (level' ++ .opening :: level ++ [.closing]) by simp]
      rcases slot' with _ | tree
      · cases hw'
        cases hp
        exact .ended hs' hg.spells rfl
      · obtain ⟨t, ht, ⟨⟩⟩ := bind_eq_ok hp
        refine .ended hs' ?_ rfl
        simpa using hw'.attachGroup rfl hg ht
  | keyword op =>
    cases hp
    rw [List.append_assoc]
    exact .intro hs (.of_missing _ (.inr rfl)) fun _ => .right op hc
  | condition text =>
    obtain ⟨t, ht, ⟨⟩⟩ := bind_eq_ok hp
    rw [List.append_assoc]
    exact .ended hs ((hw (hsep rfl)).attachCondition ht) rfl

/-- Separated tokens that can all be taken are read so. -/
theorem Reading.run {tokens : List Token} {a : Assembly} (hsep : Token.Separated tokens)
    (hr : tokens.foldlM Assembly.push Assembly.empty = .ok a) : Reading tokens a := by
  refine Assembly.run_induction (P := Reading) hr .empty ?_
  rintro taken t rest a b rfl h hp
  exact h.push hsep.not_endsOperand hp

/-- A complete tree of separated tokens is derived from them. -/
theorem Term.of_ofTokens {tokens : List Token} {t : Tree} (hsep : Token.Separated tokens)
    (h : Tree.ofTokens tokens = .ok t) (hc : t.isComplete = true) : Term tokens t := by
  obtain ⟨hs, hspells, -⟩ := Reading.run hsep (Tree.ofTokens_eq_ok.1 h)
  cases hs
  exact hspells t rfl hc

end Grammar

/-- What a derivation derives is assembled to its tree, which is complete. The other way round a
complete tree of tokens in which no operand follows directly on another is that of a derivation
of them. -/
theorem Tree.ofTokens_grammar (tokens : List Token) :
    (∀ t, Grammar.Term tokens t → Tree.ofTokens tokens = .ok t ∧ t.isComplete = true) ∧
    (Token.Separated tokens → ∀ t, Tree.ofTokens tokens = .ok t → t.isComplete = true →
      Grammar.Term tokens t) :=
  ⟨fun _ h => ⟨h.ofTokens, h.isComplete⟩, fun hsep _ h hc => .of_ofTokens hsep h hc⟩

/-- The tokens of `a or b and (c)` are derived with the `or` inside. -/
theorem Tree.ofTokens_grammar_leftGrouped :
    let tokens : List Token := [.condition "a", .keyword .or, .condition "b", .keyword .and,
      .opening, .condition "c", .closing]
    let tree : Tree :=
      .join .and (some (.join .or (some (.leaf "a")) (some (.leaf "b")))) (some (.leaf "c"))
    Token.Separated tokens ∧ Tree.ofTokens tokens = .ok tree ∧ tree.isComplete = true ∧
      Grammar.Term tokens tree :=
  ⟨by decide, rfl, rfl, (Tree.ofTokens_grammar _).2 (by decide) _ rfl rfl⟩

end AttributeRules
