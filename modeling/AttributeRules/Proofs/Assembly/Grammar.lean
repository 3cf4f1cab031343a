import Mathlib.Data.List.Chain
import AttributeRules.Proofs.Outcome

/-!
# The grammar of rules

The tokens of a well-formed rule are derived by

    term   := factor ((and | or) factor)*
    factor := '(' term ')' | condition

and a derivation has a tree: the operands of a term are joined from left to
right (`joinChain`), and the term between two parentheses is one operand. The
tokens of a term leave its tree where nothing was (`Term.run`). Tokens between
two parentheses come to the same group wherever they stand
(`Assembly.run_group`).
-/

namespace AttributeRules

/-- Joins further operands to a tree from left to right. -/
def joinChain (first : Tree) (steps : List (Connective × Tree)) : Tree :=
  steps.foldl (fun tree (op, next) => .join op (some tree) (some next)) first

theorem joinChain_append (first : Tree) (steps : List (Connective × Tree)) (op : Connective)
    (next : Tree) :
    joinChain first (steps ++ [(op, next)]) =
      .join op (some (joinChain first steps)) (some next) := by
  simp only [joinChain, List.foldl_append, List.foldl_cons, List.foldl_nil]

namespace Assembly

theorem run_opening (slot : Option Tree) (outer : List (Option Tree)) (ts : List Token) :
    (.opening :: ts).foldlM push ⟨slot, outer⟩ = ts.foldlM push ⟨none, slot :: outer⟩ := rfl

theorem run_keyword (slot : Option Tree) (outer : List (Option Tree)) (op : Connective)
    (ts : List Token) : (.keyword op :: ts).foldlM push ⟨slot, outer⟩ =
      ts.foldlM push ⟨some (.join op slot none), outer⟩ := rfl

end Assembly

namespace Grammar

mutual

/-- The tokens of a factor, and its tree. -/
inductive Factor : List Token → Tree → Prop
  | condition (text : String) : Factor [.condition text] (.leaf text)
  | group {ts : List Token} {t : Tree} : Term ts t → Factor (.opening :: (ts ++ [.closing])) t

/-- The tokens of a term, and its tree. -/
inductive Term : List Token → Tree → Prop
  | chain {ts us : List Token} {first : Tree} {steps : List (Connective × Tree)} :
    Factor ts first → Steps us steps → Term (ts ++ us) (joinChain first steps)

/-- The tokens that follow the first factor of a term: keywords, each with a factor behind it. -/
inductive Steps : List Token → List (Connective × Tree) → Prop
  | nil : Steps [] []
  | cons {ts us : List Token} {next : Tree} {steps : List (Connective × Tree)} (op : Connective) :
    Factor ts next → Steps us steps → Steps (.keyword op :: (ts ++ us)) ((op, next) :: steps)

end

/-! ## Derivations -/

theorem Term.ofFactor {ts : List Token} {t : Tree} (h : Factor ts t) : Term ts t := by
  simpa [joinChain] using Term.chain h .nil

theorem Steps.snoc {us ts : List Token} {steps : List (Connective × Tree)} {next : Tree}
    (op : Connective) (hf : Factor ts next) :
    Steps us steps → Steps (us ++ .keyword op :: ts) (steps ++ [(op, next)])
  | .nil => by simpa using Steps.cons op hf .nil
  | .cons op' hf' hs => by simpa using Steps.cons op' hf' (hs.snoc op hf)

theorem Term.join {us ts : List Token} {t next : Tree} (op : Connective) (h : Term us t)
    (hf : Factor ts next) : Term (us ++ .keyword op :: ts) (.join op (some t) (some next)) := by
  obtain ⟨hfirst, hs⟩ := h
  rw [← joinChain_append, List.append_assoc]
  exact .chain hfirst (hs.snoc op hf)

mutual

theorem Factor.isComplete {ts : List Token} {t : Tree} : Factor ts t → t.isComplete = true
  | .condition _ => rfl
  | .group h => h.isComplete

theorem Term.isComplete {ts : List Token} {t : Tree} : Term ts t → t.isComplete = true
  | .chain h hs => hs.isComplete h.isComplete

theorem Steps.isComplete {ts : List Token} {steps : List (Connective × Tree)} {first : Tree} :
    Steps ts steps → first.isComplete = true → (joinChain first steps).isComplete = true
  | .nil, hfirst => hfirst
  | .cons _ hf hs, hfirst => hs.isComplete (by
    simp only [Tree.isComplete, Tree.isFilled, hfirst, hf.isComplete, Bool.and_self])

end

/-! ## Assembling what is derived -/

/-- A tree takes the place that is due for an operand: the whole of it, or the right side. -/
inductive Fills (t : Tree) : Option Tree → Tree → Prop
  | whole : Fills t none t
  | right (op : Connective) (left : Tree) :
    Fills t (some (.join op (some left) none)) (.join op (some left) (some t))

mutual

theorem Factor.run {ts : List Token} {t whole : Tree} {slot : Option Tree}
    {outer : List (Option Tree)} (hw : Fills t slot whole) :
    Factor ts t → ts.foldlM Assembly.push ⟨slot, outer⟩ = .ok ⟨some whole, outer⟩
  | .condition text => by cases hw <;> rfl
  | .group h => by
    rw [Assembly.run_opening, List.foldlM_append, h.run]
    cases hw <;> rfl

/-- The tokens of a term leave its tree where nothing was, above any trees set aside before. -/
theorem Term.run {ts : List Token} {t : Tree} {outer : List (Option Tree)} :
    Term ts t → ts.foldlM Assembly.push ⟨none, outer⟩ = .ok ⟨some t, outer⟩
  | .chain h hs => by
    rw [List.foldlM_append, h.run .whole]
    exact hs.run

theorem Steps.run {ts : List Token} {steps : List (Connective × Tree)} {first : Tree}
    {outer : List (Option Tree)} :
    Steps ts steps →
      ts.foldlM Assembly.push ⟨some first, outer⟩ = .ok ⟨some (joinChain first steps), outer⟩
  | .nil => rfl
  | .cons op h hs => by
    rw [Assembly.run_keyword, List.foldlM_append, h.run (.right op first)]
    exact hs.run

end

theorem Term.ofTokens {ts : List Token} {t : Tree} (h : Term ts t) :
    Tree.ofTokens ts = .ok t := by
  rw [Tree.ofTokens, Assembly.empty, h.run]
  rfl

end Grammar

/-! ## Groups -/

namespace Assembly

/-- The same tree under construction, at a level with these trees set aside around it. -/
def above (a : Assembly) (outer : List (Option Tree)) : Assembly :=
  ⟨a.current, a.suspended ++ outer⟩

@[simp] theorem mk_above (slot : Option Tree) (inner outer : List (Option Tree)) :
    above ⟨slot, inner⟩ outer = ⟨slot, inner ++ outer⟩ := rfl

/-- A step that succeeds does not see the trees that were set aside before. -/
theorem push_above {a b : Assembly} {t : Token} (h : a.push t = .ok b)
    (outer : List (Option Tree)) : (a.above outer).push t = .ok (b.above outer) := by
  obtain ⟨slot, inner⟩ := a
  cases t with
  | opening =>
    cases h
    rfl
  | closing =>
    rcases inner with _ | ⟨_ | tree, inner⟩
    -- With nothing of its own set aside the step fails, where above `outer` it would take a tree.
    · cases h
    · cases h
      rfl
    · obtain ⟨t, ht, ⟨⟩⟩ := bind_eq_ok h
      simp only [mk_above, List.cons_append, push, ht]
      rfl
  | keyword op =>
    cases h
    rfl
  | condition text =>
    obtain ⟨t, ht, ⟨⟩⟩ := bind_eq_ok h
    simp only [mk_above, push, ht]
    rfl

/-- Tokens that can be assembled on their own do the same with trees set aside before. -/
theorem run_above {tokens : List Token} {a b : Assembly} (h : tokens.foldlM push a = .ok b)
    (outer : List (Option Tree)) : tokens.foldlM push (a.above outer) = .ok (b.above outer) := by
  induction tokens generalizing a with
  | nil =>
    cases h
    rfl
  | cons t tokens ih =>
    rw [List.foldlM_cons] at h ⊢
    obtain ⟨a', hpush, hrun⟩ := bind_eq_ok h
    rw [push_above hpush outer]
    exact ih hrun

/-- Tokens that come to a group of their own, between two parentheses, come down to closing it. -/
theorem run_group_of_run {tokens : List Token} {group : Option Tree}
    (h : tokens.foldlM push empty = .ok ⟨group, []⟩) (slot : Option Tree)
    (outer : List (Option Tree)) :
    (.opening :: (tokens ++ [.closing])).foldlM push ⟨slot, outer⟩ =
      push ⟨group, slot :: outer⟩ .closing := by
  have hinside : tokens.foldlM push ⟨none, slot :: outer⟩ = .ok ⟨group, slot :: outer⟩ :=
    run_above h (slot :: outer)
  rw [run_opening, List.foldlM_append, hinside]
  exact bind_pure (push ⟨group, slot :: outer⟩ .closing)

/-- Tokens that have a tree, between two parentheses, come down to closing a group with it. -/
theorem run_group {tokens : List Token} {t : Tree} (h : Tree.ofTokens tokens = .ok t)
    (slot : Option Tree) (outer : List (Option Tree)) :
    (.opening :: (tokens ++ [.closing])).foldlM push ⟨slot, outer⟩ =
      push ⟨some t, slot :: outer⟩ .closing :=
  run_group_of_run (Tree.ofTokens_eq_ok.1 h) slot outer

end Assembly

end AttributeRules
