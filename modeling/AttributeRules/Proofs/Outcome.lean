import AttributeRules.Settings

/-!
# Outcomes

Results and errors without the events on the way to them. The outcome of a
computation in steps is that of the outcomes of its steps
(`Traced.outcome_bind`), and what every token keeps is kept by all tokens that
can be assembled (`Assembly.run_induction`).
-/

namespace AttributeRules

/-- A sequence that has a result has one at its first step. -/
theorem bind_eq_ok {α β : Type} {x : Except RuleError α} {f : α → Except RuleError β} {b : β}
    (h : x >>= f = .ok b) : ∃ a, x = .ok a ∧ f a = .ok b := by
  cases x with
  | error e => cases h
  | ok a => exact ⟨a, rfl, h⟩

theorem bind_eq_error {α β : Type} {x : Except RuleError α} {f : α → Except RuleError β}
    {e : RuleError} (h : x >>= f = .error e) : x = .error e ∨ ∃ a, x = .ok a ∧ f a = .error e := by
  cases x with
  | error e' =>
    cases h
    exact .inl rfl
  | ok a => exact .inr ⟨a, rfl, h⟩

namespace Traced

variable {α β : Type}

@[simp] theorem outcome_bind (x : Traced α) (f : α → Traced β) :
    (x >>= f).outcome = x.outcome >>= fun a => (f a).outcome := by
  obtain ⟨_ | a, es⟩ := x <;> rfl

@[simp] theorem outcome_ofExcept (r : Except RuleError α) : (ofExcept r).outcome = r := rfl

end Traced

/-! ## Classes of errors -/

/-- The result, or the class of the error without its details. -/
def classify {α : Type} (r : Except RuleError α) : Except RuleError.Kind α :=
  r.mapError RuleError.kind

@[simp] theorem classify_ok {α : Type} (a : α) : classify (.ok a : Except RuleError α) = .ok a :=
  rfl

@[simp] theorem classify_error {α : Type} (e : RuleError) :
    classify (.error e : Except RuleError α) = .error e.kind := rfl

theorem classify_bind {α β : Type} (x : Except RuleError α) (f : α → Except RuleError β) :
    classify (x >>= f) = classify x >>= fun a => classify (f a) := by
  cases x <;> rfl

/-! ## Tokens -/

/-- What holds before the first token, and still holds when one token more is taken, holds of all
tokens that are taken. -/
theorem Assembly.run_induction {P : List Token → Assembly → Prop} {tokens : List Token}
    {a b : Assembly} (hrun : tokens.foldlM push a = .ok b) (hfirst : P [] a)
    (hstep : ∀ taken t rest a b, tokens = taken ++ t :: rest → P taken a → a.push t = .ok b →
      P (taken ++ [t]) b) : P tokens b := by
  suffices h : ∀ rest taken a, tokens = taken ++ rest → P taken a → rest.foldlM push a = .ok b →
      P tokens b from h tokens [] a rfl hfirst hrun
  intro rest
  induction rest with
  | nil =>
    rintro taken a rfl htaken ⟨⟩
    rwa [List.append_nil]
  | cons t rest ih =>
    intro taken a htokens htaken hr
    rw [List.foldlM_cons] at hr
    obtain ⟨a', hp, hr⟩ := bind_eq_ok hr
    have hnext := hstep taken t rest a a' htokens htaken hp
    exact ih (taken ++ [t]) a' (by rw [htokens, List.append_cons]) hnext hr

/-- Tokens that cannot all be taken fail at one of them, after those before it. -/
theorem Assembly.exists_push_error {tokens : List Token} {a : Assembly} {e : RuleError}
    (h : tokens.foldlM push a = .error e) :
    ∃ taken t rest b, tokens = taken ++ t :: rest ∧ taken.foldlM push a = .ok b ∧
      b.push t = .error e := by
  induction tokens generalizing a with
  | nil => cases h
  | cons t tokens ih =>
    rw [List.foldlM_cons] at h
    rcases bind_eq_error h with h | ⟨b, hp, h⟩
    · exact ⟨[], t, tokens, a, rfl, rfl, h⟩
    · obtain ⟨taken, u, rest, c, rfl, hrun, hu⟩ := ih h
      refine ⟨t :: taken, u, rest, c, rfl, ?_, hu⟩
      rw [List.foldlM_cons, hp]
      exact hrun

/-- The tree of a list of tokens is what is left at their end, with no parenthesis open. -/
theorem Tree.ofTokens_eq_ok {tokens : List Token} {t : Tree} :
    ofTokens tokens = .ok t ↔
      tokens.foldlM Assembly.push Assembly.empty = .ok ⟨some t, []⟩ := by
  constructor
  · intro h
    obtain ⟨⟨slot, outer⟩, hrun, hfinish⟩ := bind_eq_ok h
    rcases outer with _ | ⟨group, outer⟩
    · rcases slot with _ | u
      · cases hfinish
      · cases hfinish
        exact hrun
    · cases hfinish
  · intro h
    rw [ofTokens, h]
    rfl

/-- Reading a rule is cutting it into tokens and assembling them. -/
theorem Tree.outcome_ofRule (mode : CaseMode) (rule : String) :
    (Tree.ofRule mode rule).outcome = (Token.ofRule mode rule).outcome >>= Tree.ofTokens := by
  simp only [Tree.ofRule, Traced.outcome_bind, Traced.outcome_ofExcept]

/-- The tokens of a rule that is not blank. -/
theorem Token.outcome_ofRule_eq_ok {mode : CaseMode} {rule : String} {tokens : List Token} :
    (Token.ofRule mode rule).outcome = .ok tokens ↔
      rule.toList.all Text.isBlank = false ∧ scan mode rule.toList = tokens := by
  rw [Token.ofRule]
  split
  · next h => simp [h, Traced.fail]
  · next h => simp [h, Except.ok.injEq]

end AttributeRules
