import Mathlib.Data.List.Infix
import AttributeRules.Token

/-!
# Balanced parentheses

The parentheses of a list of tokens are balanced if no part at its front closes
more of them than it opens, and the whole closes as many (`Balanced`). Balanced
lists may follow each other (`Balanced.append`) and stand between two
parentheses (`Balanced.group`). Those without a condition or a keyword are
hollow (`Hollow`): nothing but groups that hold nothing.
-/

namespace AttributeRules.Token

/-- Whether the token is a parenthesis. -/
def isParenthesis : Token → Bool
  | opening | closing => true
  | keyword _ | condition _ => false

/-- No parenthesis is closed before it is opened. -/
def ClosesOpened (tokens : List Token) : Prop :=
  ∀ front, front <+: tokens → front.count closing ≤ front.count opening

instance (tokens : List Token) : Decidable (ClosesOpened tokens) :=
  decidable_of_iff (∀ front ∈ tokens.inits, front.count closing ≤ front.count opening)
    (forall_congr' fun front => imp_congr_left (List.mem_inits front tokens))

/-- Every parenthesis has its partner: none is closed before it is opened, and none stays open. -/
structure Balanced (tokens : List Token) : Prop where
  closesOpened : ClosesOpened tokens
  count_eq : tokens.count closing = tokens.count opening

instance (tokens : List Token) : Decidable (Balanced tokens) :=
  decidable_of_iff (ClosesOpened tokens ∧ tokens.count closing = tokens.count opening)
    ⟨fun h => ⟨h.1, h.2⟩, fun h => ⟨h.1, h.2⟩⟩

theorem ClosesOpened.of_prefix {front tokens : List Token} (h : ClosesOpened tokens)
    (hfront : front <+: tokens) : ClosesOpened front :=
  fun front' h' => h front' (h'.trans hfront)

theorem balanced_nil : Balanced [] := ⟨fun front h => by rw [List.prefix_nil.1 h]; rfl, rfl⟩

/-- A part at the front of two lists is one of the first, or goes on into the second. -/
theorem prefix_append_cases {front ts us : List Token} (h : front <+: ts ++ us) :
    front <+: ts ∨ ∃ more, more <+: us ∧ front = ts ++ more := by
  rcases List.prefix_or_prefix_of_prefix h (List.prefix_append ts us) with h' | ⟨more, rfl⟩
  · exact .inl h'
  · exact .inr ⟨more, (List.prefix_append_right_inj ts).1 h, rfl⟩

theorem Balanced.append {ts us : List Token} (ht : Balanced ts) (hu : Balanced us) :
    Balanced (ts ++ us) := by
  refine ⟨fun front hfront => ?_, ?_⟩
  · rcases prefix_append_cases hfront with hfront | ⟨more, hmore, rfl⟩
    · exact ht.closesOpened front hfront
    · have := hu.closesOpened more hmore
      rw [List.count_append, List.count_append, ht.count_eq]
      omega
  · rw [List.count_append, List.count_append, ht.count_eq, hu.count_eq]

theorem Balanced.group {ts : List Token} (h : Balanced ts) :
    Balanced (opening :: (ts ++ [closing])) := by
  refine ⟨fun front hfront => ?_, ?_⟩
  · rcases List.prefix_cons_iff.1 hfront with rfl | ⟨inside, rfl, hinside⟩
    · rfl
    rw [List.count_cons_self, List.count_cons_of_ne (by decide)]
    rcases List.prefix_concat_iff.1 hinside with rfl | hinside
    · simp [h.count_eq]
    · exact Nat.le_succ_of_le (h.closesOpened inside hinside)
  · simp [h.count_eq]

/-- Behind a balanced list nothing is left to be closed. -/
theorem Balanced.not_closesOpened_concat {ts : List Token} (h : Balanced ts) :
    ¬ClosesOpened (ts ++ [closing]) := by
  intro hopened
  have hle := hopened _ List.prefix_rfl
  rw [List.count_append, List.count_append, h.count_eq, List.count_singleton_self,
    List.count_singleton] at hle
  exact absurd hle (Nat.not_succ_le_self _)

theorem Balanced.opening_not_mem_getLast? {ts : List Token} (h : Balanced ts) :
    opening ∉ ts.getLast? := by
  intro hlast
  obtain ⟨front, rfl⟩ := List.getLast?_eq_some_iff.1 hlast
  have hle := h.closesOpened front (List.prefix_append front [opening])
  have hcount := h.count_eq
  rw [List.count_append, List.count_append, List.count_singleton_self, List.count_singleton,
    if_neg (by decide)] at hcount
  omega

theorem count_of_not_isParenthesis {t : Token} (h : t.isParenthesis = false) :
    [t].count opening = 0 ∧ [t].count closing = 0 := by
  cases t with
  | opening | closing => cases h
  | keyword | condition => simp

theorem balanced_singleton {t : Token} (h : t.isParenthesis = false) : Balanced [t] := by
  obtain ⟨ho, hc⟩ := count_of_not_isParenthesis h
  refine ⟨fun front hfront => ?_, hc.trans ho.symm⟩
  have := hfront.sublist.count_le closing
  omega

/-- Balanced parentheses and nothing else: groups that hold nothing. -/
structure Hollow (tokens : List Token) : Prop where
  balanced : Balanced tokens
  isParenthesis : ∀ t ∈ tokens, t.isParenthesis = true

theorem hollow_nil : Hollow [] := ⟨balanced_nil, nofun⟩

theorem Hollow.append {ts us : List Token} (ht : Hollow ts) (hu : Hollow us) :
    Hollow (ts ++ us) :=
  ⟨ht.balanced.append hu.balanced, List.forall_mem_append.2 ⟨ht.isParenthesis, hu.isParenthesis⟩⟩

theorem Hollow.group {ts : List Token} (h : Hollow ts) : Hollow (opening :: (ts ++ [closing])) := by
  refine ⟨h.balanced.group, List.forall_mem_cons.2 ⟨rfl, ?_⟩⟩
  exact List.forall_mem_append.2 ⟨h.isParenthesis, List.forall_mem_singleton.2 rfl⟩

end AttributeRules.Token
