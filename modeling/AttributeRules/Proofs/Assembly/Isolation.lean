import AttributeRules.Proofs.Assembly.Crowding
import AttributeRules.Proofs.Assembly.Grammar

/-!
# Groups in isolation

What stands between two parentheses comes to a group (`HoldsGroup`): to its tree,
or to nothing if it holds only groups that hold nothing. The closing parenthesis
puts that group into the tree that was set aside last, and the trees set aside
before that one are neither changed nor looked at (`run_front_above`).

Main statement: `group_isolated`.
-/

namespace AttributeRules.Assembly

open Token

/-- The tokens come to this group when they stand between two parentheses. -/
inductive HoldsGroup (tokens : List Token) : Option Tree → Prop
  | tree {t : Tree} : Tree.ofTokens tokens = .ok t → HoldsGroup tokens (some t)
  | hollow : Hollow tokens → HoldsGroup tokens none

variable {tokens : List Token} {group : Option Tree}

theorem run_hollow (h : Hollow tokens) : tokens.foldlM push empty = .ok ⟨none, []⟩ := by
  have hsolid : ¬∃ t ∈ tokens, t.isParenthesis = false := by
    rintro ⟨t, ht, hsolid⟩
    rw [h.isParenthesis t ht] at hsolid
    cases hsolid
  rcases hr : tokens.foldlM push empty with e | ⟨slot, outer⟩
  · obtain ⟨taken, t, rest, a, rfl, htaken, hp⟩ := exists_push_error hr
    have hopened : ClosesOpened (taken ++ [t]) := h.balanced.closesOpened.of_prefix ⟨rest, by simp⟩
    have hstanding : Standing [] taken a :=
      .run (hopened.of_prefix (List.prefix_append taken [t])) htaken
    exact absurd (hstanding.crowded hopened hp rest).1.exists_not_isParenthesis hsolid
  · obtain ⟨rfl, hshows⟩ := (Standing.run h.balanced.closesOpened hr).of_balanced h.balanced
    have hslot : ¬slot ≠ none := mt (hshows.exists_not_isParenthesis_iff h.balanced).2 hsolid
    rw [Classical.not_not.1 hslot]

theorem HoldsGroup.run (h : HoldsGroup tokens group) :
    tokens.foldlM push empty = .ok ⟨group, []⟩ := by
  cases h with
  | tree h => exact Tree.ofTokens_eq_ok.1 h
  | hollow h => exact run_hollow h

/-! ## Trees set aside before -/

theorem above_above (a : Assembly) (inner outer : List (Option Tree)) :
    (a.above inner).above outer = a.above (inner ++ outer) := by
  rw [above, above, above, List.append_assoc]

/-- A closing parenthesis that has a partner needs no other tree than the one set aside there. -/
theorem push_closing_above (slot : Option Tree) (outer : List (Option Tree)) :
    push ⟨group, slot :: outer⟩ .closing =
      (push ⟨group, [slot]⟩ .closing).map (·.above outer) := by
  cases slot with
  | none => rfl
  | some tree =>
    simp only [push]
    cases attachGroup group tree <;> rfl

/-- Up to any token of a group all is as it would be without the trees that were set aside before:
the tree so far, the trees set aside since, and the error if there is one. -/
theorem run_front_above (h : HoldsGroup tokens group) (slot : Option Tree)
    (outer : List (Option Tree)) {front : List Token}
    (hfront : front <+: .opening :: (tokens ++ [.closing])) :
    front.foldlM push ⟨slot, outer⟩ = (front.foldlM push ⟨slot, []⟩).map (·.above outer) := by
  rcases List.prefix_cons_iff.1 hfront with rfl | ⟨inside, rfl, hinside⟩
  · rfl
  rcases List.prefix_concat_iff.1 hinside with rfl | ⟨rest, rfl⟩
  · rw [run_group_of_run h.run, run_group_of_run h.run]
    exact push_closing_above slot outer
  · have hrun := h.run
    rw [List.foldlM_append] at hrun
    obtain ⟨a, ha, -⟩ := bind_eq_ok hrun
    have hbase : ∀ base, inside.foldlM push ⟨none, base⟩ = .ok (a.above base) := run_above ha
    rw [run_opening, run_opening, hbase, hbase]
    exact congrArg Except.ok (above_above a [slot] outer).symm

/-- A group comes to the same wherever it stands. Where nothing was before, it becomes the tree so
far. It becomes the left operand of a connective that has none, and else the right operand; so a
group that holds nothing leaves a missing left operand missing, and takes the right one away.
Behind a condition a group that holds nothing is passed over, and any other is misplaced. The trees
that were set aside before are still there, and with them all is as without them, at each token of
the group. -/
theorem group_isolated (h : HoldsGroup tokens group) (outer : List (Option Tree)) :
    let run := fun slot => (.opening :: (tokens ++ [.closing])).foldlM push ⟨slot, outer⟩
    run none = .ok ⟨group, outer⟩ ∧
      (∀ op right, run (some (.join op none right)) = .ok ⟨some (.join op group right), outer⟩) ∧
      (∀ op left right, run (some (.join op (some left) right)) =
        .ok ⟨some (.join op (some left) group), outer⟩) ∧
      (∀ text, run (some (.leaf text)) =
        match group with
        | none => .ok ⟨some (.leaf text), outer⟩
        | some t => .error (.misplacedCondition (.group t text))) ∧
      ∀ (slot : Option Tree) (front : List Token), front <+: .opening :: (tokens ++ [.closing]) →
        front.foldlM push ⟨slot, outer⟩ =
          (front.foldlM push ⟨slot, []⟩).map (·.above outer) := by
  intro run
  have hrun : ∀ slot, run slot = push ⟨group, slot :: outer⟩ .closing :=
    fun slot => run_group_of_run h.run slot outer
  refine ⟨hrun none, fun op right => hrun _, fun op left right => hrun _, fun text => ?_,
    fun slot front hfront => run_front_above h slot outer hfront⟩
  rw [hrun]
  cases group <;> rfl

/-- A group of an incomplete tree takes the place of a right operand that is there, and is misplaced
behind a condition; three groups that hold nothing take the right operand away. Both stand above two
levels, which stay. -/
theorem group_isolated_replaced :
    let tokens : List Token := [.condition "a", .keyword .or, .opening, .condition "b",
      .keyword .and, .closing]
    let hollow : List Token := [.opening, .closing, .opening, .opening, .closing, .closing]
    let tree : Tree := .join .or (some (.leaf "a")) (some (.join .and (some (.leaf "b")) none))
    let both : Tree := .join .and (some (.leaf "c")) (some (.leaf "d"))
    let outer : List (Option Tree) := [some (.leaf "x"), none]
    HoldsGroup tokens (some tree) ∧ HoldsGroup hollow none ∧
      (.opening :: (tokens ++ [.closing])).foldlM push ⟨some both, outer⟩ =
        .ok ⟨some (.join .and (some (.leaf "c")) (some tree)), outer⟩ ∧
      (.opening :: (tokens ++ [.closing])).foldlM push ⟨some (.leaf "c"), outer⟩ =
        .error (.misplacedCondition (.group tree "c")) ∧
      (.opening :: (hollow ++ [.closing])).foldlM push ⟨some both, outer⟩ =
        .ok ⟨some (.join .and (some (.leaf "c")) none), outer⟩ ∧
      [.opening, .condition "a"] <+: .opening :: (tokens ++ [.closing]) ∧
      [.opening, .condition "a"].foldlM push ⟨some both, outer⟩ =
        ([.opening, .condition "a"].foldlM push ⟨some both, []⟩).map (·.above outer) := by
  intro tokens hollow tree both outer
  have htokens : HoldsGroup tokens (some tree) := .tree rfl
  have hhollow : HoldsGroup hollow none := .hollow ⟨by decide, by decide⟩
  have hfront : [.opening, .condition "a"] <+: .opening :: (tokens ++ [.closing]) := ⟨_, rfl⟩
  obtain ⟨-, -, hright, hleaf, hframe⟩ := group_isolated htokens outer
  obtain ⟨-, -, hempty, -, -⟩ := group_isolated hhollow outer
  exact ⟨htokens, hhollow, hright _ _ _, hleaf "c", hempty _ _ _, hfront, hframe _ _ hfront⟩

end AttributeRules.Assembly
