import AttributeRules.Proofs.Assembly.Grammar
import AttributeRules.Proofs.Assembly.LeftEnd
import AttributeRules.Proofs.Token.Balance

/-!
# Which tokens have a tree

What becomes of a list of tokens can be told from the list. A tree under
construction is one of three things, and the tokens of its level of parentheses
say which (`Shows`): none yet, if they are groups that hold nothing; a
condition, if apart from such groups there is one bare item (`Bare`); a
connective, if there is a keyword among them. So tokens with balanced
parentheses fail to have a tree if a condition or a group follows a bare item
(`Crowded`), or if there is nothing in them at all (`Tree.classify_ofTokens`).
-/

namespace AttributeRules

namespace Token

/-! ## Levels of parentheses -/

/-- Apart from groups that hold nothing, the tokens are one bare item: a condition, or a group
that holds one bare item. -/
inductive Bare : List Token → Prop
  | condition {before after : List Token} (text : String) :
    Hollow before → Hollow after → Bare (before ++ .condition text :: after)
  | group {before content after : List Token} :
    Hollow before → Bare content → Hollow after →
    Bare (before ++ .opening :: (content ++ .closing :: after))

/-- The tokens are an operand: a condition, or a group that holds something. -/
inductive Operand : List Token → Prop
  | condition (text : String) : Operand [.condition text]
  | group {content : List Token} : Balanced content → (∃ t ∈ content, t.isParenthesis = false) →
    Operand (.opening :: (content ++ [.closing]))

/-- At some level of parentheses an operand comes behind what is nothing but one bare item. The
level has begun with the last parenthesis that is open before it, or with the first token. -/
def Crowded (tokens : List Token) : Prop :=
  ∃ outer level operand after, tokens = outer ++ (level ++ (operand ++ after)) ∧
    (∀ last ∈ outer.getLast?, last = .opening) ∧ Bare level ∧ Operand operand

theorem Bare.balanced {level : List Token} (h : Bare level) : Balanced level := by
  induction h with
  | condition text hb ha =>
    exact hb.balanced.append ((balanced_singleton rfl).append ha.balanced)
  | @group before content after hb _ ha ih =>
    have h := hb.balanced.append (ih.group.append ha.balanced)
    simpa using h

theorem Bare.not_hollow {level : List Token} (h : Bare level) : ¬Hollow level := by
  intro hh
  induction h with
  | condition text => cases hh.isParenthesis (.condition text) (by simp)
  | group _ hc _ ih =>
    exact ih ⟨hc.balanced, fun t ht => hh.isParenthesis t (by simp [ht])⟩

theorem Bare.keyword_not_mem {level : List Token} (h : Bare level) (op : Connective) :
    .keyword op ∉ level := by
  have hhollow : ∀ {ts : List Token}, Hollow ts → .keyword op ∉ ts := by
    intro ts hts hmem
    cases hts.isParenthesis _ hmem
  induction h with
  | condition text hb ha => simp [hhollow hb, hhollow ha]
  | group hb _ ha ih => simp [hhollow hb, hhollow ha, ih]

/-- A bare item stays one if a group that holds nothing follows it. -/
theorem Bare.append {level group : List Token} (h : Bare level) (hg : Hollow group) :
    Bare (level ++ group) := by
  cases h with
  | condition text hb ha =>
    rw [List.append_assoc]
    exact .condition text hb (ha.append hg)
  | group hb hc ha =>
    rw [List.append_assoc, List.cons_append, List.append_assoc]
    exact .group hb hc (ha.append hg)

theorem Crowded.exists_not_isParenthesis {tokens : List Token} (h : Crowded tokens) :
    ∃ t ∈ tokens, t.isParenthesis = false := by
  obtain ⟨outer, level, operand, after, rfl, -, hbare, -⟩ := h
  by_contra hnone
  refine hbare.not_hollow ⟨hbare.balanced, fun t ht => ?_⟩
  have hmem : t ∈ outer ++ (level ++ (operand ++ after)) :=
    List.mem_append_right _ (List.mem_append_left _ ht)
  simpa using fun hsolid => hnone ⟨t, hmem, hsolid⟩

end Token

namespace Assembly

open Token

/-! ## What a level shows -/

/-- The tokens of a level of parentheses show what its tree so far is. -/
inductive Shows : List Token → Option Tree → Prop
  | absent {level : List Token} : Hollow level → Shows level none
  | operand {level : List Token} (text : String) : Bare level → Shows level (some (.leaf text))
  | operator {level : List Token} {word : Connective} (op : Connective)
      (left right : Option Tree) :
    .keyword word ∈ level → Shows level (some (.join op left right))

theorem Shows.eq_leaf {level : List Token} {slot : Option Tree} (h : Shows level slot)
    (hb : Bare level) : ∃ text, slot = some (.leaf text) := by
  cases h with
  | absent hh => exact absurd hh hb.not_hollow
  | operand text => exact ⟨text, rfl⟩
  | operator op left right hmem => exact absurd hmem (hb.keyword_not_mem _)

theorem Shows.exists_not_isParenthesis_iff {level : List Token} {slot : Option Tree}
    (h : Shows level slot) (hbalanced : Balanced level) :
    (∃ t ∈ level, t.isParenthesis = false) ↔ slot ≠ none := by
  have hhollow : (¬∃ t ∈ level, t.isParenthesis = false) ↔ Hollow level := by
    simp only [not_exists, not_and, Bool.not_eq_false]
    exact ⟨fun h => ⟨hbalanced, h⟩, fun h => h.isParenthesis⟩
  rw [← not_iff_not, hhollow, not_not]
  cases h with
  | absent hh => simp [hh]
  | operand text hb => simp [hb.not_hollow]
  | operator op left right hmem =>
    simp only [reduceCtorEq, iff_false]
    intro hh
    cases hh.isParenthesis _ hmem

theorem Shows.attachCondition {level : List Token} {slot : Option Tree} {text : String} {t : Tree}
    (h : Shows level slot) (ha : attachCondition text slot = .ok t) :
    Shows (level ++ [.condition text]) (some t) := by
  cases h with
  | absent hh =>
    cases ha
    exact .operand text (.condition text hh hollow_nil)
  | operand => cases ha
  | operator op left right hmem =>
    cases ha
    exact .operator op left _ (List.mem_append_left _ hmem)

/-- A group at a level with nothing before it is what the group holds. -/
theorem Shows.group {level content : List Token} {slot : Option Tree} (hh : Hollow level)
    (h : Shows content slot) : Shows (level ++ .opening :: (content ++ [.closing])) slot := by
  cases h with
  | absent hc => exact .absent (hh.append hc.group)
  | operand text hb => exact .operand text (.group hh hb hollow_nil)
  | operator op left right hmem =>
    exact .operator op left right
      (List.mem_append_right _ (List.mem_cons_of_mem _ (List.mem_append_left _ hmem)))

theorem Shows.attachGroup {level content : List Token} {group : Option Tree} {tree t : Tree}
    (h : Shows level (some tree)) (hg : Shows content group)
    (ha : attachGroup group tree = .ok t) :
    Shows (level ++ .opening :: (content ++ [.closing])) (some t) := by
  cases h with
  | operand text hb =>
    cases hg with
    | absent hc =>
      cases ha
      exact .operand text (hb.append hc.group)
    | operand => cases ha
    | operator => cases ha
  | operator op left right hmem =>
    cases left with
    | none =>
      cases ha
      exact .operator op group right (List.mem_append_left _ hmem)
    | some left =>
      cases ha
      exact .operator op (some left) group (List.mem_append_left _ hmem)

/-! ## All levels -/

/-- The levels of the parentheses that are still open, with all tokens up to the last of them. -/
inductive Levels : List Token → List (Option Tree) → Prop
  | nil : Levels [] []
  | cons {before level : List Token} {slot : Option Tree} {outer : List (Option Tree)} :
    Levels before outer → Balanced level → Shows level slot →
    Levels (before ++ (level ++ [.opening])) (slot :: outer)

theorem Levels.last {before : List Token} {outer : List (Option Tree)} (h : Levels before outer) :
    ∀ last ∈ before.getLast?, last = .opening := by
  cases h with
  | nil => nofun
  | cons =>
    rw [← List.append_assoc, List.getLast?_concat]
    rintro _ ⟨⟩
    rfl

theorem Levels.count {before : List Token} {outer : List (Option Tree)} (h : Levels before outer) :
    before.count .opening = before.count .closing + outer.length := by
  induction h with
  | nil => rfl
  | cons _ hb _ ih =>
    simp only [List.count_append, ih, hb.count_eq, List.count_singleton_self, List.length_cons,
      List.count_singleton, beq_iff_eq, reduceCtorEq, if_false]
    omega

variable {base : List (Option Tree)}

/-- Where the tokens have come to, above the trees `base` that were set aside before: the levels
that are open, and the innermost one, whose parentheses are balanced. -/
inductive Standing (base : List (Option Tree)) : List Token → Assembly → Prop
  | intro {before level : List Token} {slot : Option Tree} {inner : List (Option Tree)} :
    Levels before inner → Balanced level → Shows level slot →
    Standing base (before ++ level) ⟨slot, inner ++ base⟩

theorem Standing.start : Standing base [] ⟨none, base⟩ :=
  @Standing.intro base [] [] none [] .nil balanced_nil (.absent hollow_nil)

/-- One token more, which closes no parenthesis that was open before. -/
theorem Standing.push {tokens : List Token} {a b : Assembly} {t : Token}
    (h : Standing base tokens a) (hopened : ClosesOpened (tokens ++ [t])) (hp : a.push t = .ok b) :
    Standing base (tokens ++ [t]) b := by
  obtain ⟨hlevels, hbalanced, hshows⟩ := h
  rename_i before level slot inner
  rw [List.append_assoc]
  cases t with
  | opening =>
    cases hp
    have hnext := @Standing.intro base _ [] none _ (hlevels.cons hbalanced hshows) balanced_nil
      (.absent hollow_nil)
    rwa [List.append_nil] at hnext
  | closing =>
    cases hlevels with
    | nil => exact absurd hopened hbalanced.not_closesOpened_concat
    | @cons before' level' slot' inner' hlevels' hbalanced' hshows' =>
      have hgroup := hbalanced'.append hbalanced.group
      rw [show before' ++ (level' ++ [.opening]) ++ (level ++ [.closing]) =
        before' ++ (level' ++ .opening :: (level ++ [.closing])) by simp]
      rcases slot' with _ | tree
      · cases hshows' with
        | absent hh =>
          cases hp
          exact .intro hlevels' hgroup (hshows.group hh)
      · obtain ⟨t, ht, ⟨⟩⟩ := bind_eq_ok hp
        exact .intro hlevels' hgroup (hshows'.attachGroup hshows ht)
  | keyword op =>
    cases hp
    exact .intro hlevels (hbalanced.append (balanced_singleton rfl))
      (.operator op slot none (List.mem_append_right _ (List.mem_singleton_self _)))
  | condition text =>
    obtain ⟨t, ht, ⟨⟩⟩ := bind_eq_ok hp
    exact .intro hlevels (hbalanced.append (balanced_singleton rfl)) (hshows.attachCondition ht)

/-- All tokens that can be taken, if they close only what they open. -/
theorem Standing.run {tokens : List Token} {a : Assembly} (hopened : ClosesOpened tokens)
    (hr : tokens.foldlM Assembly.push ⟨none, base⟩ = .ok a) : Standing base tokens a := by
  refine run_induction (P := Standing base) hr .start ?_
  rintro taken t rest a b rfl h hp
  refine h.push (hopened.of_prefix ⟨rest, ?_⟩) hp
  rw [List.append_assoc, List.singleton_append]

/-- Balanced tokens come back to the level they started from, which they show. -/
theorem Standing.of_balanced {tokens : List Token} {a : Assembly} (h : Standing base tokens a)
    (hbalanced : Balanced tokens) : a.suspended = base ∧ Shows tokens a.current := by
  obtain ⟨hlevels, hlevel, hshows⟩ := h
  have hcount := hbalanced.count_eq
  rw [List.count_append, List.count_append, hlevels.count, hlevel.count_eq] at hcount
  cases hlevels with
  | nil => exact ⟨rfl, hshows⟩
  | cons =>
    rw [List.length_cons] at hcount
    omega

/-! ## Failures -/

/-- A token that cannot be taken, but closes no parenthesis too many, is an operand behind a bare
item, or ends one. -/
theorem Standing.crowded {tokens : List Token} {a : Assembly} {t : Token} {e : RuleError}
    (h : Standing [] tokens a) (hopened : ClosesOpened (tokens ++ [t]))
    (hp : a.push t = .error e) (rest : List Token) :
    Crowded (tokens ++ t :: rest) ∧ e.kind = .misplacedCondition := by
  obtain ⟨hlevels, hbalanced, hshows⟩ := h
  rename_i before level slot inner
  cases t with
  | opening => cases hp
  | closing =>
    cases hlevels with
    | nil => exact absurd hopened hbalanced.not_closesOpened_concat
    | @cons before' level' slot' inner' hlevels' _ hshows' =>
      cases hshows' with
      | absent => cases hp
      | operand text hb =>
        cases slot with
        | none => cases hp
        | some group =>
          cases hp
          have hsome := (hshows.exists_not_isParenthesis_iff hbalanced).2 (Option.some_ne_none _)
          exact ⟨⟨before', level', _, rest, by simp, hlevels'.last, hb, .group hbalanced hsome⟩,
            rfl⟩
      | operator op left right => cases left <;> cases hp
  | keyword op => cases hp
  | condition text =>
    cases hshows with
    | absent => cases hp
    | operand old hb =>
      cases hp
      exact ⟨⟨before, level, _, rest, by simp, hlevels.last, hb, .condition text⟩, rfl⟩
    | operator => cases hp

/-- Where a level has begun there is nothing yet. -/
theorem current_of_run {tokens : List Token} {a : Assembly}
    (hr : tokens.foldlM push empty = .ok a) (hlast : ∀ last ∈ tokens.getLast?, last = .opening) :
    a.current = none := by
  rcases List.eq_nil_or_concat tokens with rfl | ⟨tokens, t, rfl⟩
  · cases hr
    rfl
  · rw [List.concat_eq_append] at hr hlast
    rw [hlast t List.getLast?_concat, List.foldlM_append] at hr
    obtain ⟨b, -, hr⟩ := bind_eq_ok hr
    cases hr
    rfl

theorem run_operand_ne_ok {operand : List Token} (h : Operand operand) (text : String)
    (a : Assembly) : operand.foldlM push ⟨some (.leaf text), base⟩ ≠ .ok a := by
  intro hr
  cases h with
  | condition => cases hr
  | @group content hbalanced hsome =>
    rw [run_opening, List.foldlM_append] at hr
    obtain ⟨b, hcontent, hr⟩ := bind_eq_ok hr
    obtain ⟨hbase, hshows⟩ :=
      (Standing.run hbalanced.closesOpened hcontent).of_balanced hbalanced
    obtain ⟨slot, outer⟩ := b
    obtain rfl : outer = some (.leaf text) :: base := hbase
    cases slot with
    | none => exact (hshows.exists_not_isParenthesis_iff hbalanced).1 hsome rfl
    | some group => cases hr

/-- Tokens that can all be taken are not crowded. -/
theorem not_crowded_of_run {tokens : List Token} {a : Assembly}
    (hr : tokens.foldlM push empty = .ok a) : ¬Crowded tokens := by
  rintro ⟨outer, level, operand, after, rfl, hlast, hbare, hoperand⟩
  rw [List.foldlM_append] at hr
  obtain ⟨⟨slot, base⟩, houter, hr⟩ := bind_eq_ok hr
  obtain rfl : slot = none := current_of_run houter hlast
  rw [List.foldlM_append] at hr
  obtain ⟨⟨slot, base'⟩, hlevel, hr⟩ := bind_eq_ok hr
  obtain ⟨hbase, hshows⟩ :=
    (Standing.run hbare.balanced.closesOpened hlevel).of_balanced hbare.balanced
  obtain ⟨text, hslot⟩ := hshows.eq_leaf hbare
  rw [List.foldlM_append] at hr
  obtain ⟨b, hr, -⟩ := bind_eq_ok hr
  dsimp only at hslot
  rw [hslot] at hr
  exact run_operand_ne_ok hoperand text b hr

theorem length_suspended_of_run {tokens : List Token} {a : Assembly}
    (hr : tokens.foldlM push empty = .ok a) :
    tokens.count .opening = tokens.count .closing + a.suspended.length := by
  refine run_induction
    (P := fun ts a => ts.count .opening = ts.count .closing + a.suspended.length) hr rfl ?_
  rintro taken t rest ⟨slot, outer⟩ b - htaken hp
  rw [List.count_append, List.count_append]
  dsimp only at htaken
  cases t with
  | opening =>
    cases hp
    rw [List.count_singleton_self, List.count_singleton, if_neg (by decide), htaken]
    rfl
  | closing =>
    rcases outer with _ | ⟨parent, outer⟩
    · cases hp
    have hb : b.suspended = outer := by
      cases parent with
      | none =>
        cases hp
        rfl
      | some tree =>
        obtain ⟨t, -, ⟨⟩⟩ := bind_eq_ok hp
        rfl
    rw [List.count_singleton_self, List.count_singleton, if_neg (by decide), htaken, hb,
      List.length_cons]
    omega
  | keyword op =>
    cases hp
    simpa using htaken
  | condition text =>
    obtain ⟨t, -, ⟨⟩⟩ := bind_eq_ok hp
    simpa using htaken

theorem closesOpened_of_run {tokens : List Token} {a : Assembly}
    (hr : tokens.foldlM push empty = .ok a) : ClosesOpened tokens := by
  rintro front ⟨rest, rfl⟩
  rw [List.foldlM_append] at hr
  obtain ⟨b, hfront, -⟩ := bind_eq_ok hr
  have := length_suspended_of_run hfront
  omega

end Assembly

/-! ## Outcomes -/

open Token Assembly

/-- Balanced tokens are crowded, or hold nothing but parentheses, or have a tree. -/
theorem Token.Balanced.ofTokens_cases {tokens : List Token} (h : Balanced tokens) :
    (Crowded tokens ∧ ∃ e, Tree.ofTokens tokens = .error e ∧ e.kind = .misplacedCondition) ∨
    (¬Crowded tokens ∧ Hollow tokens ∧ Tree.ofTokens tokens = .error .emptyRule) ∨
    (¬Crowded tokens ∧ (∃ t ∈ tokens, t.isParenthesis = false) ∧
      ∃ tree, Tree.ofTokens tokens = .ok tree) := by
  rcases hr : tokens.foldlM push empty with e | ⟨slot, outer⟩
  · have hfails : Tree.ofTokens tokens = .error e := by
      rw [Tree.ofTokens, hr]
      rfl
    obtain ⟨taken, t, rest, b, rfl, htaken, hp⟩ := exists_push_error hr
    have hopened : ClosesOpened (taken ++ [t]) := h.closesOpened.of_prefix ⟨rest, by simp⟩
    have hstanding : Standing [] taken b :=
      Standing.run (hopened.of_prefix (List.prefix_append _ _)) htaken
    obtain ⟨hcrowded, hkind⟩ := hstanding.crowded hopened hp rest
    exact .inl ⟨hcrowded, e, hfails, hkind⟩
  · have hcrowded := not_crowded_of_run hr
    obtain ⟨rfl, hshows⟩ := (Standing.run h.closesOpened hr).of_balanced h
    have hfinish : Tree.ofTokens tokens = finish ⟨slot, []⟩ := by
      rw [Tree.ofTokens, hr]
      rfl
    have hsome := hshows.exists_not_isParenthesis_iff h
    cases slot with
    | none =>
      cases hshows with
      | absent hh => exact .inr (.inl ⟨hcrowded, hh, hfinish⟩)
    | some tree => exact .inr (.inr ⟨hcrowded, hsome.2 (Option.some_ne_none _), tree, hfinish⟩)

/-- Tokens whose parentheses are not balanced do not fit together. -/
theorem Token.misfit_of_not_balanced {tokens : List Token} (h : ¬Balanced tokens) :
    ∃ e, Tree.ofTokens tokens = .error e ∧ Misfit e := by
  rcases hr : tokens.foldlM push empty with e | ⟨slot, outer⟩
  · refine ⟨e, ?_, misfit_of_run hr⟩
    rw [Tree.ofTokens, hr]
    rfl
  · refine ⟨.unbalancedParentheses, ?_, .inl rfl⟩
    rw [Tree.ofTokens, hr]
    cases outer with
    | nil => exact absurd ⟨closesOpened_of_run hr, (length_suspended_of_run hr).symm⟩ h
    | cons => cases slot <;> rfl

/-- What becomes of tokens, up to the details of errors. If the parentheses are not balanced they do
not fit together. If they are, that is never for a parenthesis without a partner: there is nothing
in tokens that are all parentheses, a condition or a group is misplaced in crowded tokens, and all
other tokens have a tree. -/
theorem Tree.classify_ofTokens (tokens : List Token) :
    (¬Balanced tokens →
      classify (ofTokens tokens) = .error .unbalancedParentheses ∨
        classify (ofTokens tokens) = .error .misplacedCondition) ∧
    (Balanced tokens →
      classify (ofTokens tokens) ≠ .error .unbalancedParentheses ∧
      (classify (ofTokens tokens) = .error .emptyRule ↔ ∀ t ∈ tokens, t.isParenthesis = true) ∧
      (classify (ofTokens tokens) = .error .misplacedCondition ↔ Crowded tokens) ∧
      ((∃ t ∈ tokens, t.isParenthesis = false) → ¬Crowded tokens →
        ∃ tree, ofTokens tokens = .ok tree)) := by
  refine ⟨fun h => ?_, fun h => ?_⟩
  · obtain ⟨e, he, hkind⟩ := misfit_of_not_balanced h
    rw [he, classify_error]
    exact hkind.imp (congrArg Except.error) (congrArg Except.error)
  rcases h.ofTokens_cases with ⟨hcrowded, e, he, hkind⟩ | ⟨hcrowded, hhollow, he⟩ |
    ⟨hcrowded, ⟨t, ht, hsolid⟩, tree, htree⟩
  · obtain ⟨t, ht, hsolid⟩ := hcrowded.exists_not_isParenthesis
    rw [he, classify_error, hkind]
    refine ⟨nofun, ⟨nofun, fun hall => ?_⟩, ⟨fun _ => hcrowded, fun _ => rfl⟩,
      fun _ hnot => absurd hcrowded hnot⟩
    rw [hall t ht] at hsolid
    cases hsolid
  · rw [he, classify_error]
    refine ⟨nofun, ⟨fun _ => hhollow.isParenthesis, fun _ => rfl⟩,
      ⟨nofun, fun h => absurd h hcrowded⟩, fun ⟨t, ht, hsolid⟩ _ => ?_⟩
    rw [hhollow.isParenthesis t ht] at hsolid
    cases hsolid
  · rw [htree, classify_ok]
    refine ⟨nofun, ⟨nofun, fun hall => ?_⟩, ⟨nofun, fun h => absurd h hcrowded⟩,
      fun _ _ => ⟨tree, rfl⟩⟩
    rw [hall t ht] at hsolid
    cases hsolid

/-- A group behind a condition in parentheses is misplaced, also if an empty group stands between
them; it may follow a group with a keyword. Where a parenthesis is missing, that is not noticed
before a misplaced condition. -/
theorem Tree.classify_ofTokens_groups :
    let crowded : List Token := [.opening, .opening, .condition "a", .closing, .closing, .opening,
      .closing, .opening, .condition "b", .closing]
    let unclosed : List Token := [.opening, .condition "a", .condition "b"]
    let keyword : List Token := [.opening, .keyword .and, .closing, .opening, .condition "b",
      .closing]
    (Balanced crowded ∧ classify (ofTokens crowded) = .error .misplacedCondition ∧
        Crowded crowded) ∧
      (¬Balanced unclosed ∧ classify (ofTokens unclosed) = .error .misplacedCondition) ∧
      (Balanced keyword ∧ ¬Crowded keyword ∧ ∃ tree, ofTokens keyword = .ok tree) := by
  intro crowded unclosed keyword
  have hcrowded : Balanced crowded := by decide
  have hunclosed : ¬Balanced unclosed := by decide
  have hkeyword : Balanced keyword := by decide
  have htree : classify (ofTokens keyword) ≠ .error .misplacedCondition := nofun
  obtain ⟨-, -, hmisplaced, -⟩ := (classify_ofTokens crowded).2 hcrowded
  obtain ⟨-, -, hmisplaced', hother⟩ := (classify_ofTokens keyword).2 hkeyword
  have hnot : ¬Crowded keyword := fun h => htree (hmisplaced'.2 h)
  refine ⟨⟨hcrowded, rfl, hmisplaced.1 rfl⟩, ⟨hunclosed, ?_⟩, hkeyword, hnot,
    hother ⟨.keyword .and, by simp [keyword], rfl⟩ hnot⟩
  exact ((classify_ofTokens unclosed).1 hunclosed).resolve_left nofun

end AttributeRules
