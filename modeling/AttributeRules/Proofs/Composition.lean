import AttributeRules.Proofs.Assembly.Grammar
import AttributeRules.Proofs.Combination
import AttributeRules.Proofs.Token.ConditionText

/-!
# Rules made of rules

Rules in parentheses, with keywords between them, make a rule (`chainText`). Its
tokens are those of its parts, and each part is assembled as if it stood alone,
be its tree complete or not (`Tree.ofRule_group`, `Tree.ofRule_link`). So its
tree is the chain of the trees of its parts (`Tree.ofRule_chainText`).
-/

namespace AttributeRules

/-- A keyword, as it is written, and the rule behind it. -/
structure Link where
  /-- What the keyword means. -/
  op : Connective
  /-- The keyword, in any letter case. -/
  keyword : String
  /-- The rule that stands behind it in parentheses. -/
  rule : String
  /-- The keyword is that of the connective. -/
  spells : op.Spells keyword.toList

/-- The text with a keyword and a rule in parentheses behind it. -/
def Link.append (text : String) (link : Link) : String :=
  text ++ " " ++ link.keyword ++ " (" ++ link.rule ++ ")"

/-- A rule of rules in parentheses, with keywords between them: `(a) or (b) AND (c)`. -/
def chainText (first : String) (links : List Link) : String :=
  links.foldl Link.append ("(" ++ first ++ ")")

namespace Token

variable {mode : CaseMode}

theorem scan_group (s : List Char) :
    scan mode ('(' :: (s ++ [')'])) = .opening :: (scan mode s ++ [.closing]) := by
  rw [← List.nil_append ('(' :: _), scan_opening, scan_closing, scan_nil, List.nil_append]

theorem scan_link (text : String) (link : Link) :
    scan mode (link.append text).toList =
      scan mode text.toList ++
        .keyword link.op :: .opening :: (scan mode link.rule.toList ++ [.closing]) := by
  have hblank : Text.isBlank ' ' = true := by decide
  have hlist : (link.append text).toList =
      text.toList ++ ' ' :: (link.keyword.toList ++ ' ' :: '(' :: (link.rule.toList ++ [')'])) := by
    simp [Link.append]
  rw [hlist, scan_keyword _ hblank link.spells (by rfl), scan_cons_blank hblank, scan_group]

end Token

namespace Tree

variable {mode : CaseMode} {rule : String} {t : Tree}

theorem ofRule_group (h : (ofRule mode rule).outcome = .ok t) :
    (ofRule mode ("(" ++ rule ++ ")")).outcome = .ok t := by
  have hlist : ("(" ++ rule ++ ")").toList = '(' :: (rule.toList ++ [')']) := by simp
  rw [outcome_ofRule_eq] at h
  rw [outcome_ofRule_eq, hlist, Token.scan_group, ofTokens_eq_ok, Assembly.empty,
    Assembly.run_group h]
  rfl

/-- A keyword and a rule in parentheses behind a rule join its tree with that of the rule. -/
theorem ofRule_link {link : Link} {next : Tree} (h : (ofRule mode rule).outcome = .ok t)
    (hnext : (ofRule mode link.rule).outcome = .ok next) :
    (ofRule mode (link.append rule)).outcome = .ok (.join link.op (some t) (some next)) := by
  rw [outcome_ofRule_eq] at h hnext
  rw [outcome_ofRule_eq, Token.scan_link, ofTokens_eq_ok, List.foldlM_append, ofTokens_eq_ok.1 h]
  change (.keyword link.op :: .opening :: _ : List Token).foldlM Assembly.push ⟨some t, []⟩ = _
  rw [Assembly.run_keyword, Assembly.run_group hnext]
  rfl

/-- A rule with further rules behind it, each in parentheses after its keyword. -/
theorem ofRule_links {tree : String → Tree} {links : List Link}
    (hlinks : ∀ link ∈ links, (ofRule mode link.rule).outcome = .ok (tree link.rule))
    (h : (ofRule mode rule).outcome = .ok t) :
    (ofRule mode (links.foldl Link.append rule)).outcome =
      .ok (joinChain t (links.map fun link => (link.op, tree link.rule))) := by
  induction links generalizing rule t with
  | nil => exact h
  | cons link links ih =>
    have hlink := ofRule_link h (hlinks link List.mem_cons_self)
    exact ih (fun l hl => hlinks l (List.mem_cons_of_mem link hl)) hlink

/-- Rules that are read as these trees, in parentheses and with keywords between them, are read as
the chain of the trees from left to right. If all the keywords are `or`, they are combined to the
same tree. A single rule in parentheses is read as the rule. -/
theorem ofRule_chainText (mode : CaseMode) (tree : String → Tree) (first : String)
    (links : List Link)
    (hread : ∀ rule ∈ first :: links.map Link.rule, (ofRule mode rule).outcome = .ok (tree rule)) :
    (ofRule mode (chainText first links)).outcome =
        .ok (joinChain (tree first) (links.map fun link => (link.op, tree link.rule))) ∧
      ((∀ link ∈ links, link.op = .or) → ∀ s : Settings, s.caseMode = mode →
        (s.combine (first :: links.map Link.rule)).outcome =
          (ofRule mode (chainText first links)).outcome.map some) ∧
      (ofRule mode ("(" ++ first ++ ")")).outcome = (ofRule mode first).outcome := by
  have hfirst := hread first List.mem_cons_self
  have hgroup := ofRule_group hfirst
  have hlinks : ∀ link ∈ links, (ofRule mode link.rule).outcome = .ok (tree link.rule) :=
    fun link hlink => hread link.rule (List.mem_cons_of_mem first (List.mem_map_of_mem hlink))
  have hchain := ofRule_links hlinks hgroup
  refine ⟨hchain, fun hor s hmode => ?_, hgroup.trans hfirst.symm⟩
  subst hmode
  have hcombined := outcome_combine (fun rule => pure (s.parse rule)) hread
  rw [List.map_map] at hcombined
  refine hcombined.trans ?_
  rw [chainText, hchain]
  refine congrArg (fun steps => Except.ok (some (joinChain (tree first) steps))) ?_
  refine List.map_congr_left fun link hlink => ?_
  rw [hor link hlink]
  rfl

/-- Odd rules in parentheses: one with a dangling keyword, one that is a keyword, and one with an
empty group. -/
theorem ofRule_chainText_odd :
    let dangling := join .and (some (leaf "age > 1")) none
    let keyword := join .or none none
    let tree := fun rule =>
      if rule = "Age > 1 and" then dangling else if rule = "or" then keyword else leaf "x"
    (∀ rule ∈ ["Age > 1 and", "or", "x ()"], (ofRule .verbatim rule).outcome = .ok (tree rule)) ∧
      (ofRule .verbatim "(Age > 1 and) aNd (or) OR (x ())").outcome =
        .ok (join .or (some (join .and (some dangling) (some keyword))) (some (leaf "x"))) ∧
      (Settings.combine {} ["Age > 1 and", "or", "x ()"]).outcome =
        (ofRule .verbatim "(Age > 1 and) oR (or) or (x ())").outcome.map some ∧
      (ofRule .verbatim "(Age > 1 and)").outcome = (ofRule .verbatim "Age > 1 and").outcome := by
  intro dangling keyword tree
  have hread : ∀ rule ∈ ["Age > 1 and", "or", "x ()"],
      (ofRule .verbatim rule).outcome = .ok (tree rule) := by decide +kernel
  have hmixed := ofRule_chainText .verbatim tree "Age > 1 and"
    [⟨.and, "aNd", "or", by decide⟩, ⟨.or, "OR", "x ()", by decide⟩] hread
  have hor := ofRule_chainText .verbatim tree "Age > 1 and"
    [⟨.or, "oR", "or", by decide⟩, ⟨.or, "or", "x ()", by decide⟩] hread
  exact ⟨hread, hmixed.1, hor.2.1 (by simp) {} rfl, hmixed.2.2⟩

end Tree

end AttributeRules
