import Mathlib.Data.Finset.Card
import AttributeRules.Proofs.Meaning
import AttributeRules.Proofs.ParseCache.Session

/-!
# What a cache holds and reports

After any session that starts with the empty cache, the cache holds the trees
of the rules that have been read since the last request to forget them
(`ParseCache.ReadSinceClear`), and no others (`ParseCache.mem_trees_run`). That a
rule is found in the cache is reported, and no other event can be taken for it,
since an evaluation reports results only (`Tree.reports_meaning`).

Main statement: `ParseCache.accounting`.
-/

namespace AttributeRules

/-! ## Events of evaluations -/

namespace Traced

variable {α β : Type} {p : Event → Prop}

/-- All events are of this sort. -/
def Reports (p : Event → Prop) (x : Traced α) : Prop := ∀ e ∈ x.events, p e

theorem Reports.bind {x : Traced α} {f : α → Traced β} (hx : x.Reports p)
    (hf : ∀ a, (f a).Reports p) : (x >>= f).Reports p := by
  obtain ⟨_ | a, es⟩ := x
  · exact hx
  · exact List.forall_mem_append.2 ⟨hx, hf a⟩

theorem reports_pure (a : α) : (pure a : Traced α).Reports p := nofun

theorem reports_fail (e : RuleError) : (fail e : Traced α).Reports p := nofun

theorem reports_ofExcept (r : Except RuleError α) : (ofExcept r).Reports p := nofun

theorem reports_report {e : Event} (h : p e) : (report e).Reports p :=
  List.forall_mem_singleton.2 h

end Traced

namespace Tree

variable (leaf : String → Except RuleError Bool)

/-- What is left of a connective reports results, if its right operand does. -/
theorem reports_resume {op : Connective} {right : Option Tree}
    (h : (operandMeaning leaf op .right right).Reports (·.level = .debug)) (first : Bool) :
    (resume leaf op right first).Reports (·.level = .debug) := by
  refine .bind (Traced.reports_report rfl) fun _ => ?_
  split
  · exact Traced.reports_pure true
  · exact .bind h fun _ => .bind (Traced.reports_report rfl) fun _ => Traced.reports_pure _

/-- An evaluation reports results of conditions and connectives only. -/
theorem reports_meaning (t : Tree) : (meaning leaf t).Reports (·.level = .debug) := by
  have hoperand : ∀ (op : Connective) (side : Side) (operand : Option Tree),
      (∀ t ∈ operand, (meaning leaf t).Reports (·.level = .debug)) →
      (operandMeaning leaf op side operand).Reports (·.level = .debug) := by
    intro op side operand h
    cases operand with
    | none => exact Traced.reports_fail _
    | some t => exact h t rfl
  induction t with
  | leaf text =>
    exact .bind (Traced.reports_ofExcept _) fun _ => .bind (Traced.reports_report rfl) fun _ =>
      Traced.reports_pure _
  | join op left right ihl ihr =>
    rw [meaning_join]
    exact .bind (hoperand op .left left ihl) (reports_resume leaf (hoperand op .right right ihr))

theorem reports_ofRule (mode : CaseMode) (rule : String) :
    (ofRule mode rule).Reports fun e => ∃ n, e = .tokenized rule n := by
  have htokens : (Token.ofRule mode rule).Reports fun e => ∃ n, e = .tokenized rule n := by
    rw [Token.ofRule]
    split
    · exact Traced.reports_fail _
    · exact .bind (Traced.reports_report ⟨_, rfl⟩) fun _ => Traced.reports_pure _
  exact .bind htokens fun _ => Traced.reports_ofExcept _

end Tree

namespace ParseCache

/-- The rule that a request reads, and the mode in which it does. -/
def Request.key? : Request → Option (CaseMode × String)
  | parse mode rule => some (mode, rule)
  | check settings rule _ => some (settings.caseMode, rule)
  | clear => none

/-- The rule can be read in this mode. -/
def Readable (key : CaseMode × String) : Prop :=
  ∃ tree, (Tree.ofRule key.1 key.2).outcome = .ok tree

/-- The rule has been read in this mode, with a tree for its result, since all trees were forgotten
for the last time. -/
def ReadSinceClear (requests : List Request) (key : CaseMode × String) : Prop :=
  ∃ before request after, requests = before ++ request :: after ∧ request.key? = some key ∧
    Readable key ∧ .clear ∉ after

/-- What the next request makes of the rules that have been read. -/
theorem readSinceClear_concat {requests : List Request} {request : Request}
    {key : CaseMode × String} :
    ReadSinceClear (requests ++ [request]) key ↔
      (request.key? = some key ∧ Readable key) ∨
        (request ≠ .clear ∧ ReadSinceClear requests key) := by
  constructor
  · rintro ⟨before, earlier, after, hsplit, hkey, hread, hclear⟩
    rcases List.eq_nil_or_concat after with rfl | ⟨after, last, rfl⟩
    · obtain ⟨-, h⟩ := List.append_inj' hsplit rfl
      cases h
      exact .inl ⟨hkey, hread⟩
    · rw [List.concat_eq_append] at hsplit hclear
      rw [← List.cons_append, ← List.append_assoc] at hsplit
      obtain ⟨rfl, h⟩ := List.append_inj' hsplit rfl
      cases h
      obtain ⟨hafter, hlast⟩ := not_or.1 (List.mem_append.not.1 hclear)
      exact .inr ⟨fun h => hlast (h ▸ List.mem_cons_self), before, earlier, after, rfl, hkey, hread,
        hafter⟩
  · rintro (⟨hkey, hread⟩ | ⟨hrequest, before, earlier, after, rfl, hkey, hread, hclear⟩)
    · exact ⟨requests, request, [], rfl, hkey, hread, List.not_mem_nil⟩
    · refine ⟨before, earlier, after ++ [request], by simp, hkey, hread, fun hmem => ?_⟩
      rcases List.mem_append.1 hmem with hmem | hmem
      · exact hclear hmem
      · exact hrequest (List.mem_singleton.1 hmem).symm

/-! ## The rules in the cache -/

variable {c : ParseCache} {mode : CaseMode} {rule : String}

/-- What reading a rule can do: the rule is in the cache, or it is read without the cache, and kept
if it can be read. -/
theorem parse_cases (c : ParseCache) (mode : CaseMode) (rule : String) :
    ((mode, rule) ∈ c.trees ∧ ∃ tree, c.parse mode rule = (⟨.ok tree, [.cacheHit rule]⟩, c)) ∨
      ((mode, rule) ∉ c.trees ∧ ¬Readable (mode, rule) ∧
        c.parse mode rule = (Tree.ofRule mode rule, c)) ∨
      ((mode, rule) ∉ c.trees ∧ ∃ tree, (Tree.ofRule mode rule).outcome = .ok tree ∧
        c.parse mode rule = (Tree.ofRule mode rule, ⟨c.trees.insert (mode, rule) tree⟩)) := by
  by_cases hin : (mode, rule) ∈ c.trees
  · exact .inl ⟨hin, _, parse_hit (Std.HashMap.getElem?_eq_some_getElem hin)⟩
  have hnone := Std.HashMap.getElem?_eq_none hin
  rcases hr : (Tree.ofRule mode rule).outcome with e | tree
  · refine .inr (.inl ⟨hin, ?_, parse_failed hnone hr⟩)
    rintro ⟨tree, htree⟩
    rw [hr] at htree
    cases htree
  · exact .inr (.inr ⟨hin, tree, rfl, parse_kept hnone hr⟩)

theorem mem_trees_parse (key : CaseMode × String) :
    key ∈ (c.parse mode rule).2.trees ↔
      ((mode, rule) = key ∧ Readable key) ∨ key ∈ c.trees := by
  rcases c.parse_cases mode rule with ⟨hin, tree, hp⟩ | ⟨-, hunreadable, hp⟩ | ⟨-, tree, hr, hp⟩
  · rw [hp]
    refine ⟨.inr, fun h => h.elim ?_ id⟩
    rintro ⟨rfl, -⟩
    exact hin
  · rw [hp]
    refine ⟨.inr, fun h => h.resolve_left ?_⟩
    rintro ⟨rfl, hreadable⟩
    exact hunreadable hreadable
  · rw [hp, Std.HashMap.mem_insert, beq_iff_eq]
    have hreadable : (mode, rule) = key → Readable key := by
      rintro rfl
      exact ⟨tree, hr⟩
    exact or_congr_left ⟨fun h => ⟨h, hreadable h⟩, And.left⟩

theorem parse_unreadable (h : ¬Readable (mode, rule)) : (c.parse mode rule).2 = c := by
  rcases c.parse_cases mode rule with ⟨-, tree, hp⟩ | ⟨-, -, hp⟩ | ⟨-, tree, hr, -⟩
  · rw [hp]
  · rw [hp]
  · exact absurd ⟨tree, hr⟩ h

theorem serve_snd {request : Request} (h : request.key? = some (mode, rule)) :
    (c.serve request).2 = (c.parse mode rule).2 := by
  cases request <;> cases h <;> rfl

/-- A request adds the rule that it reads, or removes all. -/
theorem mem_trees_serve (request : Request) (key : CaseMode × String) :
    key ∈ (c.serve request).2.trees ↔
      (request.key? = some key ∧ Readable key) ∨ (request ≠ .clear ∧ key ∈ c.trees) := by
  rcases hkey : request.key? with _ | ⟨mode, rule⟩
  · cases request <;> cases hkey
    simp [serve, empty]
  · have hne : request ≠ .clear := by
      rintro rfl
      cases hkey
    rw [serve_snd hkey, mem_trees_parse, Option.some_inj, and_iff_right hne]

theorem run_concat (requests : List Request) (request : Request) :
    c.run (requests ++ [request]) =
      ((c.run requests).1 ++ [((c.run requests).2.serve request).1],
        ((c.run requests).2.serve request).2) := by
  induction requests generalizing c with
  | nil => rfl
  | cons first requests ih => simp only [List.cons_append, run, ih]

/-- After a session that starts without any tree, the cache holds the rules that have been read
since the last request to forget them. -/
theorem mem_trees_run (requests : List Request) (key : CaseMode × String) :
    key ∈ (empty.run requests).2.trees ↔ ReadSinceClear requests key := by
  induction requests using List.reverseRecOn with
  | nil => simp [run, empty, ReadSinceClear]
  | append_singleton requests request ih =>
    rw [run_concat, mem_trees_serve, ih, readSinceClear_concat]

theorem size_eq_card (c : ParseCache) : c.size = c.trees.keys.toFinset.card := by
  rw [List.toFinset_card_of_nodup Std.HashMap.nodup_keys, Std.HashMap.length_keys, size]

/-! ## Events -/

/-- A request that reads a rule reports what reading the rule does, and results. -/
theorem mem_events_serve {request : Request} (h : request.key? = some (mode, rule)) {e : Event}
    (he : e.level ≠ .debug) :
    e ∈ (c.serve request).1.events ↔ e ∈ (c.parse mode rule).1.events := by
  cases request with
  | parse mode rule =>
    cases h
    rfl
  | check settings rule record =>
    cases h
    change e ∈ ((c.parse settings.caseMode rule).1 >>= (settings.evaluate · record)).events ↔ _
    rcases (c.parse settings.caseMode rule).1 with ⟨_ | tree, es⟩
    · rfl
    · have hresults : e ∉ (settings.evaluate tree record).events := by
        rw [Settings.evaluate_eq_meaning]
        exact fun hmem => he (Tree.reports_meaning _ tree e hmem)
      rw [Traced.ok_bind, List.mem_append, or_iff_left hresults]
  | clear => cases h

/-- Reading a rule reports that it is in the cache if it is there, and else nothing but its
tokens. -/
theorem mem_events_parse {e : Event} (h : e ∈ (c.parse mode rule).1.events) :
    ((mode, rule) ∈ c.trees ∧ e = .cacheHit rule) ∨
      ((mode, rule) ∉ c.trees ∧ ∃ n, e = .tokenized rule n) := by
  rcases c.parse_cases mode rule with ⟨hin, tree, hp⟩ | ⟨hout, -, hp⟩ | ⟨hout, tree, -, hp⟩
  · rw [hp] at h
    exact .inl ⟨hin, List.mem_singleton.1 h⟩
  · rw [hp] at h
    exact .inr ⟨hout, Tree.reports_ofRule mode rule e h⟩
  · rw [hp] at h
    exact .inr ⟨hout, Tree.reports_ofRule mode rule e h⟩

/-- A request that reads a rule reports that the rule is in the cache if and only if it is, and then
no tokens. -/
theorem cacheHit_mem_events_serve {request : Request} (h : request.key? = some (mode, rule)) :
    (∀ text, .cacheHit text ∈ (c.serve request).1.events ↔
      text = rule ∧ (mode, rule) ∈ c.trees) ∧
    ((mode, rule) ∈ c.trees → ∀ text n, .tokenized text n ∉ (c.serve request).1.events) := by
  constructor
  · intro text
    rw [mem_events_serve h (by simp [Event.level])]
    constructor
    · intro hmem
      rcases mem_events_parse hmem with ⟨hin, he⟩ | ⟨-, n, he⟩
      · cases he
        exact ⟨rfl, hin⟩
      · cases he
    · rintro ⟨rfl, hin⟩
      rw [parse_hit (Std.HashMap.getElem?_eq_some_getElem hin)]
      exact List.mem_cons_self
  · intro hin text n hmem
    rw [mem_events_serve h (by simp [Event.level])] at hmem
    rcases mem_events_parse hmem with ⟨-, he⟩ | ⟨hout, -⟩
    · cases he
    · exact hout hin

/-- A request for a rule that can be read leaves its tree in a sound cache. -/
theorem Sound.getElem?_serve (hc : c.Sound) {request : Request}
    (h : request.key? = some (mode, rule)) {tree : Tree}
    (hr : (Tree.ofRule mode rule).outcome = .ok tree) :
    (c.serve request).2.trees[(mode, rule)]? = some tree := by
  have hmem : (mode, rule) ∈ (c.serve request).2.trees :=
    (mem_trees_serve request _).2 (.inl ⟨h, tree, hr⟩)
  have htree := Std.HashMap.getElem?_eq_some_getElem hmem
  have hsame := serve_sound hc request mode rule _ htree
  rw [hr] at hsame
  rw [htree, Except.ok.inj hsame]

/-- After a session that starts without any tree, the cache has as many trees as rules have been
read since the last request to forget them, each counted once in each mode. A further request for a
rule leaves the cache as it is if the rule cannot be read, and else leaves the tree of the rule in
it, whether or not that can be evaluated. It reports that the rule is in the cache, and then no
tokens, if and only if it is one of those that have been read. -/
theorem accounting (requests : List Request) :
    (∃ keys : Finset (CaseMode × String), (∀ key, key ∈ keys ↔ ReadSinceClear requests key) ∧
      (empty.run requests).2.size = keys.card) ∧
    ∀ request mode rule, request.key? = some (mode, rule) →
      ∃ reply after, empty.run (requests ++ [request]) =
          ((empty.run requests).1 ++ [reply], after) ∧
        (¬Readable (mode, rule) → after = (empty.run requests).2) ∧
        (∀ tree, (Tree.ofRule mode rule).outcome = .ok tree →
          after.trees[(mode, rule)]? = some tree) ∧
        (∀ text, .cacheHit text ∈ reply.events ↔
          text = rule ∧ ReadSinceClear requests (mode, rule)) ∧
        (ReadSinceClear requests (mode, rule) → ∀ text n, .tokenized text n ∉ reply.events) := by
  constructor
  · refine ⟨_, fun key => ?_, size_eq_card _⟩
    rw [List.mem_toFinset, Std.HashMap.mem_keys, mem_trees_run]
  · intro request mode rule hkey
    have hsound : (empty.run requests).2.Sound := (sound_empty.run requests).2
    obtain ⟨hhit, htokens⟩ := cacheHit_mem_events_serve (c := (empty.run requests).2) hkey
    simp only [mem_trees_run] at hhit htokens
    refine ⟨_, _, run_concat requests request, fun hread => ?_,
      fun tree hr => hsound.getElem?_serve hkey hr, hhit, htokens⟩
    rw [serve_snd hkey, parse_unreadable hread]

/-- A rule is kept though its evaluation fails; it was read after the others were forgotten. -/
theorem accounting_unevaluable :
    let check : Request := .check ⟨.standard, .verbatim⟩ "title == 1" .empty
    let requests : List Request := [.parse .verbatim "age > 30", .clear, .parse .verbatim "(age",
      check, .parse .foldContext "title == 1"]
    check.key? = some (.verbatim, "title == 1") ∧
      ReadSinceClear requests (.verbatim, "title == 1") ∧
      ∃ reply after, empty.run (requests ++ [check]) = ((empty.run requests).1 ++ [reply], after) ∧
        .cacheHit "title == 1" ∈ reply.events ∧ ∀ text n, .tokenized text n ∉ reply.events := by
  intro check requests
  have hread : ReadSinceClear requests (.verbatim, "title == 1") :=
    ⟨[.parse .verbatim "age > 30", .clear, .parse .verbatim "(age"], check,
      [.parse .foldContext "title == 1"], rfl, rfl, ⟨.leaf "title == 1", by decide +kernel⟩,
      by simp⟩
  obtain ⟨reply, after, hrun, -, -, hhit, htokens⟩ :=
    (accounting requests).2 check .verbatim "title == 1" rfl
  exact ⟨rfl, hread, reply, after, hrun, (hhit _).2 ⟨rfl, hread⟩, htokens hread⟩

end ParseCache

end AttributeRules
