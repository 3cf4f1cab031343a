import AttributeRules.Proofs.Assembly.LeftEnd
import AttributeRules.Proofs.Condition.Separator

/-!
# Rules that are one condition

Rules are cut without regard to quotes, so that a condition may be cut apart at
the separators in its literal. Then the first part has lost the quote that
closes the literal, and is no condition (`Writing.exists_scan_eq`); it stays at
the left end of the tree, if the parts have one, and the evaluation comes to it
before anything else (`Settings.outcome_check_of_first`).

Main statement: `Settings.check_condition`.
-/

namespace AttributeRules

open Text Token

variable {text : String} {c : Condition}

namespace Condition

/-- The text of a condition on an attribute that is no keyword. -/
theorem exists_writing_of_field (h : parse text = .ok c) (hand : c.field ≠ "and")
    (hor : c.field ≠ "or") :
    ∃ w : Writing text.toList, (∀ op : Connective, ¬op.Spells w.word) ∧
      meaning? c.comparison w.spelling = some c.literal := by
  obtain ⟨w, hfield, hcomparison, hliteral⟩ := exists_writing_of_parse h
  exact ⟨w, not_spells_of_lowercase (hfield ▸ hand) (hfield ▸ hor), hcomparison ▸ hliteral⟩

theorem Writing.exists_not_blank {s : List Char} (w : Writing s) : ∃ c ∈ s, isBlank c = false := by
  obtain ⟨c, word, hword⟩ := List.exists_cons_of_ne_nil w.word_ne_nil
  have hc := w.isWord_of_mem c (hword ▸ List.mem_cons_self)
  refine ⟨c, ?_, ?_⟩
  · rw [w.eq_append, hword]
    exact List.mem_cons_self
  · exact isBlank_of_isWord hc

/-- Separators of a condition stand between the quotes of its literal. -/
theorem Writing.exists_quoted_separator {s : List Char} (w : Writing s)
    (hk : ∀ op : Connective, ¬op.Spells w.word) (h : HasSeparator s) :
    ∃ before q content rest, s = before ++ q :: (content ++ q :: rest) ∧ isQuote q = true ∧
      q ∉ content ∧ w.spelling = .quoted content ∧ ¬HasSeparator before ∧ HasSeparator content ∧
      ¬HasSeparator rest := by
  obtain ⟨q, content, u, t, after, hquoted, hcut, -⟩ := w.cut_eq hk h
  refine ⟨w.lead, q, content, w.rest, ?_, hquoted.isQuote, hquoted.not_mem, hquoted.spelling_eq,
    w.not_hasSeparator_lead hk, ?_, w.not_hasSeparator_rest⟩
  · simpa [hquoted.literal_eq] using w.eq_lead_append
  · by_contra hnone
    rw [← cut_eq_none_iff, hcut] at hnone
    cases hnone

/-- What stands before a literal is no condition together with a part of the literal that has its
opening quote only. -/
theorem Writing.parse_of_unclosed {s u : List Char} {q : Char} (w : Writing s)
    (hq : isQuote q = true) (hfree : q ∉ u) (mode : CaseMode) :
    ∃ cause, parse (mode.conditionText (String.ofList (w.lead ++ q :: u))) =
      .error (.invalidCondition cause) := by
  have hquotes : quotes (mode.conditionText (String.ofList (w.lead ++ q :: u))).toList =
      q :: quotes u := by
    rw [quotes_conditionText, String.toList_ofList, quotes_append, w.quotes_lead, quotes,
      List.filter_cons_of_pos hq]
    rfl
  exact ⟨_, Condition.parse_of_unclosed hquotes fun hmem => hfree (List.mem_filter.1 hmem).1⟩

/-- A condition with separators begins with a token that is no condition. -/
theorem Writing.exists_scan_eq {s : List Char} (w : Writing s)
    (hk : ∀ op : Connective, ¬op.Spells w.word) (h : HasSeparator s) (mode : CaseMode) :
    ∃ front tokens cause, scan mode s = .condition front :: tokens ∧
      parse front = .error (.invalidCondition cause) := by
  obtain ⟨q, content, u, t, after, hquoted, hcontent, hcut⟩ := w.cut_eq hk h
  obtain ⟨sep, hsplit, -⟩ := cut_eq_some hcontent
  -- The quote that opens the literal stands before the cut, and the one that closes it behind.
  have hfree : q ∉ u := fun hmem => hquoted.not_mem (hsplit ▸ List.mem_append_left sep hmem)
  obtain ⟨cause, hparse⟩ := w.parse_of_unclosed hquoted.isQuote hfree mode
  have hmem : q ∈ w.lead ++ q :: u := List.mem_append_right _ List.mem_cons_self
  refine ⟨_, t :: scan mode (after ++ q :: w.rest), cause, ?_, hparse⟩
  rw [scan_of_some hcut, ofText_eq hmem (isBlank_of_isQuote hquoted.isQuote)]
  rfl

end Condition

namespace Settings

variable (s : Settings)

/-- A rule without separators has the result of its only condition. -/
theorem outcome_check_of_uncut (huncut : ¬HasSeparator text.toList)
    (hblank : ∃ c ∈ text.toList, isBlank c = false) (record : Record) :
    (s.check text record).outcome =
      s.evaluateCondition record (s.caseMode.conditionText text) := by
  obtain ⟨c, hmem, hc⟩ := hblank
  have htokens : scan s.caseMode text.toList =
      [.condition (s.caseMode.conditionText text)] := by
    rw [scan_of_none (cut_eq_none_iff.2 huncut), ofText_eq hmem hc, String.ofList_toList]
  have hparse : (s.parse text).outcome = .ok (.leaf (s.caseMode.conditionText text)) := by
    rw [parse, Tree.outcome_ofRule_eq, htokens]
    rfl
  rw [outcome_check hparse, outcome_evaluate, Tree.outcome_meaning_leaf]

/-- A rule whose first token is no condition is an error: the parts do not fit together, or the
evaluation comes to that token. -/
theorem outcome_check_of_first {front : String} {tokens : List Token} {cause : ConditionFault}
    (hscan : scan s.caseMode text.toList = .condition front :: tokens)
    (hfront : Condition.parse front = .error (.invalidCondition cause)) (record : Record) :
    ∃ e, (s.check text record).outcome = .error e ∧
      (e.kind = .unbalancedParentheses ∨ e.kind = .misplacedCondition ∨
        e.kind = .invalidCondition) := by
  have hread : (s.parse text).outcome = Tree.ofTokens (.condition front :: tokens) := by
    rw [parse, Tree.outcome_ofRule_eq, hscan]
  rcases Tree.ofTokens_condition front tokens with ⟨t, ht, hleft⟩ | ⟨e, he, hmisfit⟩
  · have hfails := s.evaluateCondition_of_error hfront record
    refine ⟨.invalidCondition cause, ?_, .inr (.inr rfl)⟩
    rw [outcome_check (hread.trans ht), outcome_evaluate]
    exact (hleft.reaches _).outcome_eq_error hfails
  · refine ⟨e, outcome_check_of_error (hread.trans he) record, ?_⟩
    exact hmisfit.imp_right .inl

/-- A rule that is a condition, on an attribute other than `and` and `or`, is read as that condition
if there are no separators in it: trimmed, and lowercased unless literals are preserved. Separators
stand between the quotes of its literal only; the rule is then an error, whatever the record has. So
a result is always that of the condition. -/
theorem check_condition (record : Record) (h : Condition.parse text = .ok c)
    (hand : c.field ≠ "and") (hor : c.field ≠ "or") :
    let trimmed := String.ofList (trim text.toList)
    let kept := if s.caseMode = .preserveLiterals then trimmed else lowercase trimmed
    (¬HasSeparator text.toList →
        (s.check text record).outcome = s.evaluateCondition record kept) ∧
      (HasSeparator text.toList →
        (∃ before q content rest, text.toList = before ++ q :: (content ++ q :: rest) ∧
          isQuote q = true ∧ q ∉ content ∧
          Condition.meaning? c.comparison (.quoted content) = some c.literal ∧
          ¬HasSeparator before ∧ HasSeparator content ∧ ¬HasSeparator rest) ∧
        ∃ e, (s.check text record).outcome = .error e ∧
          (e.kind = .unbalancedParentheses ∨ e.kind = .misplacedCondition ∨
            e.kind = .invalidCondition)) ∧
      (∀ answer, (s.check text record).outcome = .ok answer →
        s.evaluateCondition record kept = .ok answer) := by
  intro trimmed kept
  have hkept : s.caseMode.conditionText text = kept := s.caseMode.conditionText_eq text
  rw [← hkept]
  obtain ⟨w, hk, hmeaning⟩ := Condition.exists_writing_of_field h hand hor
  have huncut := fun hnone => s.outcome_check_of_uncut hnone w.exists_not_blank record
  have hcut := fun hsep =>
    have ⟨_, _, _, hscan, hfront⟩ := w.exists_scan_eq hk hsep s.caseMode
    s.outcome_check_of_first hscan hfront record
  refine ⟨huncut, fun hsep => ⟨?_, hcut hsep⟩, fun answer hanswer => ?_⟩
  · obtain ⟨before, q, content, rest, htext, hq, hfree, hquoted, hsides⟩ :=
      w.exists_quoted_separator hk hsep
    exact ⟨before, q, content, rest, htext, hq, hfree, hquoted ▸ hmeaning, hsides⟩
  · have hnone : ¬HasSeparator text.toList := by
      intro hsep
      obtain ⟨e, he, -⟩ := hcut hsep
      rw [hanswer] at he
      cases he
    exact (huncut hnone).symm.trans hanswer

/-- A keyword between the quotes makes the rule an error, though the record has exactly that
department; the letters of a keyword within a word do not. The department `Brand` is another one
than `brand`, which is what the rule asks for unless literals are preserved. -/
theorem check_condition_department :
    let s (mode : CaseMode) : Settings := ⟨.ofList ["department"], mode⟩
    let record (department : String) := Record.empty.set "department" (.str department)
    Condition.parse "Department == 'R and D'" = .ok ⟨"department", .equal, .str "R and D"⟩ ∧
      (∃ e, ((s .foldContext).check "Department == 'R and D'" (record "R and D")).outcome =
          .error e ∧
        (e.kind = .unbalancedParentheses ∨ e.kind = .misplacedCondition ∨
          e.kind = .invalidCondition)) ∧
      ((s .verbatim).check "Department != 'Brand' " (record "Brand")).outcome = .ok true ∧
      ((s .preserveLiterals).check "Department != 'Brand' " (record "Brand")).outcome =
        .ok false ∧
      ((s .foldContext).check "Department != 'Brand' " (record "Brand")).outcome = .ok false := by
  intro s record
  have hcut : Condition.parse "Department == 'R and D'" =
      .ok ⟨"department", .equal, .str "R and D"⟩ := by decide +kernel
  have huncut : Condition.parse "Department != 'Brand' " =
      .ok ⟨"department", .notEqual, .str "Brand"⟩ := by decide +kernel
  have hfails := (s .foldContext).check_condition (record "R and D") hcut (by decide) (by decide)
  have hreads : ∀ mode, ((s mode).check "Department != 'Brand' " (record "Brand")).outcome = _ :=
    fun mode => ((s mode).check_condition (record "Brand") huncut (by decide) (by decide)).1
      (by decide +kernel)
  exact ⟨hcut, (hfails.2.1 (by decide +kernel)).2, (hreads .verbatim).trans (by decide +kernel),
    (hreads .preserveLiterals).trans (by decide +kernel),
    (hreads .foldContext).trans (by decide +kernel)⟩

end Settings

end AttributeRules
