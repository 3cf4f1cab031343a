import AttributeRules.Proofs.Attributes
import AttributeRules.Proofs.Condition.Acceptance
import AttributeRules.Proofs.Condition.Comparison
import AttributeRules.Proofs.SingleCondition
import AttributeRules.Proofs.Text.Context

/-!
# Rules that compare with a string

Where the text of a condition is lowercased, this is done as a whole, and yet the
attribute and the string are lowercased as if each stood alone
(`StringComparison.lowercase_text`): what stands between them has no letter case
and is not looked through.

Main statement: `Settings.check_stringComparison`.
-/

namespace AttributeRules

open Text Token

/-- The characters of a sign, other than `in`, have no letter case and are not looked through. -/
theorem Comparison.caseless_symbol {c : Comparison} (hc : c ≠ member) :
    ∀ d ∈ c.symbol.toList, Caseless d ∧ isCaseIgnorable d = false := by
  have hplain : (c.symbol.toList.all fun d =>
      !isCased d && lowercaseChar d = [d] && !isCaseIgnorable d) = true := by
    cases c with
    | member => exact absurd rfl hc
    | _ => decide +kernel
  intro d hd
  have hd := List.all_eq_true.1 hplain d hd
  simp only [Bool.and_eq_true, Bool.not_eq_true', decide_eq_true_eq] at hd
  exact ⟨⟨hd.1.1, hd.1.2⟩, hd.2⟩

theorem Text.Caseless.of_isQuote {c : Char} (h : isQuote c = true) : Caseless c := by
  rcases eq_or_eq_of_isQuote h with rfl | rfl <;> exact ⟨by decide +kernel, by decide +kernel⟩

/-- A comparison of an attribute with a string between quotes, as it is written. -/
structure StringComparison where
  /-- The name of the attribute. -/
  field : String
  /-- The blanks before the sign. -/
  before : String
  /-- The comparison, other than membership. -/
  comparison : Comparison
  /-- The blanks behind the sign. -/
  behind : String
  /-- The quote on either side of the string. -/
  quote : Char
  /-- The string. -/
  literal : String
  field_ne_empty : field ≠ ""
  isWord_of_mem : ∀ c ∈ field.toList, isWord c = true
  blank_before : ∀ c ∈ before.toList, isBlank c = true
  comparison_ne_member : comparison ≠ .member
  blank_behind : ∀ c ∈ behind.toList, isBlank c = true
  isQuote_quote : isQuote quote = true
  literal_ne_empty : literal ≠ ""
  quote_not_mem : quote ∉ literal.toList

namespace StringComparison

/-- How the comparison is written. -/
def text (p : StringComparison) : String :=
  p.field ++ p.before ++ p.comparison.symbol ++ p.behind ++ String.singleton p.quote ++ p.literal ++
    String.singleton p.quote

variable (p : StringComparison)

/-- What stands between the attribute and the string. -/
def between : List Char :=
  p.before.toList ++ (p.comparison.symbol.toList ++ (p.behind.toList ++ [p.quote]))

theorem toList_text :
    p.text.toList = p.field.toList ++ (p.between ++ (p.literal.toList ++ [p.quote])) := by
  simp [text, between]

/-- A comparison with a string is a condition. -/
def writing : Condition.Writing p.text.toList where
  word := p.field.toList
  before := p.before.toList
  sign := p.comparison.symbol.toList
  behind := p.behind.toList
  literal := p.quote :: (p.literal.toList ++ [p.quote])
  rest := []
  comparison := p.comparison
  spelling := .quoted p.literal.toList
  word_ne_nil := by simpa using p.field_ne_empty
  isWord_of_mem := p.isWord_of_mem
  blank_before := p.blank_before
  spells_sign := p.comparison.spells_symbol
  blank_behind := p.blank_behind
  spells_literal := .quoted p.isQuote_quote (by simpa using p.literal_ne_empty) p.quote_not_mem
  blank_rest := by simp
  eq_append := by simp [text]

/-- The text is read as the condition with this attribute, lowercased, and this string. -/
theorem parse_text :
    Condition.parse p.text = .ok ⟨lowercase p.field, p.comparison, .str p.literal⟩ := by
  have hmeaning : Condition.meaning? p.writing.comparison p.writing.spelling =
      some (.str (String.ofList p.literal.toList)) :=
    Condition.meaning?_of_ne_member p.comparison_ne_member
  rw [p.writing.parse_of_some hmeaning]
  simp only [writing, String.ofList_toList]

/-- There are no separators in the text if there are none in the string, and the attribute is no
keyword. -/
theorem not_hasSeparator_text (hk : ∀ op : Connective, ¬op.Spells p.field.toList)
    (hsep : ¬HasSeparator p.literal.toList) : ¬HasSeparator p.text.toList := by
  intro h
  obtain ⟨-, -, content, -, -, -, -, hspelling, -, hcontent, -⟩ :=
    p.writing.exists_quoted_separator hk h
  obtain rfl := Condition.Spelling.quoted.inj hspelling
  exact hsep hcontent

theorem trimmed_text : Trimmed p.text.toList := by
  obtain ⟨c, word, hword⟩ := List.exists_cons_of_ne_nil p.writing.word_ne_nil
  refine ⟨fun d hd => ?_, fun d hd => ?_⟩
  · rw [p.writing.eq_append, hword] at hd
    cases hd
    exact isBlank_of_isWord (p.writing.isWord_of_mem c (hword ▸ List.mem_cons_self))
  · rw [toList_text, ← List.append_assoc, ← List.append_assoc, List.getLast?_concat] at hd
    cases hd
    exact isBlank_of_isQuote p.isQuote_quote

/-! ## Lowercasing -/

theorem between_ne_nil : p.between ≠ [] := by simp [between]

theorem caseless_between : ∀ c ∈ p.between, Caseless c := by
  intro c hc
  simp only [between, List.mem_append, List.mem_singleton] at hc
  rcases hc with hc | hc | hc | rfl
  · exact .of_isBlank (p.blank_before c hc)
  · exact (Comparison.caseless_symbol p.comparison_ne_member c hc).1
  · exact .of_isBlank (p.blank_behind c hc)
  · exact .of_isQuote p.isQuote_quote

theorem head_between : ∀ c ∈ p.between.head?, isCaseIgnorable c = false := by
  intro c hc
  rcases hb : p.before.toList with _ | ⟨b, before⟩
  · rw [between, hb, List.nil_append] at hc
    have hsign := mem_of_head?_append p.writing.spells_sign.ne_nil hc
    exact (Comparison.caseless_symbol p.comparison_ne_member c (List.mem_of_head? hsign)).2
  · rw [between, hb] at hc
    cases hc
    exact isCaseIgnorable_of_isBlank (p.blank_before c (hb ▸ List.mem_cons_self))

/-- The comparison with its attribute and its string lowercased. -/
def lower : StringComparison :=
  { p with
    field := lowercase p.field
    literal := lowercase p.literal
    field_ne_empty := lowercase_ne_empty p.field_ne_empty
    isWord_of_mem := fun d hd => by
      obtain ⟨c, hc, hd⟩ := mem_lowercaseFrom (toList_lowercase p.field ▸ hd)
      exact hd.isWord (p.isWord_of_mem c hc)
    literal_ne_empty := lowercase_ne_empty p.literal_ne_empty
    quote_not_mem := fun hq => by
      obtain ⟨c, hc, hd⟩ := mem_lowercaseFrom (toList_lowercase p.literal ▸ hq)
      exact p.quote_not_mem (hd.eq_of_isQuote p.isQuote_quote ▸ hc) }

/-- The attribute and the string are lowercased as if each stood alone. -/
theorem lowercase_text : lowercase p.text = p.lower.text := by
  have hbehind : ∀ c ∈ [p.quote], Caseless c :=
    List.forall_mem_singleton.2 (.of_isQuote p.isQuote_quote)
  have hlower : (lowercase p.text).toList =
      (lowercase p.field).toList ++ (p.between ++ ((lowercase p.literal).toList ++ [p.quote])) := by
    rw [toList_lowercase, toList_lowercase, toList_lowercase, toList_text]
    exact lowercaseFrom_between p.between_ne_nil p.head_between p.caseless_between hbehind _ _ _
  exact String.toList_inj.1 (hlower.trans p.lower.toList_text.symm)

/-- The comparison as it is kept when a rule is read. -/
def kept (mode : CaseMode) : StringComparison := if mode.lowersConditions then p.lower else p

@[simp] theorem comparison_kept (mode : CaseMode) : (p.kept mode).comparison = p.comparison := by
  rw [kept]
  split <;> rfl

@[simp] theorem lowercase_field_kept (mode : CaseMode) :
    lowercase (p.kept mode).field = lowercase p.field := by
  rw [kept]
  split
  · exact lowercase_lowercase p.field
  · rfl

/-- The text of the rule is kept as that of the comparison that is kept. -/
theorem conditionText_text (mode : CaseMode) : mode.conditionText p.text = (p.kept mode).text := by
  rw [CaseMode.conditionText, trim_eq_self p.trimmed_text, String.ofList_toList, kept]
  split
  · exact p.lowercase_text
  · rfl

end StringComparison

namespace Settings

variable {names : List String} {p : StringComparison} {record : Record}

/-- A comparison with a string is evaluated on the value of its attribute, whatever is lowercased
when it is read. -/
theorem evaluateCondition_kept (mode : CaseMode)
    (hadmitted : (Whitelist.ofList names).contains p.field = true) {value : String}
    (hvalue : record.lookup (lowercase p.field) = some (.str value)) :
    evaluateCondition ⟨.ofList names, mode⟩ record (p.kept mode).text =
      .ok (decide (p.comparison.Relates (codes (Condition.folded mode.foldsValues value))
        (codes (p.kept mode).literal))) := by
  have hlower : (Whitelist.ofList names).contains (lowercase p.field) = true := by
    rw [Whitelist.contains_ofList_iff, lowercase_lowercase]
    exact Whitelist.contains_ofList_iff.1 hadmitted
  rw [evaluateCondition_eq (p.kept mode).parse_text, p.lowercase_field_kept, p.comparison_kept,
    if_pos hlower, hvalue, ← Comparison.holds_compare_strings]
  rfl

/-- A rule that compares an attribute with a string, where the attribute is admitted and no keyword,
and the string has no separator in it, has a result on a record with one name for the attribute and
a string for its value: that of comparing the two strings by their code points. The string of the
rule is lowercased unless literals are preserved, and the value is lowercased where the values are
folded, each as if it stood alone. -/
theorem check_stringComparison (names : List String) (p : StringComparison)
    (hk : ∀ op : Connective, ¬op.Spells p.field.toList) (hsep : ¬HasSeparator p.literal.toList)
    (hadmitted : (Whitelist.ofList names).contains p.field = true) {record : Record}
    {key value : String} (hget : record.get? key = some (.str value))
    (hkey : lowercase key = lowercase p.field)
    (honly : ∀ name, record.get? name ≠ none → lowercase name = lowercase p.field → name = key) :
    (check ⟨.ofList names, .preserveLiterals⟩ p.text record).outcome =
        .ok (decide (p.comparison.Relates (codes value) (codes p.literal))) ∧
      (check ⟨.ofList names, .verbatim⟩ p.text record).outcome =
        .ok (decide (p.comparison.Relates (codes value) (codes (lowercase p.literal)))) ∧
      (check ⟨.ofList names, .foldContext⟩ p.text record).outcome =
        .ok (decide (p.comparison.Relates (codes (lowercase value))
          (codes (lowercase p.literal)))) := by
  have hvalue := Record.lookup_of_unique hget hkey honly
  have hanswer : ∀ mode, (check ⟨.ofList names, mode⟩ p.text record).outcome =
      .ok (decide (p.comparison.Relates (codes (Condition.folded mode.foldsValues value))
        (codes (p.kept mode).literal))) := by
    intro mode
    rw [outcome_check_of_uncut _ (p.not_hasSeparator_text hk hsep) p.writing.exists_not_blank,
      p.conditionText_text, evaluateCondition_kept mode hadmitted hvalue]
  exact ⟨hanswer .preserveLiterals, hanswer .verbatim, hanswer .foldContext⟩

/-- The sigma before the quote is at the end of a word, and so is that before the sign. -/
theorem check_stringComparison_sigma :
    let record := (Record.empty.set "age" (.int 40)).set "Οδος" (.str "ΑΒΓ ΔΣ")
    (check ⟨.ofList ["ΟΔΟΣ"], .preserveLiterals⟩ "ΟΔΟς==\t'αΒγ ΔΣ'" record).outcome = .ok false ∧
      (check ⟨.ofList ["ΟΔΟΣ"], .verbatim⟩ "ΟΔΟς==\t'αΒγ ΔΣ'" record).outcome = .ok false ∧
      (check ⟨.ofList ["ΟΔΟΣ"], .foldContext⟩ "ΟΔΟς==\t'αΒγ ΔΣ'" record).outcome = .ok true := by
  intro record
  let p : StringComparison :=
    { field := "ΟΔΟς", before := "", comparison := .equal, behind := "\t", quote := '\''
      literal := "αΒγ ΔΣ"
      field_ne_empty := by decide
      isWord_of_mem := List.all_eq_true.1 (by decide +kernel)
      blank_before := List.all_eq_true.1 (by decide)
      comparison_ne_member := by decide
      blank_behind := List.all_eq_true.1 (by decide)
      isQuote_quote := by decide
      literal_ne_empty := by decide
      quote_not_mem := by decide }
  have honly : ∀ name, record.get? name ≠ none → lowercase name = lowercase p.field →
      name = "Οδος" := Record.forall_names_iff.2 (by decide +kernel)
  obtain ⟨hpreserve, hverbatim, hfold⟩ := check_stringComparison ["ΟΔΟΣ"] p
    (fun op => by cases op <;> decide +kernel) (by decide +kernel) (by decide +kernel)
    (show record.get? "Οδος" = some (.str "ΑΒΓ ΔΣ") by simp [record])
    (by decide +kernel) honly
  exact ⟨hpreserve.trans (by decide +kernel), hverbatim.trans (by decide +kernel),
    hfold.trans (by decide +kernel)⟩

end Settings

end AttributeRules
