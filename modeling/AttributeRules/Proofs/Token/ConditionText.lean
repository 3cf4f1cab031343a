import AttributeRules.Proofs.Outcome
import AttributeRules.Proofs.Token.Scan

/-!
# The texts of conditions

The text of a condition has no separator in it and no blank at its ends, and it
is its own lowercase where a mode lowercases conditions (`IsConditionText`). The
conditions that a scan finds have such texts (`isConditionText_of_mem_scan`),
and such a text is scanned to the condition with it (`IsConditionText.scan_eq`).
-/

namespace AttributeRules

open Text

namespace Token

/-- A text that is one condition. -/
structure IsConditionText (mode : CaseMode) (text : String) : Prop where
  ne_nil : text.toList ≠ []
  trimmed : Trimmed text.toList
  uncut : (cut false text.toList).2 = none
  lowered : mode.lowersConditions = true → lowercase text = text

/-! ## Trimming -/

theorem cut_append_blank {b : List Char} (hb : ∀ c ∈ b, isBlank c = true) (s : List Char) :
    (cut false (b ++ s)).2 = (cut false s).2 := by
  induction b with
  | nil => rfl
  | cons c b ih =>
    rw [List.cons_append, cut_cons_blank (hb c List.mem_cons_self)]
    exact ih fun d hd => hb d (List.mem_cons_of_mem _ hd)

theorem uncut_trim {s : List Char} (h : (cut false s).2 = none) : (cut false (trim s)).2 = none := by
  obtain ⟨before, after, hs, hbefore, hafter⟩ := trim_spec s
  have hstart : startsInWord after = false := by
    cases after with
    | nil => rfl
    | cons c after => exact isWord_of_isBlank (hafter c List.mem_cons_self)
  rw [hs, List.append_assoc, cut_append_blank hbefore] at h
  exact cut_snd_of_append (.of_start hstart _ _) h

/-! ## Lowercasing -/

/-- A parenthesis is the lowercase of nothing but itself. -/
theorem eq_of_isImage_parenthesis {c d : Char} (h : IsImage c d) (hd : d = '(' ∨ d = ')') :
    d = c := by
  have hcode : d.toNat < 0x41 := by rcases hd with rfl | rfl <;> decide
  rcases h.ascii (by omega) with hc | ⟨hA, -, hc⟩ | rfl | rfl
  · exact hc
  · omega
  · exact absurd hcode (by decide)
  · exact absurd hcode (by decide)

/-- Lowercasing makes no separators, at least if no less of a word stands before the text. -/
theorem separator?_lowercaseFrom {afterWord afterWord' b : Bool} {c : Char} {s : List Char}
    (h : separator? afterWord (c :: s) = none) (hword : afterWord = true → afterWord' = true) :
    separator? afterWord' (lowercaseFrom b (c :: s)) = none := by
  have hparen : c ≠ '(' ∧ c ≠ ')' := by
    rw [separator?_cons] at h
    split_ifs at h with ho hc
    all_goals exact ⟨ho, hc⟩
  have hkeyword : afterWord' = false → keyword? (lowercaseFrom b (c :: s)) = none := by
    intro hw'
    have hw : afterWord = false := by
      rw [Bool.eq_false_iff] at hw' ⊢
      exact fun hw => hw' (hword hw)
    by_contra hk
    obtain ⟨⟨op, r⟩, hk⟩ := Option.ne_none_iff_exists'.1 hk
    obtain ⟨r', hk'⟩ := keyword?_of_lowercaseFrom hk
    rw [separator?_cons, if_neg hparen.1, if_neg hparen.2, hw, if_neg Bool.false_ne_true, hk'] at h
    cases h
  obtain ⟨d, ds, b', hd, himage, -⟩ := lowercaseFrom_cons b c s
  have hself := eq_of_isImage_parenthesis (himage d List.mem_cons_self)
  have ho : d ≠ '(' := fun ho => hparen.1 (hself (.inl ho) ▸ ho)
  have hc : d ≠ ')' := fun hc => hparen.2 (hself (.inr hc) ▸ hc)
  rw [hd] at hkeyword ⊢
  rw [separator?_cons, if_neg ho, if_neg hc]
  cases afterWord' with
  | true => rfl
  | false => simp only [hkeyword rfl, Option.map_none, Bool.false_eq_true, if_false]

theorem uncut_lowercaseFrom {afterWord afterWord' b : Bool} {s : List Char}
    (h : (cut afterWord s).2 = none) (hword : afterWord = true → afterWord' = true) :
    (cut afterWord' (lowercaseFrom b s)).2 = none := by
  induction s generalizing afterWord afterWord' b with
  | nil => rfl
  | cons c s ih =>
    obtain ⟨hs, hrest⟩ := cut_cons_eq_none.1 h
    have hlow := @separator?_lowercaseFrom _ _ b _ _ hs hword
    obtain ⟨d, ds, b', hd, himage, hds⟩ := lowercaseFrom_cons b c s
    rw [hd] at hlow ⊢
    refine cut_cons_eq_none.2 ⟨hlow, ?_⟩
    rcases hds with rfl | ⟨rfl, rfl⟩
    · exact ih hrest (himage d List.mem_cons_self).isWord
    · -- The dot above the `i` belongs to the word as well, so no separator starts behind it.
      have hmark : isWord '\u0307' = true := by decide +kernel
      have hi : isWord 'i' = true := by decide
      have hsep : separator? true ('\u0307' :: lowercaseFrom b' s) = none := by
        rw [separator?_cons, if_neg (by decide), if_neg (by decide), if_pos rfl]
      rw [hi, List.cons_append, List.nil_append]
      exact cut_cons_eq_none.2 ⟨hsep, ih hrest fun _ => hmark⟩

/-! ## Scans -/

variable {mode : CaseMode} {text : String}

theorem scan_of_blank {s : List Char} (h : ∀ c ∈ s, isBlank c = true) : scan mode s = [] := by
  have hcut : (cut false s).2 = none := by
    have := cut_append_blank h []
    rwa [List.append_nil] at this
  rw [scan_of_none hcut, ofText, trim_eq_nil h]

theorem isConditionText_of_mem_ofText {s : List Char} (hs : (cut false s).2 = none)
    (h : condition text ∈ ofText mode s) : IsConditionText mode text := by
  have htrimmed := trimmed_trim s
  have huncut := uncut_trim hs
  rw [ofText] at h
  split at h
  · cases h
  · next hnil =>
    obtain ⟨rfl⟩ := List.mem_singleton.1 h
    split
    · next hmode =>
      have hlist : (lowercase (String.ofList (trim s))).toList = lowercaseFrom false (trim s) := by
        simp only [lowercase, String.toList_ofList]
      refine ⟨?_, ?_, ?_, fun _ => lowercase_lowercase _⟩ <;> rw [hlist]
      · exact fun he => hnil (lowercaseFrom_eq_nil he)
      · exact htrimmed.lowercaseFrom false
      · exact uncut_lowercaseFrom huncut id
    · next hmode =>
      refine ⟨?_, ?_, ?_, fun hm => absurd hm hmode⟩ <;> rw [String.toList_ofList]
      · exact hnil
      · exact htrimmed
      · exact huncut

/-- The conditions that a scan finds have the texts of conditions. -/
theorem isConditionText_of_mem_scan {s : List Char} (h : condition text ∈ scan mode s) :
    IsConditionText mode text := by
  fun_induction scan mode s with
  | case1 s before hcut =>
    have hnone := cut_before_separator false s
    rw [hcut] at hnone
    exact isConditionText_of_mem_ofText hnone h
  | case2 s before separator rest hcut _ ih =>
    have hnone := cut_before_separator false s
    rw [hcut] at hnone
    rcases List.mem_append.1 h with h | h
    · exact isConditionText_of_mem_ofText hnone h
    rcases List.mem_cons.1 h with h | h
    · obtain ⟨sep, -, hsep⟩ := cut_eq_some hcut
      exact absurd h.symm (ne_condition_of_separator? hsep text)
    · exact ih h

/-- The text of a condition is scanned to that condition. -/
theorem IsConditionText.scan_eq (h : IsConditionText mode text) :
    scan mode text.toList = [condition text] := by
  rw [scan_of_none h.uncut, ofText, trim_eq_self h.trimmed]
  split
  · next hnil => exact absurd hnil h.ne_nil
  · simp only [String.ofList_toList]
    split
    · next hmode => rw [h.lowered hmode]
    · rfl

end Token

/-! ## Rules by their tokens -/

/-- The text of a condition as it is kept: without the blanks at its ends, and lowercased where the
mode asks for it. -/
def CaseMode.conditionText (mode : CaseMode) (text : String) : String :=
  let trimmed := String.ofList (trim text.toList)
  if mode.lowersConditions then lowercase trimmed else trimmed

theorem CaseMode.conditionText_eq (mode : CaseMode) (text : String) :
    mode.conditionText text = if mode = .preserveLiterals then String.ofList (trim text.toList)
      else lowercase (String.ofList (trim text.toList)) := by
  cases mode <;> rfl

namespace Token

variable {mode : CaseMode}

theorem scan_nil : scan mode [] = [] := scan_of_blank nofun

theorem ofText_eq {s : List Char} {c : Char} (hmem : c ∈ s) (hc : isBlank c = false) :
    ofText mode s = [.condition (mode.conditionText (String.ofList s))] := by
  rw [ofText, CaseMode.conditionText, String.toList_ofList]
  split
  · next hnil =>
    obtain ⟨before, after, hs, hbefore, hafter⟩ := trim_spec s
    rw [hnil, List.append_nil] at hs
    have hblank : isBlank c = true := by
      rw [hs] at hmem
      exact (List.mem_append.1 hmem).elim (hbefore c) (hafter c)
    rw [hc] at hblank
    cases hblank
  · rfl

end Token

/-- A rule is read as its tokens are assembled. -/
theorem Tree.outcome_ofRule_eq (mode : CaseMode) (rule : String) :
    (ofRule mode rule).outcome = ofTokens (Token.scan mode rule.toList) := by
  rw [outcome_ofRule]
  cases hblank : rule.toList.all isBlank with
  | true =>
    rw [Token.scan_of_blank (List.all_eq_true.1 hblank), Token.ofRule, if_pos hblank]
    rfl
  | false =>
    rw [Token.outcome_ofRule_eq_ok.2 ⟨hblank, rfl⟩]
    rfl

end AttributeRules
