import AttributeRules.Proofs.Condition.Quotes
import AttributeRules.Proofs.Token.Separator

/-!
# Separators in conditions

In the writing of a condition separators stand only between the quotes of its
literal: its attribute is no keyword, and no separator starts in what stands
before and behind the quotes. So a condition is cut at the first separator
between its quotes, if there is one (`Writing.cut_eq`).
-/

namespace AttributeRules

open Text Token

/-! ## Keywords as attributes -/

theorem lowercaseChar_of_keywordLetter {c : Char} (h : c.toLower ∈ keywordLetters) :
    lowercaseChar c = [c.toLower] :=
  of_forall_ofNat (p := fun c => c.toLower ∈ keywordLetters → lowercaseChar c = [c.toLower])
    (by decide +kernel) (lt_of_toLower_mem h) h

/-- The letters of keywords are lowercased as in ASCII. -/
theorem lowercaseFrom_of_keywordLetters {s : List Char}
    (h : ∀ c ∈ s, c.toLower ∈ keywordLetters) (b : Bool) :
    lowercaseFrom b s = s.map Char.toLower := by
  refine lowercaseFrom_eq_map (fun c hc => ⟨lowercaseChar_of_keywordLetter (h c hc), ?_⟩) b
  rintro rfl
  exact absurd (h 'Σ' hc) (by decide)

theorem not_spells_of_lowercase {word : List Char}
    (hand : lowercase (String.ofList word) ≠ "and") (hor : lowercase (String.ofList word) ≠ "or")
    (op : Connective) : ¬op.Spells word := by
  intro h
  have hlower : lowercase (String.ofList word) = op.word := by
    rw [lowercase, String.toList_ofList,
      lowercaseFrom_of_keywordLetters (op.toLower_mem_of_spells h), h, String.ofList_toList]
  cases op with
  | and => exact hand hlower
  | or => exact hor hlower

/-! ## Plain characters -/

theorem Token.Plain.of_isQuote {c : Char} (h : isQuote c = true) : Plain c := by
  refine .of_not_isWord (isWord_of_isQuote h) ?_ ?_
  all_goals
    rintro rfl
    exact absurd h (by decide)

theorem Token.Plain.of_isDigit {c : Char} (h : isDigit c = true) : Plain c := by
  have hcode : c.toNat < 0x3A := Nat.lt_succ_of_le (isDigit_iff.1 h).2
  obtain ⟨ho, hc, ha, hor⟩ := of_forall_ofNat (p := fun c => isDigit c = true →
    c ≠ '(' ∧ c ≠ ')' ∧ c.toLower ≠ 'a' ∧ c.toLower ≠ 'o') (by decide) hcode h
  exact ⟨ho, hc, ha, hor⟩

theorem Comparison.Spells.plain {c : Comparison} {sign : List Char} (h : c.Spells sign) :
    ∀ d ∈ sign, Plain d := by
  intro d hd
  have hmem := h.toLower_mem d hd
  refine ⟨?_, ?_, fun ha => ?_, fun ho => ?_⟩
  · rintro rfl
    exact absurd hmem (by decide)
  · rintro rfl
    exact absurd hmem (by decide)
  · exact absurd (ha ▸ hmem) (by decide)
  · exact absurd (ho ▸ hmem) (by decide)

theorem Comparison.Spells.head {c : Comparison} {sign : List Char} (h : c.Spells sign)
    (r : List Char) : ∀ d ∈ (sign ++ r).head?, d.toLower ∉ keywordLetters := by
  have hfirst : ∀ x ∈ c.symbol.toList.head?, x ∉ keywordLetters := by
    cases c <;> simp [Comparison.symbol, keywordLetters]
  obtain ⟨e, sign, rfl⟩ := List.exists_cons_of_ne_nil h.ne_nil
  rintro d ⟨⟩
  exact hfirst _ (h ▸ rfl)

namespace Condition

namespace Writing

variable {s : List Char} (w : Writing s)

/-! ## Around the literal -/

/-- The literal is this text between two of these quotes. -/
structure Quoted (q : Char) (content : List Char) : Prop where
  isQuote : isQuote q = true
  not_mem : q ∉ content
  literal_eq : w.literal = q :: (content ++ [q])
  spelling_eq : w.spelling = .quoted content

theorem digits_or_quoted :
    (∀ c ∈ w.literal, isDigit c = true) ∨ ∃ q content, w.Quoted q content := by
  rcases hliteral : w.literal, hspelling : w.spelling, w.spells_literal with
    ⟨_, _, ⟨-, hdigits⟩ | ⟨hq, -, hfree⟩⟩
  · exact .inl hdigits
  · exact .inr ⟨_, _, hq, hfree, hliteral, hspelling⟩

theorem plain_behind_word : ∀ c ∈ w.before ++ (w.sign ++ w.behind), Plain c := by
  intro c hc
  rcases List.mem_append.1 hc with hc | hc
  · exact .of_isBlank (w.blank_before c hc)
  rcases List.mem_append.1 hc with hc | hc
  · exact w.spells_sign.plain c hc
  · exact .of_isBlank (w.blank_behind c hc)

/-- What stands behind the attribute does not go on with a letter of keywords. -/
theorem head_behind_word (r : List Char) :
    ∀ c ∈ (w.before ++ (w.sign ++ w.behind) ++ r).head?, c.toLower ∉ keywordLetters := by
  rw [List.append_assoc, List.append_assoc]
  rcases hb : w.before with _ | ⟨b, before⟩
  · exact w.spells_sign.head (w.behind ++ r)
  · rintro c ⟨⟩
    have hblank : isBlank b = true := w.blank_before b (hb ▸ List.mem_cons_self)
    exact not_mem_keywordLetters (isWord_of_isBlank hblank)

variable (hk : ∀ op : Connective, ¬op.Spells w.word)

include hk

/-- A text is cut behind what stands before the literal. -/
theorem cut_lead_append (r : List Char) :
    ∃ afterWord, cut false (w.lead ++ r) =
      (w.lead ++ (cut afterWord r).1, (cut afterWord r).2) := by
  refine ⟨endsInWord true (w.before ++ (w.sign ++ w.behind)), ?_⟩
  rw [lead, List.append_assoc, cut_word_append w.word_ne_nil w.isWord_of_mem hk
    (w.head_behind_word r), cut_plain_append w.plain_behind_word]
  simp only [List.append_assoc]

theorem not_hasSeparator_lead : ¬HasSeparator w.lead := by
  obtain ⟨afterWord, hcut⟩ := w.cut_lead_append hk []
  rw [List.append_nil] at hcut
  rw [← cut_eq_none_iff, hcut]
  rfl

omit hk in
theorem not_hasSeparator_rest : ¬HasSeparator w.rest := by
  rw [← cut_eq_none_iff]
  exact cut_of_plain (fun c hc => .of_isBlank (w.blank_rest c hc)) false

/-- A condition with a separator is cut between its quotes, at the first separator there. -/
theorem cut_eq (h : HasSeparator s) :
    ∃ q content u t after, w.Quoted q content ∧ cut false content = (u, some (t, after)) ∧
      cut false s = (w.lead ++ q :: u, some (t, after ++ q :: w.rest)) := by
  obtain ⟨afterWord, hcut⟩ := w.cut_lead_append hk (w.literal ++ w.rest)
  rw [← w.eq_lead_append] at hcut
  have hrest : ∀ c ∈ w.rest, Plain c := fun c hc => .of_isBlank (w.blank_rest c hc)
  have huncut : (cut afterWord (w.literal ++ w.rest)).2 ≠ none := fun hnone =>
    cut_eq_none_iff.1 (hcut ▸ hnone) h
  rcases w.digits_or_quoted with hdigits | ⟨q, content, hquoted⟩
  · have hplain : ∀ c ∈ w.literal ++ w.rest, Plain c := fun c hc =>
      (List.mem_append.1 hc).elim (fun hc => .of_isDigit (hdigits c hc)) (hrest c)
    exact absurd (cut_of_plain hplain afterWord) huncut
  · have hq := hquoted.isQuote
    have hword := isWord_of_isQuote hq
    have hopening : cut afterWord (w.literal ++ w.rest) =
        (q :: (cut false (content ++ q :: w.rest)).1, (cut false (content ++ q :: w.rest)).2) := by
      rw [hquoted.literal_eq, List.cons_append,
        cut_of_none (separator?_of_plain (.of_isQuote hq) _ _), hword, List.append_assoc,
        List.singleton_append]
    have hclosing : ∀ c ∈ q :: w.rest, Plain c := List.forall_mem_cons.2 ⟨.of_isQuote hq, hrest⟩
    have hstart : startsInWord (q :: w.rest) = false := hword
    have hseam : Seam false content (q :: w.rest) := .of_start hstart false content
    rcases hc : cut false content with ⟨u, _ | ⟨t, after⟩⟩
    · have hnone : (cut false content).2 = none := by rw [hc]
      rw [hopening, cut_append_of_none hseam hnone] at huncut
      exact absurd (cut_of_plain hclosing _) huncut
    · refine ⟨q, content, u, t, after, hquoted, hc, ?_⟩
      rw [hcut, hopening, cut_append_of_some hseam hc]

end Writing

end Condition

end AttributeRules
