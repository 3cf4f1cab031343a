import AttributeRules.Proofs.Condition.Quotes
import AttributeRules.Proofs.Token.Keyword

/-!
# Conditions are written in one way

A text is the writing of a condition in at most one way (`Writing.unique`).
From the left this is not to be seen, since the sign `in` is made of characters
of words: the word of `5in5in5` is the longer of two candidates. From the right
nothing is open. The text ends in a run of blanks; a literal before it ends in
its quote, and starts at the last such quote before, or it is a run of digits;
no sign is the end of another (`Comparison.Spells.eq_of_suffix`); and the word
is what is left before the blanks.
-/

namespace AttributeRules

open Text

/-! ## Runs at the end of a text -/

namespace Text

theorem isBlank_of_isDigit {c : Char} (h : isDigit c = true) : isBlank c = false :=
  of_forall_ofNat (p := fun c => isDigit c = true → isBlank c = false) (by decide)
    (Nat.lt_succ_of_le (isDigit_iff.1 h).2) h

theorem isDigit_of_isBlank {c : Char} (h : isBlank c = true) : isDigit c = false := by
  rw [Bool.eq_false_iff]
  intro hdigit
  rw [isBlank_of_isDigit hdigit] at h
  cases h

theorem ne_of_not_mem {q : Char} {s : List Char} (h : q ∉ s) : ∀ c ∈ s, decide (c ≠ q) = true :=
  fun _ hc => decide_eq_true fun hcq => h (hcq ▸ hc)

variable {p : Char → Bool} {x y u v : List Char}

/-- A run of characters at the end of a text that ends in none of them is empty. -/
theorem eq_nil_of_run (hrun : ∀ c ∈ u, p c = true) (hlast : ∀ c ∈ (x ++ u).getLast?, p c = false) :
    u = [] := by
  rcases List.eq_nil_or_concat u with rfl | ⟨u, c, rfl⟩
  · rfl
  · have hc : p c = true := hrun c (by simp)
    rw [hlast c (by simp)] at hc
    cases hc

/-- A text is divided in one way into a run of characters at its end and what stands before the
run. -/
theorem append_run_inj (h : x ++ u = y ++ v) (hu : ∀ c ∈ u, p c = true) (hv : ∀ c ∈ v, p c = true)
    (hx : ∀ c ∈ x.getLast?, p c = false) (hy : ∀ c ∈ y.getLast?, p c = false) :
    x = y ∧ u = v := by
  rcases List.append_eq_append_iff.1 h with ⟨a, rfl, rfl⟩ | ⟨b, rfl, rfl⟩
  · obtain rfl := eq_nil_of_run (fun c hc => hu c (List.mem_append_left v hc)) hy
    exact ⟨(List.append_nil x).symm, List.nil_append v⟩
  · obtain rfl := eq_nil_of_run (fun c hc => hv c (List.mem_append_left u hc)) hx
    exact ⟨List.append_nil y, (List.nil_append u).symm⟩

theorem mem_of_getLast?_append {c : Char} (hu : u ≠ []) (h : c ∈ (x ++ u).getLast?) :
    c ∈ u.getLast? := by
  obtain ⟨u, d, rfl⟩ := (List.eq_nil_or_concat u).resolve_left hu
  rw [List.concat_eq_append, ← List.append_assoc, List.getLast?_concat] at h
  rwa [List.concat_eq_append, List.getLast?_concat]

end Text

/-! ## Signs -/

namespace Comparison

variable {c c' : Comparison} {sign sign' : List Char}

theorem Spells.not_blank (h : c.Spells sign) :
    ∀ d ∈ sign, isBlank d = false ∧ isDigit d = false := by
  intro d hd
  have hmem := h.toLower_mem d hd
  have hall : ∀ e ∈ signLetters, e.toNat < 0x80 := by simp [signLetters]
  exact of_forall_ofNat
    (p := fun d => d.toLower ∈ signLetters → isBlank d = false ∧ isDigit d = false)
    (by decide) (lt_of_toLower_lt (hall _ hmem)) hmem

theorem Spells.eq_of_suffix (h : c.Spells sign) (h' : c'.Spells sign') (hs : sign <:+ sign') :
    c = c' ∧ sign = sign' := by
  have hsymbol : c.symbol.toList <:+ c'.symbol.toList := by
    rw [← show _ = _ from h, ← show _ = _ from h']
    exact hs.map Char.toLower
  have hc : c = c' := by
    cases c <;> cases c' <;> first | rfl | exact absurd hsymbol (by decide)
  subst hc
  have hlength : (sign.map Char.toLower).length = (sign'.map Char.toLower).length := by
    rw [show _ = _ from h, show _ = _ from h']
  rw [List.length_map, List.length_map] at hlength
  exact ⟨rfl, hs.eq_of_length hlength⟩

/-- A text ends in one sign only. -/
theorem Spells.append_inj {x y : List Char} (h : c.Spells sign) (h' : c'.Spells sign')
    (he : x ++ sign = y ++ sign') : x = y ∧ sign = sign' ∧ c = c' := by
  have hsuffix : sign <:+ sign' ∨ sign' <:+ sign :=
    List.suffix_or_suffix_of_suffix ⟨x, rfl⟩ ⟨y, he.symm⟩
  have hsame : sign = sign' ∧ c = c' := by
    rcases hsuffix with hs | hs
    · exact (h.eq_of_suffix h' hs).symm
    · exact ⟨(h'.eq_of_suffix h hs).2.symm, (h'.eq_of_suffix h hs).1.symm⟩
  exact ⟨List.append_cancel_right (hsame.1 ▸ he), hsame⟩

end Comparison

namespace Condition

/-! ## Literals -/

namespace Spelling

variable {l l' : Spelling} {literal literal' : List Char}

theorem Spells.ne_nil (h : l.Spells literal) : literal ≠ [] := by
  cases h with
  | digits hne => exact hne
  | quoted => exact List.cons_ne_nil _ _

theorem Spells.last (h : l.Spells literal) : ∀ c ∈ literal.getLast?, isBlank c = false := by
  intro c hc
  cases h with
  | digits _ hdigits => exact isBlank_of_isDigit (hdigits c (List.mem_of_getLast? hc))
  | @quoted q s hq =>
    rw [← List.cons_append, List.getLast?_concat] at hc
    cases hc
    exact isBlank_of_isQuote hq

theorem append_digits_ne {x y ds s : List Char} {q : Char} (hne : ds ≠ [])
    (hdigits : ∀ c ∈ ds, isDigit c = true) (hq : isQuote q = true) :
    x ++ ds ≠ y ++ q :: (s ++ [q]) := by
  intro he
  have hlast : q ∈ (x ++ ds).getLast? := by
    rw [he, ← List.cons_append, ← List.append_assoc, List.getLast?_concat]
    rfl
  have hdigit := hdigits q (List.mem_of_getLast? (mem_of_getLast?_append hne hlast))
  rcases eq_or_eq_of_isQuote hq with rfl | rfl <;> cases hdigit

/-- A text that does not end in a digit has one literal at most behind it. -/
theorem Spells.append_inj {x y : List Char} (h : l.Spells literal) (h' : l'.Spells literal')
    (hx : ∀ c ∈ x.getLast?, isDigit c = false) (hy : ∀ c ∈ y.getLast?, isDigit c = false)
    (he : x ++ literal = y ++ literal') : x = y ∧ literal = literal' ∧ l = l' := by
  cases h with
  | digits hne hdigits =>
    cases h' with
    | digits hne' hdigits' =>
      obtain ⟨rfl, rfl⟩ := append_run_inj he hdigits hdigits' hx hy
      exact ⟨rfl, rfl, rfl⟩
    | quoted hq => exact absurd he (append_digits_ne hne hdigits hq)
  | @quoted q s hq _ hfree =>
    cases h' with
    | digits hne' hdigits' => exact absurd he.symm (append_digits_ne hne' hdigits' hq)
    | @quoted q' s' _ _ hfree' =>
      rw [← List.cons_append, ← List.cons_append, ← List.append_assoc, ← List.append_assoc] at he
      obtain ⟨he, hquote⟩ := List.append_inj' he rfl
      cases hquote
      -- The text between the quotes is the run of other characters in front of the last one.
      rw [List.append_cons x, List.append_cons y] at he
      have hend : ∀ (x : List Char), ∀ c ∈ (x ++ [q]).getLast?, decide (c ≠ q) = false := by
        intro x c hc
        rw [List.getLast?_concat] at hc
        cases hc
        exact decide_eq_false (not_not_intro rfl)
      obtain ⟨hxy, rfl⟩ :=
        append_run_inj he (ne_of_not_mem hfree) (ne_of_not_mem hfree') (hend x) (hend y)
      exact ⟨List.append_cancel_right hxy, rfl, rfl⟩

end Spelling

/-! ## Writings -/

attribute [ext] Writing

namespace Writing

variable {s : List Char}

theorem last_word (w : Writing s) : ∀ c ∈ w.word.getLast?, isBlank c = false := by
  intro c hc
  exact isBlank_of_isWord (w.isWord_of_mem c (List.mem_of_getLast? hc))

theorem last_lead (w : Writing s) : ∀ c ∈ w.lead.getLast?, isDigit c = false := by
  intro c hc
  have hne : w.sign ++ w.behind ≠ [] := List.append_ne_nil_of_left_ne_nil w.spells_sign.ne_nil _
  rw [lead, ← List.append_assoc] at hc
  rcases List.mem_append.1 (List.mem_of_getLast? (mem_of_getLast?_append hne hc)) with hc | hc
  · exact (w.spells_sign.not_blank c hc).2
  · exact isDigit_of_isBlank (w.blank_behind c hc)

/-- A text is written as a condition in one way at most. -/
theorem unique (w w' : Writing s) : w = w' := by
  have hs : (w.lead ++ w.literal) ++ w.rest = (w'.lead ++ w'.literal) ++ w'.rest := by
    rw [List.append_assoc, List.append_assoc, ← w.eq_lead_append, ← w'.eq_lead_append]
  have hlast : ∀ w : Writing s, ∀ c ∈ (w.lead ++ w.literal).getLast?, isBlank c = false :=
    fun w c hc => w.spells_literal.last c (mem_of_getLast?_append w.spells_literal.ne_nil hc)
  obtain ⟨hs, hrest⟩ := append_run_inj hs w.blank_rest w'.blank_rest (hlast w) (hlast w')
  obtain ⟨hlead, hliteral, hspelling⟩ :=
    w.spells_literal.append_inj w'.spells_literal w.last_lead w'.last_lead hs
  have hlast : ∀ w : Writing s, ∀ c ∈ (w.word ++ w.before ++ w.sign).getLast?, isBlank c = false :=
    fun w c hc => (w.spells_sign.not_blank c
      (List.mem_of_getLast? (mem_of_getLast?_append w.spells_sign.ne_nil hc))).1
  rw [lead, lead, ← List.append_assoc, ← List.append_assoc, ← List.append_assoc,
    ← List.append_assoc] at hlead
  obtain ⟨hlead, hbehind⟩ :=
    append_run_inj hlead w.blank_behind w'.blank_behind (hlast w) (hlast w')
  obtain ⟨hlead, hsign, hcomparison⟩ := w.spells_sign.append_inj w'.spells_sign hlead
  obtain ⟨hword, hbefore⟩ :=
    append_run_inj hlead w.blank_before w'.blank_before w.last_word w'.last_word
  ext1 <;> assumption

end Writing

end Condition

end AttributeRules
