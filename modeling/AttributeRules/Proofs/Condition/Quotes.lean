import AttributeRules.Proofs.Condition.Writing
import AttributeRules.Proofs.Token.ConditionText

/-!
# The quotes of a condition

Lowercasing and trimming a text leave its quotes as they are (`quotes_trim`,
`quotes_lowercaseFrom`). In the writing of a condition a quote stands only in
its literal, where the first one comes a second time (`Writing.mem_quotes`).

Main statement: so a text whose first quote does not come again is no condition
(`parse_of_unclosed`).
-/

namespace AttributeRules

open Text

/-! ## Quotes in texts -/

namespace Text

/-- The quotes of a text, from left to right. -/
def quotes (s : List Char) : List Char := s.filter isQuote

theorem eq_or_eq_of_isQuote {c : Char} (h : isQuote c = true) : c = '\'' ∨ c = '"' := by
  simpa [isQuote] using h

theorem isWord_of_isQuote {c : Char} (h : isQuote c = true) : isWord c = false := by
  rcases eq_or_eq_of_isQuote h with rfl | rfl <;> decide

theorem isBlank_of_isQuote {c : Char} (h : isQuote c = true) : isBlank c = false := by
  rcases eq_or_eq_of_isQuote h with rfl | rfl <;> decide

theorem quotes_append (s r : List Char) : quotes (s ++ r) = quotes s ++ quotes r :=
  List.filter_append s r

/-- What holds of all characters of a text and of no quote shows that it has no quotes. -/
theorem quotes_eq_nil {p : Char → Bool} {s : List Char} (h : ∀ c ∈ s, p c = true)
    (hp : ∀ c, isQuote c = true → p c = false) : quotes s = [] := by
  refine List.filter_eq_nil_iff.2 fun c hc hq => ?_
  have := h c hc
  rw [hp c hq] at this
  cases this

theorem quotes_blank {s : List Char} (h : ∀ c ∈ s, isBlank c = true) : quotes s = [] :=
  quotes_eq_nil h fun _ => isBlank_of_isQuote

theorem quotes_trim (s : List Char) : quotes (trim s) = quotes s := by
  obtain ⟨before, after, hs, hbefore, hafter⟩ := trim_spec s
  calc quotes (trim s) = quotes (before ++ trim s ++ after) := by
        rw [quotes_append, quotes_append, quotes_blank hbefore, quotes_blank hafter,
          List.nil_append, List.append_nil]
    _ = quotes s := congrArg quotes hs.symm

/-- A quote is the image of nothing but itself. -/
theorem IsImage.eq_of_isQuote {c d : Char} (h : IsImage c d) (hd : isQuote d = true) : d = c := by
  have hcode : d.toNat < 0x41 := by rcases eq_or_eq_of_isQuote hd with rfl | rfl <;> decide
  rcases h.ascii (by omega) with hc | ⟨hA, -, hcd⟩ | rfl | rfl
  · exact hc
  · omega
  · exact absurd hd (by decide)
  · exact absurd hd (by decide)

theorem IsImage.eq_of_quote {c d : Char} (h : IsImage c d) (hc : isQuote c = true) : d = c := by
  rcases eq_or_eq_of_isQuote hc with rfl | rfl
  · simpa [IsImage, show lowercaseChar '\'' = ['\''] by decide] using h
  · simpa [IsImage, show lowercaseChar '"' = ['"'] by decide] using h

theorem quotes_lowercaseFrom (b : Bool) (s : List Char) :
    quotes (lowercaseFrom b s) = quotes s := by
  induction s generalizing b with
  | nil => rfl
  | cons c s ih =>
    obtain ⟨d, ds, b', he, himage, hone⟩ := lowercaseFrom_cons b c s
    have hfront : quotes (d :: ds) = quotes [c] := by
      cases hc : isQuote c with
      | true =>
        have hd := (himage d List.mem_cons_self).eq_of_quote hc
        -- An image of more than one character starts with an `i`.
        have hi : d ≠ 'i' := by
          rintro rfl
          rw [← hd] at hc
          exact absurd hc (by decide)
        rw [hone.resolve_right fun h => hi h.1, hd]
      | false =>
        have hnone : ∀ e ∈ d :: ds, ¬isQuote e = true := fun e he hq => by
          rw [(himage e he).eq_of_isQuote hq, hc] at hq
          cases hq
        rw [quotes, quotes, List.filter_eq_nil_iff.2 hnone, List.filter_cons, hc]
        rfl
    calc quotes (lowercaseFrom b (c :: s)) = quotes (d :: ds) ++ quotes (lowercaseFrom b' s) := by
          rw [he, ← List.cons_append, quotes_append]
      _ = quotes [c] ++ quotes s := by rw [hfront, ih]
      _ = quotes (c :: s) := (quotes_append [c] s).symm

/-- The quotes of a condition's text are those of the text that it is made of. -/
theorem quotes_conditionText (mode : CaseMode) (text : String) :
    quotes (mode.conditionText text).toList = quotes text.toList := by
  rw [CaseMode.conditionText]
  split
  · simp only [lowercase, String.toList_ofList, quotes_lowercaseFrom, quotes_trim]
  · simp only [String.toList_ofList, quotes_trim]

end Text

/-! ## Quotes in conditions -/

/-- The characters of signs, in small letters. -/
def signLetters : List Char := ['=', '!', '>', '<', 'i', 'n']

theorem Comparison.Spells.toLower_mem {c : Comparison} {sign : List Char} (h : c.Spells sign) :
    ∀ d ∈ sign, d.toLower ∈ signLetters := by
  have hall : ∀ d ∈ c.symbol.toList, d ∈ signLetters := by
    cases c <;> simp [Comparison.symbol, signLetters]
  intro d hd
  exact hall _ (h ▸ List.mem_map_of_mem hd)

namespace Condition

variable {s : List Char}

theorem quotes_sign {c : Comparison} {sign : List Char} (h : c.Spells sign) :
    quotes sign = [] := by
  refine List.filter_eq_nil_iff.2 fun d hd hq => ?_
  have hmem := h.toLower_mem d hd
  rcases eq_or_eq_of_isQuote hq with rfl | rfl <;> exact absurd hmem (by decide)

theorem quotes_digits {ds : List Char} (h : ∀ c ∈ ds, isDigit c = true) : quotes ds = [] :=
  quotes_eq_nil h fun c hc => by rcases eq_or_eq_of_isQuote hc with rfl | rfl <;> decide

/-- The first quote of a literal comes again: it is the one that closes it. -/
theorem Spelling.Spells.mem_quotes {l : Spelling} {literal r : List Char} {q : Char}
    (hl : l.Spells literal) (h : quotes literal = q :: r) : q ∈ r := by
  cases hl with
  | digits _ hdigits =>
    rw [quotes_digits hdigits] at h
    cases h
  | @quoted q' content hq _ _ =>
    have hquotes : quotes (q' :: (content ++ [q'])) = q' :: (quotes content ++ [q']) := by
      simp [quotes, hq]
    rw [hquotes] at h
    obtain ⟨rfl, rfl⟩ := List.cons.inj h
    exact List.mem_append_right _ List.mem_cons_self

theorem Writing.quotes_lead (w : Writing s) : quotes w.lead = [] := by
  have hword : quotes w.word = [] := quotes_eq_nil w.isWord_of_mem fun _ => isWord_of_isQuote
  rw [lead, quotes_append, quotes_append, quotes_append, hword, quotes_blank w.blank_before,
    quotes_sign w.spells_sign, quotes_blank w.blank_behind]
  rfl

/-- The first quote of a condition comes again. -/
theorem Writing.mem_quotes (w : Writing s) {q : Char} {r : List Char} (h : quotes s = q :: r) :
    q ∈ r := by
  rw [w.eq_lead_append, quotes_append, quotes_append, w.quotes_lead, quotes_blank w.blank_rest,
    List.nil_append, List.append_nil] at h
  exact w.spells_literal.mem_quotes h

/-- A text whose first quote does not come again is no condition. -/
theorem parse_of_unclosed {text : String} {q : Char} {r : List Char}
    (h : quotes text.toList = q :: r) (hq : q ∉ r) :
    parse text = .error (.invalidCondition (.malformed text)) :=
  parse_of_isEmpty ⟨fun w => hq (w.mem_quotes h)⟩

end Condition

end AttributeRules
