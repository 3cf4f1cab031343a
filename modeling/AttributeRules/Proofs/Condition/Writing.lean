import Mathlib.Data.List.TakeWhile
import AttributeRules.Condition

/-!
# How conditions are written

A text is the writing of a condition if it is a word, a sign and a literal, with
blanks on either side of the sign and behind the literal (`Writing`). What the
reader of conditions takes apart is written so (`exists_writing_of_parts?`).
-/

namespace AttributeRules

/-- Whether a character is a quote, single or double. -/
def Text.isQuote (c : Char) : Bool := c = '\'' || c = '"'

/-- The text is the sign of the comparison, in any letter case. -/
def Comparison.Spells (c : Comparison) (sign : List Char) : Prop :=
  sign.map Char.toLower = c.symbol.toList

instance Comparison.decidableSpells (c : Comparison) (sign : List Char) :
    Decidable (c.Spells sign) :=
  inferInstanceAs (Decidable (_ = _))

theorem Comparison.spells_symbol (c : Comparison) : c.Spells c.symbol.toList := by
  cases c <;> decide

theorem Comparison.Spells.ne_nil {c : Comparison} {sign : List Char} (h : c.Spells sign) :
    sign ≠ [] := by
  rintro rfl
  cases c <;> cases h

namespace Condition

open Text

/-- The text is that of the literal. -/
inductive Spelling.Spells : Spelling → List Char → Prop
  | digits {ds : List Char} : ds ≠ [] → (∀ c ∈ ds, isDigit c = true) → Spells (.digits ds) ds
  | quoted {q : Char} {s : List Char} : isQuote q = true → s ≠ [] → q ∉ s →
    Spells (.quoted s) (q :: (s ++ [q]))

/-- A way to write a text as a condition. -/
structure Writing (s : List Char) where
  /-- The name of the attribute. -/
  word : List Char
  /-- The blanks before the sign. -/
  before : List Char
  /-- The sign of the comparison. -/
  sign : List Char
  /-- The blanks behind the sign. -/
  behind : List Char
  /-- The literal, with its quotes. -/
  literal : List Char
  /-- The blanks at the end. -/
  rest : List Char
  /-- What the sign means. -/
  comparison : Comparison
  /-- What the literal is. -/
  spelling : Spelling
  word_ne_nil : word ≠ []
  isWord_of_mem : ∀ c ∈ word, isWord c = true
  blank_before : ∀ c ∈ before, isBlank c = true
  spells_sign : comparison.Spells sign
  blank_behind : ∀ c ∈ behind, isBlank c = true
  spells_literal : spelling.Spells literal
  blank_rest : ∀ c ∈ rest, isBlank c = true
  eq_append : s = word ++ (before ++ (sign ++ (behind ++ (literal ++ rest))))

/-- What stands before the literal. -/
def Writing.lead {s : List Char} (w : Writing s) : List Char :=
  w.word ++ (w.before ++ (w.sign ++ w.behind))

theorem Writing.eq_lead_append {s : List Char} (w : Writing s) :
    s = w.lead ++ (w.literal ++ w.rest) := by
  simpa only [lead, List.append_assoc] using w.eq_append

/-! ## What the reader takes apart -/

theorem exists_sign_of_read? {s r : List Char} {c : Comparison}
    (h : Comparison.read? s = some (c, r)) : ∃ sign, s = sign ++ r ∧ c.Spells sign := by
  unfold Comparison.read? at h
  split at h <;> cases h
  · exact ⟨['=', '='], rfl, by decide⟩
  · exact ⟨['!', '='], rfl, by decide⟩
  · exact ⟨['>', '='], rfl, by decide⟩
  · exact ⟨['<', '='], rfl, by decide⟩
  · exact ⟨['>'], rfl, by decide⟩
  · exact ⟨['<'], rfl, by decide⟩
  · exact ⟨['i', 'n'], rfl, by decide⟩
  · exact ⟨['i', 'N'], rfl, by decide⟩
  · exact ⟨['I', 'n'], rfl, by decide⟩
  · exact ⟨['I', 'N'], rfl, by decide⟩

/-- Text up to the next quote is a literal, behind the quote that it is closed with. -/
theorem exists_quoted_of_quoted? {q : Char} {s r : List Char} {l : Spelling}
    (hq : isQuote q = true) (h : quoted? q s = some (l, r)) :
    ∃ literal, q :: s = literal ++ r ∧ l.Spells literal := by
  have hsplit := List.takeWhile_append_dropWhile (p := (· ≠ q)) (l := s)
  rw [quoted?] at h
  split at h
  · cases h
  · cases h
  · next d r' hrest hcontent =>
    cases h
    have hd : d = q := by
      have := List.head?_dropWhile_not (· ≠ q) s
      rw [hrest] at this
      simpa using this
    have hfree : q ∉ s.takeWhile (· ≠ q) := by
      intro hmem
      have := List.mem_takeWhile_imp hmem
      simp at this
    refine ⟨q :: (s.takeWhile (· ≠ q) ++ [q]), ?_, .quoted hq hcontent hfree⟩
    rw [hrest, hd] at hsplit
    rw [List.cons_append, List.append_assoc, List.singleton_append, hsplit]

theorem exists_literal_of_spelling? {s r : List Char} {l : Spelling}
    (h : spelling? s = some (l, r)) : ∃ literal, s = literal ++ r ∧ l.Spells literal := by
  unfold spelling? at h
  split at h
  · exact exists_quoted_of_quoted? (by decide) h
  · exact exists_quoted_of_quoted? (by decide) h
  · split at h
    · cases h
    · next hds =>
      cases h
      have hdigits : ∀ c ∈ s.takeWhile isDigit, isDigit c = true :=
        fun c hc => List.mem_takeWhile_imp hc
      exact ⟨_, List.takeWhile_append_dropWhile.symm, .digits hds hdigits⟩

/-- The blanks at the front of a text, and the text behind them. -/
theorem exists_blank_append_trimStart (s : List Char) :
    ∃ before, s = before ++ trimStart s ∧ ∀ c ∈ before, isBlank c = true :=
  ⟨s.takeWhile isBlank, List.takeWhile_append_dropWhile.symm,
    fun _ hc => List.mem_takeWhile_imp hc⟩

/-- A word in front of what the reader takes for a sign and a literal makes a condition. -/
theorem exists_writing_of_tail? {word s : List Char} {c : Comparison} {l : Spelling}
    (hne : word ≠ []) (hword : ∀ c ∈ word, isWord c = true) (h : tail? s = some (c, l)) :
    ∃ w : Writing (word ++ s), w.word = word ∧ w.comparison = c ∧ w.spelling = l := by
  obtain ⟨⟨c', r⟩, hsign, h⟩ := Option.bind_eq_some_iff.1 h
  obtain ⟨⟨l', rest⟩, hliteral, h⟩ := Option.bind_eq_some_iff.1 h
  dsimp only at h hliteral
  obtain ⟨before, hs, hbefore⟩ := exists_blank_append_trimStart s
  obtain ⟨behind, hr, hbehind⟩ := exists_blank_append_trimStart r
  obtain ⟨sign, hs', hspells⟩ := exists_sign_of_read? hsign
  obtain ⟨literal, hr', hspells'⟩ := exists_literal_of_spelling? hliteral
  split at h
  · next hrest =>
    cases h
    have hall : s = before ++ (sign ++ (behind ++ (literal ++ rest))) := by
      rw [← hr', ← hr, ← hs', ← hs]
    exact ⟨⟨word, before, sign, behind, literal, rest, c, l, hne, hword, hbefore, hspells, hbehind,
      hspells', List.all_eq_true.1 hrest, by rw [hall]⟩, rfl, rfl, rfl⟩
  · cases h

/-- A writing whose word has one more character in front. -/
def Writing.cons {s : List Char} (w : Writing s) {c : Char} (hc : isWord c = true) :
    Writing (c :: s) :=
  { w with
    word := c :: w.word
    word_ne_nil := List.cons_ne_nil c w.word
    isWord_of_mem := List.forall_mem_cons.2 ⟨hc, w.isWord_of_mem⟩
    eq_append := congrArg (c :: ·) w.eq_append }

/-- What the reader takes apart is written so. -/
theorem exists_writing_of_parts? {s word : List Char} {c : Comparison} {l : Spelling}
    (h : parts? s = some (word, c, l)) :
    ∃ w : Writing s, w.word = word ∧ w.comparison = c ∧ w.spelling = l := by
  induction s generalizing word with
  | nil => cases h
  | cons d s ih =>
    rw [parts?] at h
    split at h
    · next hd =>
      split at h
      · next word' found hs =>
        cases h
        obtain ⟨w, rfl, hc, hl⟩ := ih hs
        exact ⟨w.cons hd, rfl, hc, hl⟩
      · obtain ⟨⟨c', l'⟩, ht, he⟩ := Option.map_eq_some_iff.1 h
        cases he
        exact exists_writing_of_tail? (List.cons_ne_nil d []) (by simpa using hd) ht
    · cases h

theorem parse_of_isEmpty {text : String} (h : IsEmpty (Writing text.toList)) :
    parse text = .error (.invalidCondition (.malformed text)) := by
  have hparts : parts? text.toList = none := by
    refine Option.eq_none_iff_forall_not_mem.2 fun ⟨word, comparison, spelling⟩ hsome => ?_
    obtain ⟨w, -⟩ := exists_writing_of_parts? hsome
    exact h.false w
  rw [parse, hparts]

/-- A text with a condition in it is the writing of that condition. -/
theorem exists_writing_of_parse {text : String} {c : Condition} (h : parse text = .ok c) :
    ∃ w : Writing text.toList, lowercase (String.ofList w.word) = c.field ∧
      w.comparison = c.comparison ∧ meaning? w.comparison w.spelling = some c.literal := by
  unfold parse at h
  split at h
  · cases h
  · next word comparison spelling hparts =>
    split at h
    · cases h
    · next literal hmeaning =>
      cases h
      obtain ⟨w, hword, hc, hl⟩ := exists_writing_of_parts? hparts
      exact ⟨w, by rw [hword], hc, by rw [hc, hl, hmeaning]⟩

end Condition

end AttributeRules
