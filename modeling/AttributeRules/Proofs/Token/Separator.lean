import AttributeRules.Proofs.Token.ConditionText

/-!
# Texts with separators

A text has a separator if a parenthesis stands in it, or a keyword that is a
whole word (`HasSeparator`). Cutting finds one if there is one
(`cut_eq_none_iff`). Texts are cut behind a front in which no separator starts:
characters that no separator starts with (`cut_plain_append`), or a word that
is no keyword (`cut_word_append`).
-/

namespace AttributeRules.Token

open Text

/-- A separator stands in the text: a parenthesis, or a keyword as a whole word. -/
inductive HasSeparator : List Char → Prop
  | opening {s : List Char} : '(' ∈ s → HasSeparator s
  | closing {s : List Char} : ')' ∈ s → HasSeparator s
  | keyword {before k after : List Char} (op : Connective) : op.Spells k →
    endsInWord false before = false → startsInWord after = false →
    HasSeparator (before ++ (k ++ after))

/-! ## Where separators start -/

/-- No separator starts at the front of a text, if it starts with no parenthesis and with no
keyword that is not within a word. -/
theorem separator?_eq_none_iff {afterWord : Bool} {s : List Char} :
    separator? afterWord s = none ↔
      s.head? ≠ some '(' ∧ s.head? ≠ some ')' ∧ (afterWord = false → keyword? s = none) := by
  cases s with
  | nil => simp [separator?_nil, keyword?]
  | cons c s =>
    rw [separator?_cons]
    split_ifs with ho hc hw
    · simp [ho]
    · simp [hc]
    · simp [ho, hc, hw]
    · simp [ho, hc, hw]

/-- A text has no separators if none starts anywhere in it. -/
theorem cut_eq_none_iff_forall {afterWord : Bool} {s : List Char} :
    (cut afterWord s).2 = none ↔
      ∀ before rest, s = before ++ rest → separator? (endsInWord afterWord before) rest = none := by
  induction s generalizing afterWord with
  | nil =>
    refine ⟨fun _ before rest h => ?_, fun _ => rfl⟩
    rw [(List.append_eq_nil_iff.1 h.symm).2, separator?_nil]
  | cons c s ih =>
    rw [cut_cons_eq_none, ih]
    constructor
    · rintro ⟨hfirst, hbehind⟩ before rest h
      rcases before with _ | ⟨d, before⟩
      · rw [List.nil_append] at h
        exact h ▸ hfirst
      · obtain ⟨rfl, hs⟩ := List.cons.inj h
        exact hbehind before rest hs
    · intro h
      exact ⟨h [] (c :: s) rfl, fun before rest hs => h (c :: before) rest (by rw [hs]; rfl)⟩

/-- A text without separators is one that is not cut. -/
theorem cut_eq_none_iff {s : List Char} : (cut false s).2 = none ↔ ¬HasSeparator s := by
  rw [cut_eq_none_iff_forall]
  constructor
  · intro h hs
    cases hs with
    | opening hmem =>
      obtain ⟨before, after, rfl⟩ := List.append_of_mem hmem
      exact (separator?_eq_none_iff.1 (h before _ rfl)).1 rfl
    | closing hmem =>
      obtain ⟨before, after, rfl⟩ := List.append_of_mem hmem
      exact (separator?_eq_none_iff.1 (h before _ rfl)).2.1 rfl
    | @keyword before k after op hk hb ha =>
      have hnone := (separator?_eq_none_iff.1 (h before _ rfl)).2.2 hb
      rw [keyword?_eq_some_iff.2 ⟨k, rfl, hk, ha⟩] at hnone
      cases hnone
  · rintro h before rest rfl
    refine separator?_eq_none_iff.2 ⟨fun ho => ?_, fun hc => ?_, fun hw => ?_⟩
    · exact h (.opening (List.mem_append_right _ (List.mem_of_head? ho)))
    · exact h (.closing (List.mem_append_right _ (List.mem_of_head? hc)))
    · by_contra hk
      obtain ⟨⟨op, after⟩, hk⟩ := Option.ne_none_iff_exists'.1 hk
      obtain ⟨k, rfl, hspells, hafter⟩ := keyword?_eq_some_iff.1 hk
      exact h (.keyword op hspells hw hafter)

instance decidableHasSeparator (s : List Char) : Decidable (HasSeparator s) :=
  decidable_of_iff (¬(cut false s).2 = none) (by rw [cut_eq_none_iff, Classical.not_not])

/-! ## Fronts without separators -/

/-- No separator starts with this character. -/
structure Plain (c : Char) : Prop where
  ne_opening : c ≠ '('
  ne_closing : c ≠ ')'
  ne_and : c.toLower ≠ 'a'
  ne_or : c.toLower ≠ 'o'

theorem not_mem_keywordLetters {c : Char} (h : isWord c = false) : c.toLower ∉ keywordLetters := by
  intro hmem
  rw [isWord_of_toLower_mem hmem] at h
  cases h

theorem Plain.of_not_isWord {c : Char} (h : isWord c = false) (ho : c ≠ '(') (hc : c ≠ ')') :
    Plain c :=
  have hletter := not_mem_keywordLetters h
  ⟨ho, hc, fun ha => hletter (by rw [ha]; decide), fun ha => hletter (by rw [ha]; decide)⟩

theorem Plain.of_isBlank {c : Char} (h : isBlank c = true) : Plain c := by
  refine .of_not_isWord (isWord_of_isBlank h) ?_ ?_
  all_goals
    rintro rfl
    exact absurd h (by decide)

theorem keyword?_of_plain {c : Char} (h : Plain c) (s : List Char) : keyword? (c :: s) = none := by
  rw [Option.eq_none_iff_forall_ne_some]
  rintro ⟨op, r⟩ hk
  obtain ⟨k, hs, hspells, -⟩ := keyword?_eq_some_iff.1 hk
  cases op with
  | and =>
    obtain ⟨a, b, d, rfl, ha, -⟩ := Connective.spells_and_iff.1 hspells
    exact h.ne_and ((List.cons.inj hs).1 ▸ ha)
  | or =>
    obtain ⟨a, b, rfl, ha, -⟩ := Connective.spells_or_iff.1 hspells
    exact h.ne_or ((List.cons.inj hs).1 ▸ ha)

theorem separator?_of_plain {c : Char} (h : Plain c) (afterWord : Bool) (s : List Char) :
    separator? afterWord (c :: s) = none :=
  separator?_eq_none_iff.2 ⟨fun ho => h.ne_opening (Option.some.inj ho),
    fun hc => h.ne_closing (Option.some.inj hc), fun _ => keyword?_of_plain h s⟩

/-- A text is cut behind plain characters. -/
theorem cut_plain_append {s : List Char} (h : ∀ c ∈ s, Plain c) (afterWord : Bool) (r : List Char) :
    cut afterWord (s ++ r) =
      (s ++ (cut (endsInWord afterWord s) r).1, (cut (endsInWord afterWord s) r).2) := by
  induction s generalizing afterWord with
  | nil => rfl
  | cons c s ih =>
    have hnone := separator?_of_plain (h c List.mem_cons_self) afterWord (s ++ r)
    rw [List.cons_append, cut_of_none hnone, ih fun d hd => h d (List.mem_cons_of_mem c hd)]
    rfl

theorem cut_of_plain {s : List Char} (h : ∀ c ∈ s, Plain c) (afterWord : Bool) :
    (cut afterWord s).2 = none := by
  have hcut := cut_plain_append h afterWord []
  rw [List.append_nil] at hcut
  rw [hcut]
  rfl

/-- Behind characters of words no keyword starts before the word ends. -/
theorem cut_inWord_append {s : List Char} (h : ∀ c ∈ s, isWord c = true) (r : List Char) :
    cut true (s ++ r) = (s ++ (cut true r).1, (cut true r).2) := by
  induction s with
  | nil => rfl
  | cons c s ih =>
    have hc := h c List.mem_cons_self
    have hnone : separator? true (c :: (s ++ r)) = none := by
      rcases hs : separator? true (c :: (s ++ r)) with _ | found
      · rfl
      · have := startsInWord_of_separator?_true hs
        rw [startsInWord, hc] at this
        cases this
    rw [List.cons_append, cut_of_none hnone, hc, ih fun d hd => h d (List.mem_cons_of_mem c hd)]
    rfl

/-- A word that is no keyword is not made one by what follows it, if that starts with none of the
letters of keywords. -/
theorem keyword?_word_append {word r : List Char} (hword : ∀ c ∈ word, isWord c = true)
    (hk : ∀ op : Connective, ¬op.Spells word) (hr : ∀ c ∈ r.head?, c.toLower ∉ keywordLetters) :
    keyword? (word ++ r) = none := by
  rw [Option.eq_none_iff_forall_ne_some]
  rintro ⟨op, after⟩ hsome
  obtain ⟨k, hs, hspells, hafter⟩ := keyword?_eq_some_iff.1 hsome
  rcases List.append_eq_append_iff.1 hs with ⟨more, rfl, rfl⟩ | ⟨more, rfl, rfl⟩
  · cases more with
    | nil => exact hk op (by simpa using hspells)
    | cons c more =>
      exact hr c rfl (op.toLower_mem_of_spells hspells c (by simp))
  · cases more with
    | nil => exact hk op (by simpa using hspells)
    | cons c more =>
      have hc := hword c (by simp)
      rw [List.cons_append, startsInWord, hc] at hafter
      cases hafter

/-- A text is cut behind a word that is no keyword. -/
theorem cut_word_append {word r : List Char} (hne : word ≠ [])
    (hword : ∀ c ∈ word, isWord c = true) (hk : ∀ op : Connective, ¬op.Spells word)
    (hr : ∀ c ∈ r.head?, c.toLower ∉ keywordLetters) :
    cut false (word ++ r) = (word ++ (cut true r).1, (cut true r).2) := by
  have hkeyword := keyword?_word_append hword hk hr
  obtain ⟨c, word, rfl⟩ := List.exists_cons_of_ne_nil hne
  have hc := hword c List.mem_cons_self
  have ho : c ≠ '(' := by rintro rfl; exact absurd hc (by decide)
  have hcl : c ≠ ')' := by rintro rfl; exact absurd hc (by decide)
  have hnone : separator? false (c :: (word ++ r)) = none :=
    separator?_eq_none_iff.2 ⟨fun h => ho (Option.some.inj h), fun h => hcl (Option.some.inj h),
      fun _ => hkeyword⟩
  rw [List.cons_append, cut_of_none hnone, hc,
    cut_inWord_append fun d hd => hword d (List.mem_cons_of_mem c hd)]
  rfl

end AttributeRules.Token
