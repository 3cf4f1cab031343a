import AttributeRules.Proofs.Condition.Acceptance
import AttributeRules.Proofs.Condition.Separator

/-!
# Conditions written and read again

A condition is written with one space on either side of its sign
(`Condition.spaced`), and a string or a list between single quotes. This is read
as the same condition if the quotes hold a text that is not empty and has no
single quote in it (`Literal.Legible`); otherwise there is no way to read it
(`Writing.quoted_of_last`).

Main statement: `Condition.parse_render`.
-/

namespace AttributeRules

open Text

/-! ## Texts between commas -/

theorem splitOn_intercalate_comma {items : List String} (hne : items ≠ [])
    (hcomma : ∀ item ∈ items, ',' ∉ item.toList) :
    (",".intercalate items).toList.splitOn ',' = items.map String.toList := by
  rw [String.toList_intercalate]
  exact List.splitOn_intercalate ',' (by simpa using hcomma) (by simpa using hne)

theorem Text.mem_of_mem_trim {s : List Char} {c : Char} (h : c ∈ trim s) : c ∈ s := by
  obtain ⟨before, after, hs, -, -⟩ := trim_spec s
  rw [hs]
  exact List.mem_append_left after (List.mem_append_right before h)

theorem items_intercalate {s : List Char} {items : List String}
    (hitems : ((s.splitOn ',').map fun p => String.ofList (trim p)) = items) :
    (((",".intercalate items).toList.splitOn ',').map fun p => String.ofList (trim p)) =
      items := by
  have hne : items ≠ [] := by
    rw [← hitems]
    exact List.map_eq_nil_iff.not.2 (List.splitOn_ne_nil ',' s)
  have hitem : ∀ item ∈ items, ',' ∉ item.toList ∧ trim item.toList = item.toList := by
    intro item hitem
    rw [← hitems] at hitem
    obtain ⟨p, hp, rfl⟩ := List.mem_map.1 hitem
    rw [← pieces_eq_splitOn] at hp
    rw [String.toList_ofList]
    exact ⟨fun hc => not_mem_of_mem_pieces hp (mem_of_mem_trim hc),
      trim_eq_self (trimmed_trim p)⟩
  rw [splitOn_intercalate_comma hne fun item h => (hitem item h).1, List.map_map]
  refine (List.map_congr_left fun item h => ?_).trans (List.map_id items)
  show String.ofList (trim item.toList) = item
  rw [(hitem item h).2, String.ofList_toList]

/-! ## Literals in quotes -/

namespace Literal

/-- The text between the quotes of a string or a list; an integer is written without quotes. -/
def quoted? : Literal → Option String
  | int _ => none
  | str s => some s
  | list items => some (",".intercalate items)

/-- What stands between the quotes, if there are any, is not empty and has no further quote. -/
def Legible (l : Literal) : Prop :=
  ∀ content, l.quoted? = some content → content ≠ "" ∧ '\'' ∉ content.toList

theorem render_of_quoted? {l : Literal} {content : String} (h : l.quoted? = some content) :
    l.render = "'" ++ content ++ "'" := by
  cases l with
  | int n => cases h
  | str s =>
    cases h
    rfl
  | list items =>
    cases h
    rfl

end Literal

namespace Condition

theorem spells_quoted {content : String} (hne : content ≠ "") (hquote : '\'' ∉ content.toList) :
    (Spelling.quoted content.toList).Spells ("'" ++ content ++ "'").toList := by
  have hspells := Spelling.Spells.quoted (by decide) (by simpa using hne) hquote
  simpa using hspells

/-- What is between the quotes, if it is legible, is spelled as a literal. -/
theorem spells_of_legible {l : Literal} {content : String} (hl : l.Legible)
    (hcontent : l.quoted? = some content) :
    (Spelling.quoted content.toList).Spells l.render.toList := by
  obtain ⟨hne, hquote⟩ := hl content hcontent
  rw [Literal.render_of_quoted? hcontent]
  exact spells_quoted hne hquote

/-- What a literal is taken for is written as a literal that is taken for the same, if it is
legible. -/
theorem exists_spelling_of_legible {c : Comparison} {l : Spelling} {m : Literal}
    (hm : Denotes c l m) (hlegible : m.Legible) :
    ∃ l' : Spelling, l'.Spells m.render.toList ∧ Denotes c l' m := by
  cases hm with
  | list l =>
    have hdenotes := Denotes.list (.quoted
      (",".intercalate ((l.content.splitOn ',').map fun p => String.ofList (trim p))).toList)
    rw [Spelling.content, items_intercalate rfl] at hdenotes
    exact ⟨_, spells_of_legible hlegible rfl, hdenotes⟩
  | str hc s =>
    have hdenotes := Denotes.str hc (String.ofList s).toList
    rw [String.ofList_toList] at hdenotes
    exact ⟨_, spells_of_legible hlegible rfl, hdenotes⟩
  | @int _ hc ds n hn =>
    have hnonneg : ¬n.toInt < 0 := by omega
    have hrender : (Literal.int n).render.toList = decimal n.toInt.natAbs := by
      rw [Literal.render, integer, if_neg hnonneg, String.toList_ofList]
    refine ⟨.digits (decimal n.toInt.natAbs), ?_, .int hc ?_⟩
    · rw [hrender]
      exact .digits (decimal_ne_nil _) fun _ => isDigit_of_mem_decimal
    · rw [decimalValue_decimal]
      omega

/-- What a literal is taken for is legible, unless a single quote stands between the quotes or it is
the list of one empty item. -/
theorem not_legible {c : Comparison} {l : Spelling} {literal : List Char} {m : Literal}
    (hl : l.Spells literal) (hm : Denotes c l m) (hlegible : ¬m.Legible) :
    (∃ content, m.quoted? = some content ∧ '\'' ∈ content.toList) ∨ m = .list [""] := by
  simp only [Literal.Legible, not_forall, not_and_or, not_not] at hlegible
  obtain ⟨content, hcontent, hempty | hquote⟩ := hlegible
  · cases hm with
    | list l =>
      refine .inr (congrArg Literal.list ?_)
      cases hcontent
      have hitems := items_intercalate (s := l.content) rfl
      rw [hempty] at hitems
      exact hitems.symm
    | str hc s =>
      cases hl with
      | quoted _ hne _ =>
        cases hcontent
        exact absurd (by simpa using hempty) hne
    | int => cases hcontent
  · exact .inl ⟨content, hcontent, hquote⟩

/-! ## Conditions with single spaces -/

/-- The text of a word, a sign and a literal, one space apart. -/
def spaced (word : String) (c : Comparison) (literal : String) : String :=
  word ++ " " ++ c.symbol ++ " " ++ literal

variable {word literal : String} {c : Comparison}

theorem toList_spaced : (spaced word c literal).toList =
    word.toList ++ ([' '] ++ (c.symbol.toList ++ ([' '] ++ literal.toList))) := by
  simp [spaced]

/-- A word, a sign and a literal, one space apart, are read as what the literal is taken for. -/
theorem parse_spaced (hne : word ≠ "") (hword : ∀ d ∈ word.toList, isWord d = true)
    {l : Spelling} (hl : l.Spells literal.toList) {m : Literal} (hm : Denotes c l m) :
    parse (spaced word c literal) = .ok ⟨lowercase word, c, m⟩ := by
  let w : Writing (spaced word c literal).toList :=
    { word := word.toList, before := [' '], sign := c.symbol.toList, behind := [' ']
      literal := literal.toList, rest := [], comparison := c, spelling := l
      word_ne_nil := by simpa using hne
      isWord_of_mem := hword
      blank_before := List.forall_mem_singleton.2 (by decide)
      spells_sign := c.spells_symbol
      blank_behind := List.forall_mem_singleton.2 (by decide)
      spells_literal := hl
      blank_rest := by simp
      eq_append := by rw [toList_spaced, List.append_nil] }
  exact w.parse_eq_ok_iff.2 ⟨by simp [w], rfl, hm⟩

/-- If a text that ends in something between single quotes is a writing, and no quote stands before,
then this is its literal. -/
theorem Writing.quoted_of_last {lead content : List Char}
    (w : Writing (lead ++ '\'' :: (content ++ ['\'']))) (hlead : quotes lead = []) :
    content ≠ [] ∧ '\'' ∉ content := by
  have hs := w.eq_lead_append
  have hplain : ∀ {s : List Char}, quotes s = [] → ∀ d ∈ s, (!isQuote d) = true :=
    fun h d hd => by simpa using List.filter_eq_nil_iff.1 h d hd
  rcases hliteral : w.literal, hspelling : w.spelling, w.spells_literal with
    ⟨_, _, ⟨-, hdigits⟩ | @⟨q, s, hq, hne, hfree⟩⟩
  · -- Without quotes in the literal there are none in the whole text.
    have hnone : quotes (w.lead ++ (w.literal ++ w.rest)) = [] := by
      rw [quotes_append, quotes_append, w.quotes_lead, hliteral, quotes_digits hdigits,
        quotes_blank w.blank_rest]
      rfl
    have hquote : '\'' ∈ lead ++ '\'' :: (content ++ ['\'']) := by simp
    rw [hs] at hquote
    cases hplain hnone _ hquote
  · rw [hliteral, List.cons_append] at hs
    -- The literals start at the first quote of the text, on either side.
    have hstart : ∀ (q : Char) (r : List Char), isQuote q = true →
        ∀ c ∈ (q :: r).head?, (!isQuote c) = false := by
      rintro q r hq c ⟨⟩
      simpa using hq
    have hdrop := congrArg (List.dropWhile fun d => !isQuote d) hs
    rw [(span_run (hplain hlead) (hstart _ _ (by decide))).2,
      (span_run (hplain w.quotes_lead) (hstart _ _ hq)).2] at hdrop
    obtain ⟨rfl, hbehind⟩ := List.cons.inj hdrop
    have hrest : w.rest = [] := by
      refine eq_nil_of_run (x := s ++ ['\'']) w.blank_rest fun d hd => ?_
      rw [← hbehind, List.getLast?_concat] at hd
      cases hd
      decide
    rw [hrest, List.append_nil] at hbehind
    obtain ⟨rfl, -⟩ := List.append_inj' hbehind rfl
    exact ⟨hne, hfree⟩

/-! ## The written form -/

variable {text : String} {condition : Condition}

/-- The name in a condition that was read is a word, and its own lowercase. -/
theorem field_of_parse (h : parse text = .ok condition) :
    condition.field ≠ "" ∧ (∀ d ∈ condition.field.toList, isWord d = true) ∧
      lowercase condition.field = condition.field := by
  obtain ⟨w, -⟩ := exists_writing_of_parse h
  obtain ⟨hfield, -, -⟩ := w.parse_eq_ok_iff.1 h
  rw [hfield]
  refine ⟨lowercase_ne_empty (by simpa using w.word_ne_nil), fun d hd => ?_,
    lowercase_lowercase _⟩
  rw [toList_lowercase, String.toList_ofList] at hd
  obtain ⟨c, hc, hd⟩ := mem_lowercaseFrom hd
  exact hd.isWord (w.isWord_of_mem c hc)

/-- A condition that was read and whose quotes hold no legible text cannot be read once it is
written. -/
theorem parse_render_of_not_legible (h : parse text = .ok condition)
    (hlegible : ¬condition.literal.Legible) :
    parse condition.render = .error (.invalidCondition (.malformed condition.render)) := by
  obtain ⟨-, hword, -⟩ := field_of_parse h
  refine parse_of_isEmpty ⟨fun w => hlegible fun content hcontent => ?_⟩
  let lead := condition.field.toList ++ ([' '] ++ (condition.comparison.symbol.toList ++ [' ']))
  have hrender : condition.render.toList = lead ++ '\'' :: (content.toList ++ ['\'']) := by
    simp [render, Literal.render_of_quoted? hcontent, lead]
  have hlead : quotes lead = [] := by
    rw [quotes_append, quotes_append, quotes_append, quotes_sign condition.comparison.spells_symbol,
      quotes_eq_nil hword fun _ => isWord_of_isQuote]
    rfl
  obtain ⟨hne, hquote⟩ := Writing.quoted_of_last (hrender ▸ w) hlead
  exact ⟨by simpa using hne, hquote⟩

/-- A condition that was read, is written and read again comes out the same if its literal is an
integer, or if the text between its quotes is not empty and has no single quote in it. Otherwise, if
there is a single quote or if the literal is the list of one empty item, what is written is an
invalid condition. -/
theorem parse_render (h : parse text = .ok condition) :
    (condition.literal.Legible → parse condition.render = .ok condition) ∧
      (¬condition.literal.Legible →
        ((∃ content, condition.literal.quoted? = some content ∧ '\'' ∈ content.toList) ∨
          condition.literal = .list [""]) ∧
        parse condition.render = .error (.invalidCondition (.malformed condition.render))) := by
  obtain ⟨w, -⟩ := exists_writing_of_parse h
  obtain ⟨-, hcomparison, hliteral⟩ := w.parse_eq_ok_iff.1 h
  constructor
  · intro hlegible
    obtain ⟨hne, hword, hlower⟩ := field_of_parse h
    obtain ⟨l, hl, hm⟩ := exists_spelling_of_legible hliteral hlegible
    rw [← hcomparison] at hm
    show parse (spaced condition.field condition.comparison condition.literal.render) = _
    rw [parse_spaced hne hword hl hm, hlower]
  · intro hlegible
    exact ⟨not_legible w.spells_literal hliteral hlegible, parse_render_of_not_legible h hlegible⟩

/-- A list between double quotes with an empty item is written between single quotes and read again;
a string with an apostrophe, and the list of a blank, are not. -/
theorem parse_render_apostrophe :
    let list : Condition := ⟨"title", .member, .list ["b", "", "C"]⟩
    let apostrophe : Condition := ⟨"title", .equal, .str "it's"⟩
    let blank : Condition := ⟨"title", .member, .list [""]⟩
    parse "Title IN \" b ,,C\"" = .ok list ∧ list.literal.Legible ∧ parse list.render = .ok list ∧
      parse "title == \"it's\"" = .ok apostrophe ∧ ¬apostrophe.literal.Legible ∧
      parse apostrophe.render = .error (.invalidCondition (.malformed "title == 'it's'")) ∧
      parse "title in ' '" = .ok blank ∧ ¬blank.literal.Legible ∧
      parse blank.render = .error (.invalidCondition (.malformed "title in ''")) := by
  intro list apostrophe blank
  have hlist : parse "Title IN \" b ,,C\"" = .ok list := by decide +kernel
  have hapostrophe : parse "title == \"it's\"" = .ok apostrophe := by decide +kernel
  have hblank : parse "title in ' '" = .ok blank := by decide +kernel
  have hlegible : list.literal.Legible := by
    rintro content ⟨⟩
    decide
  have hquote : ¬apostrophe.literal.Legible := fun h => (h "it's" rfl).2 (by decide)
  have hempty : ¬blank.literal.Legible := fun h => (h "" (by decide)).1 rfl
  exact ⟨hlist, hlegible, (parse_render hlist).1 hlegible, hapostrophe, hquote,
    ((parse_render hapostrophe).2 hquote).2, hblank, hempty, ((parse_render hblank).2 hempty).2⟩

end Condition

end AttributeRules
