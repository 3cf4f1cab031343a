import Mathlib.Algebra.Group.Nat.Defs
import Mathlib.Logic.IsEmpty.Basic
import AttributeRules.Proofs.Condition.Unambiguous
import AttributeRules.Proofs.Text.Trim

/-!
# Which texts are conditions

The reader of conditions takes a writing apart into its word, its sign and its
literal (`Writing.parts?_eq`). Behind the word it reads the parts one after the
other, each as far as it goes (`Writing.tail?_eq`), so that it finds some
writing of the text; and there is no other.

Main statement: the texts that are read are the writings of conditions, but for
those with an integer beyond 64 bits (`parse_grammar`).
-/

namespace AttributeRules

open Text

/-! ## Signs -/

namespace Comparison

variable {c : Comparison} {sign : List Char}

theorem Spells.eq_symbol (h : c.Spells sign) (hc : c ≠ member) : sign = c.symbol.toList := by
  have hcapital : ∀ e ∈ c.symbol.toList, e.toNat < 0x41 := by
    cases c with
    | member => exact absurd rfl hc
    | _ => simp [symbol]
  have hsame : ∀ d ∈ sign, d.toLower = d := by
    intro d hd
    have hlower : d.toLower.toNat < 0x41 := hcapital _ (h ▸ List.mem_map_of_mem hd)
    rw [toNat_toLower] at hlower
    have hd : ¬(0x41 ≤ d.toNat ∧ d.toNat ≤ 0x5A) := by
      intro hd
      rw [if_pos hd] at hlower
      omega
    exact Char.toNat_inj.1 (by rw [toNat_toLower, if_neg hd])
  rw [← show _ = _ from h, List.map_congr_left hsame, List.map_id']

theorem Spells.eq_of_member (h : member.Spells sign) :
    ∃ a ∈ ['i', 'I'], ∃ b ∈ ['n', 'N'], sign = [a, b] := by
  have hsign : sign.map Char.toLower = ['i', 'n'] := h
  obtain ⟨a, sign, rfl, ha, hsign⟩ := List.map_eq_cons_iff.1 hsign
  obtain ⟨b, sign, rfl, hb, hsign⟩ := List.map_eq_cons_iff.1 hsign
  obtain rfl := List.map_eq_nil_iff.1 hsign
  refine ⟨a, ?_, b, ?_, rfl⟩
  · exact of_forall_ofNat (p := fun a => a.toLower = 'i' → a ∈ ['i', 'I']) (by decide)
      (lt_of_toLower_lt (by rw [ha]; decide)) ha
  · exact of_forall_ofNat (p := fun b => b.toLower = 'n' → b ∈ ['n', 'N']) (by decide)
      (lt_of_toLower_lt (by rw [hb]; decide)) hb

/-- A sign in front of a text is read, unless it goes on behind. -/
theorem read?_append (h : c.Spells sign) {r : List Char} (hr : ∀ d ∈ r.head?, d ≠ '=') :
    read? (sign ++ r) = some (c, r) := by
  rcases eq_or_ne c member with rfl | hc
  · obtain ⟨a, ha, b, hb, rfl⟩ := h.eq_of_member
    simp only [List.mem_cons, List.not_mem_nil, or_false] at ha hb
    rcases ha with rfl | rfl <;> rcases hb with rfl | rfl <;> rfl
  · obtain rfl := h.eq_symbol hc
    cases c with
    | greater | less =>
      -- These two are the beginnings of other signs.
      cases r with
      | nil => rfl
      | cons d r =>
        have hd := hr d rfl
        simp [read?, symbol, hd]
    | member => exact absurd rfl hc
    | _ => rfl

end Comparison

namespace Condition

/-! ## Literals -/

namespace Spelling

variable {l : Spelling} {literal : List Char}

theorem Spells.head (h : l.Spells literal) :
    ∀ c ∈ literal.head?, isDigit c = true ∨ isQuote c = true := by
  intro c hc
  cases h with
  | digits _ hdigits => exact .inl (hdigits c (List.mem_of_head? hc))
  | quoted hq =>
    cases hc
    exact .inr hq

/-- A literal in front of a text is read, unless its digits go on behind. -/
theorem Spells.spelling?_append (h : l.Spells literal) {r : List Char}
    (hr : ∀ c ∈ r.head?, isDigit c = false) : spelling? (literal ++ r) = some (l, r) := by
  cases h with
  | digits hne hdigits =>
    obtain ⟨htake, hdrop⟩ := span_run hdigits hr
    obtain ⟨d, ds, rfl⟩ := List.exists_cons_of_ne_nil hne
    have hd := hdigits d List.mem_cons_self
    unfold spelling?
    split
    · next he =>
      cases he
      cases hd
    · next he =>
      cases he
      cases hd
    · rw [htake, hdrop]
  | @quoted q s hq hne hfree =>
    have hread : spelling? (q :: (s ++ q :: r)) = quoted? q (s ++ q :: r) := by
      rcases eq_or_eq_of_isQuote hq with rfl | rfl <;> rfl
    have hclosing : ∀ c ∈ (q :: r).head?, decide (c ≠ q) = false := by
      rintro c ⟨⟩
      exact decide_eq_false (not_not_intro rfl)
    obtain ⟨htake, hdrop⟩ := span_run (ne_of_not_mem hfree) hclosing
    obtain ⟨d, s, rfl⟩ := List.exists_cons_of_ne_nil hne
    rw [List.cons_append, List.append_assoc, List.singleton_append, hread, quoted?, htake, hdrop]

end Spelling

/-! ## What the reader takes apart -/

namespace Writing

variable {s : List Char} (w : Writing s)

/-- Behind the word of a writing its sign and its literal are read. -/
theorem tail?_eq :
    tail? (w.before ++ (w.sign ++ (w.behind ++ (w.literal ++ w.rest)))) =
      some (w.comparison, w.spelling) := by
  have hstart : ∀ c ∈ (w.literal ++ w.rest).head?, isDigit c = true ∨ isQuote c = true :=
    fun c hc => w.spells_literal.head c (mem_of_head?_append w.spells_literal.ne_nil hc)
  have hbefore : trimStart (w.before ++ (w.sign ++ (w.behind ++ (w.literal ++ w.rest)))) =
      w.sign ++ (w.behind ++ (w.literal ++ w.rest)) :=
    (span_run w.blank_before fun c hc => (w.spells_sign.not_blank c
      (List.mem_of_head? (mem_of_head?_append w.spells_sign.ne_nil hc))).1).2
  have hsign : Comparison.read? (w.sign ++ (w.behind ++ (w.literal ++ w.rest))) =
      some (w.comparison, w.behind ++ (w.literal ++ w.rest)) := by
    refine Comparison.read?_append w.spells_sign fun c hc => ?_
    have hc : isBlank c = true ∨ isDigit c = true ∨ isQuote c = true := by
      rcases hb : w.behind with _ | ⟨b, behind⟩
      · rw [hb] at hc
        exact .inr (hstart c hc)
      · rw [hb] at hc
        cases hc
        exact .inl (w.blank_behind c (hb ▸ List.mem_cons_self))
    rintro rfl
    exact absurd hc (by decide)
  have hbehind : trimStart (w.behind ++ (w.literal ++ w.rest)) = w.literal ++ w.rest :=
    (span_run w.blank_behind fun c hc =>
      (hstart c hc).elim isBlank_of_isDigit isBlank_of_isQuote).2
  have hliteral : spelling? (w.literal ++ w.rest) = some (w.spelling, w.rest) :=
    w.spells_literal.spelling?_append fun c hc =>
      isDigit_of_isBlank (w.blank_rest c (List.mem_of_head? hc))
  simp only [tail?, hbefore, hsign, hbehind, hliteral, Option.bind_eq_bind, Option.bind_some,
    List.all_eq_true.2 w.blank_rest, if_true]

/-- A word with a sign and a literal behind it is taken apart in some way. -/
theorem parts?_append_ne_none {word s : List Char} (hne : word ≠ [])
    (hword : ∀ c ∈ word, isWord c = true) (h : tail? s ≠ none) : parts? (word ++ s) ≠ none := by
  induction word with
  | nil => exact absurd rfl hne
  | cons c word ih =>
    rw [List.cons_append, parts?, if_pos (hword c List.mem_cons_self)]
    split
    · exact Option.some_ne_none _
    · next hnone =>
      -- The word has no further character, or else there would be parts behind this one.
      have hnil : word = [] := by
        by_contra hne
        exact ih hne (fun d hd => hword d (List.mem_cons_of_mem c hd)) hnone
      rw [hnil, List.nil_append]
      exact fun hmap => h (Option.map_eq_none_iff.1 hmap)

/-- A writing is taken apart into its word, what its sign means and what its literal is. -/
theorem parts?_eq : parts? s = some (w.word, w.comparison, w.spelling) := by
  have htail : tail? (w.before ++ (w.sign ++ (w.behind ++ (w.literal ++ w.rest)))) ≠ none := by
    rw [w.tail?_eq]
    exact Option.some_ne_none _
  have hparts : parts? s ≠ none := by
    rw [w.eq_append]
    exact parts?_append_ne_none w.word_ne_nil w.isWord_of_mem htail
  obtain ⟨⟨word, comparison, spelling⟩, hsome⟩ := Option.ne_none_iff_exists'.1 hparts
  obtain ⟨w', rfl, rfl, rfl⟩ := exists_writing_of_parts? hsome
  rw [hsome, w'.unique w]

end Writing

/-! ## What literals mean -/

/-- What the literal of a condition is taken for: a list after `in`, else a string or an
integer. -/
inductive Denotes : Comparison → Spelling → Literal → Prop
  /-- The pieces between the commas, without the blanks at their ends. -/
  | list (l : Spelling) : Denotes .member l
      (.list ((l.content.splitOn ',').map fun p => String.ofList (trim p)))
  | str {c : Comparison} (hc : c ≠ .member) (s : List Char) :
      Denotes c (.quoted s) (.str (String.ofList s))
  | int {c : Comparison} (hc : c ≠ .member) {ds : List Char} {n : Int64}
      (hn : n.toInt = decimalValue ds) : Denotes c (.digits ds) (.int n)

variable {c : Comparison} {l : Spelling}

theorem meaning?_of_ne_member (hc : c ≠ .member) :
    meaning? c l = match l with
      | .quoted s => some (.str (String.ofList s))
      | .digits ds => (int64? (decimalValue ds)).map .int := by
  cases c with
  | member => exact absurd rfl hc
  | _ => cases l <;> rfl

/-- The meaning of a literal is what it is taken for. -/
theorem meaning?_eq_some_iff {literal : Literal} :
    meaning? c l = some literal ↔ Denotes c l literal := by
  constructor
  · intro h
    rcases eq_or_ne c .member with rfl | hc
    · cases h
      rw [pieces_eq_splitOn]
      exact .list l
    · rw [meaning?_of_ne_member hc] at h
      cases l with
      | quoted s =>
        cases h
        exact .str hc s
      | digits ds =>
        obtain ⟨n, hn, rfl⟩ := Option.map_eq_some_iff.1 h
        exact .int hc (int64?_eq_some_iff.1 hn)
  · intro h
    cases h with
    | list => rw [meaning?, pieces_eq_splitOn]
    | str hc s => rw [meaning?_of_ne_member hc]
    | int hc hn => simp only [meaning?_of_ne_member hc, int64?_eq_some_iff.2 hn, Option.map_some]

/-- A literal means something unless it is an integer beyond 64 bits. -/
theorem exists_denotes_iff : (∃ literal, Denotes c l literal) ↔
    (c ≠ .member → ∀ ds, l = .digits ds → decimalValue ds ≤ 2 ^ 63 - 1) := by
  constructor
  · rintro ⟨_, h⟩ hc ds rfl
    cases h with
    | list => exact absurd rfl hc
    | @int _ _ _ n hn =>
      have := n.toInt_lt
      omega
  · intro h
    rcases eq_or_ne c .member with rfl | hc
    · exact ⟨_, .list l⟩
    cases l with
    | quoted s => exact ⟨_, .str hc s⟩
    | digits ds =>
      have hle := h hc ds rfl
      exact ⟨_, .int hc (Int64.toInt_ofInt_of_le (by omega) (by omega))⟩

/-! ## Reading -/

variable {text : String}

theorem Writing.parse_of_none (w : Writing text.toList)
    (h : meaning? w.comparison w.spelling = none) :
    parse text = .error (.invalidCondition (.outOfRange text)) := by
  simp only [parse, w.parts?_eq, h]

theorem Writing.parse_of_some (w : Writing text.toList) {literal : Literal}
    (h : meaning? w.comparison w.spelling = some literal) :
    parse text = .ok ⟨lowercase (String.ofList w.word), w.comparison, literal⟩ := by
  simp only [parse, w.parts?_eq, h]

/-- A writing is read as the condition with its word, its comparison and what its literal is taken
for. -/
theorem Writing.parse_eq_ok_iff (w : Writing text.toList) {c : Condition} :
    parse text = .ok c ↔ c.field = lowercase (String.ofList w.word) ∧
      c.comparison = w.comparison ∧ Denotes w.comparison w.spelling c.literal := by
  rw [← meaning?_eq_some_iff]
  rcases c with ⟨field, comparison, l⟩
  rcases h : meaning? w.comparison w.spelling with _ | literal
  · simp [w.parse_of_none h]
  · simp [w.parse_of_some h, eq_comm]

/-- A text is the writing of a condition in one way at most. It is read if it is one, and its
literal is not an integer beyond 64 bits: as the condition with its word, lowercased, its comparison
and what its literal is taken for. Every other text is an invalid condition. -/
theorem parse_grammar (text : String) :
    (∀ w w' : Writing text.toList, w = w') ∧
      (∀ c, parse text = .ok c ↔ ∃ w : Writing text.toList,
        c.field = lowercase (String.ofList w.word) ∧ c.comparison = w.comparison ∧
          Denotes w.comparison w.spelling c.literal) ∧
      ((∃ c, parse text = .ok c) ↔ ∃ w : Writing text.toList, w.comparison ≠ .member →
        ∀ ds, w.spelling = .digits ds → decimalValue ds ≤ 2 ^ 63 - 1) ∧
      ((∃ c, parse text = .ok c) ∨ ∃ cause, parse text = .error (.invalidCondition cause)) := by
  have hread : ∀ c, parse text = .ok c ↔ ∃ w : Writing text.toList,
      c.field = lowercase (String.ofList w.word) ∧ c.comparison = w.comparison ∧
        Denotes w.comparison w.spelling c.literal := by
    intro c
    constructor
    · intro h
      obtain ⟨w, -⟩ := exists_writing_of_parse h
      exact ⟨w, w.parse_eq_ok_iff.1 h⟩
    · rintro ⟨w, h⟩
      exact w.parse_eq_ok_iff.2 h
  refine ⟨Writing.unique, hread, ⟨?_, ?_⟩, ?_⟩
  · rintro ⟨c, h⟩
    obtain ⟨w, -, -, hliteral⟩ := (hread c).1 h
    exact ⟨w, exists_denotes_iff.1 ⟨_, hliteral⟩⟩
  · rintro ⟨w, hfits⟩
    obtain ⟨literal, hliteral⟩ := exists_denotes_iff.2 hfits
    exact ⟨⟨_, _, literal⟩, w.parse_eq_ok_iff.2 ⟨rfl, rfl, hliteral⟩⟩
  · rcases isEmpty_or_nonempty (Writing text.toList) with hnone | ⟨⟨w⟩⟩
    · exact .inr ⟨_, parse_of_isEmpty hnone⟩
    · rcases h : meaning? w.comparison w.spelling with _ | literal
      · exact .inr ⟨_, w.parse_of_none h⟩
      · exact .inl ⟨_, w.parse_of_some h⟩

/-- The word goes as far as a sign and a literal are left. -/
example : parse "5in5in5" = .ok ⟨"5in5", .member, .list ["5"]⟩ := by decide +kernel

/-- Zeros may lead, and 64 bits are enough up to 2 ^ 63 - 1. -/
example : parse "age == 007" = .ok ⟨"age", .equal, .int 7⟩ ∧
    parse "age <= 9223372036854775807" = .ok ⟨"age", .lessEqual, .int Int64.maxValue⟩ ∧
    parse "age <= 9223372036854775808" =
      .error (.invalidCondition (.outOfRange "age <= 9223372036854775808")) := by decide +kernel

end Condition

end AttributeRules
