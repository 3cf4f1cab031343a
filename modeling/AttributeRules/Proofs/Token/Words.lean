import Mathlib.Data.List.SplitBy
import AttributeRules.Proofs.Token.ConditionText
import AttributeRules.Proofs.Token.Separator

/-!
# Rules word by word

A rule can also be read by its words, without looking for separators in it. It
is cut into runs of word characters, each as long as it can be, and the single
characters between them (`words`). Some of these pieces are separators
(`ofPiece?`), and what stands between two of them is the text of a condition,
unless it is blank (`stretches`, `ofStretch`). This gives the same tokens
(`scan_eq_ofWords`).

Main statement: `ofRule_words`.
-/

namespace AttributeRules.Token

open Text

/-! ## Words -/

/-- The text cut into runs of word characters, each as long as it can be, and the single other
characters between them. -/
def words (s : List Char) : List (List Char) := s.splitBy fun c d => isWord c && isWord d

/-- The separator that a piece of text is: a parenthesis, or the word of a connective in any letter
case. -/
def ofPiece? (piece : List Char) : Option Token :=
  if piece = ['('] then some opening
  else if piece = [')'] then some closing
  else if Connective.and.Spells piece then some (keyword .and)
  else if Connective.or.Spells piece then some (keyword .or)
  else none

/-- The text before the first separator, and each separator with the text between it and the
next. -/
def stretches : List (List Char) → List Char × List (Token × List Char)
  | [] => ([], [])
  | piece :: pieces =>
    let (text, found) := stretches pieces
    match ofPiece? piece with
    | some separator => ([], (separator, text) :: found)
    | none => (piece ++ text, found)

/-- The text of a condition as it is kept: lowercased as a whole, or as it is. -/
def kept (mode : CaseMode) (s : List Char) : String :=
  match mode with
  | .verbatim | .foldContext => lowercase (String.ofList s)
  | .preserveLiterals => String.ofList s

/-- The condition in a text between separators: what is left when it is trimmed, if anything is. -/
def ofStretch (mode : CaseMode) (s : List Char) : List Token :=
  if trim s = [] then [] else [condition (kept mode (trim s))]

/-- The tokens of a text by its words: the separators among them, and the conditions between. -/
def ofWords (mode : CaseMode) (s : List Char) : List Token :=
  let (text, found) := stretches (words s)
  ofStretch mode text ++ found.flatMap fun (separator, text) => separator :: ofStretch mode text

/-! ## One piece at the front -/

/-- A piece at the front of a text: a character outside words, or a word that does not go on. -/
inductive Front : List Char → List Char → Prop
  | other {c : Char} (s : List Char) : isWord c = false → Front [c] s
  | word {w s : List Char} : w ≠ [] → (∀ c ∈ w, isWord c = true) → startsInWord s = false →
    Front w s

theorem Front.ne_nil {piece s : List Char} (h : Front piece s) : piece ≠ [] := by
  cases h with
  | other => exact List.cons_ne_nil _ []
  | word hne => exact hne

theorem exists_front {s : List Char} (h : s ≠ []) :
    ∃ piece rest, s = piece ++ rest ∧ Front piece rest := by
  obtain ⟨c, s, rfl⟩ := List.exists_cons_of_ne_nil h
  cases hc : isWord c with
  | false => exact ⟨[c], s, rfl, .other s hc⟩
  | true =>
    have hne : (c :: s).takeWhile isWord ≠ [] := by
      rw [List.takeWhile_cons_of_pos hc]
      exact List.cons_ne_nil _ _
    have hword : ∀ d ∈ (c :: s).takeWhile isWord, isWord d = true :=
      fun d hd => List.mem_takeWhile_imp hd
    refine ⟨_, _, List.takeWhile_append_dropWhile.symm, .word hne hword ?_⟩
    have hstop := List.head?_dropWhile_not isWord (c :: s)
    rcases hrest : (c :: s).dropWhile isWord with _ | ⟨d, rest⟩
    · rfl
    · rw [hrest] at hstop
      exact hstop

/-- What holds of the empty text, and of a text with one piece more in front, holds of all texts. -/
theorem front_induction {P : List Char → Prop} (nil : P [])
    (front : ∀ piece s, Front piece s → P s → P (piece ++ s)) (s : List Char) : P s := by
  induction h : s.length using Nat.strongRecOn generalizing s with
  | ind n ih =>
    rcases eq_or_ne s [] with rfl | hne
    · exact nil
    · obtain ⟨piece, rest, rfl, hfront⟩ := exists_front hne
      refine front piece rest hfront (ih rest.length ?_ rest rfl)
      have := List.length_pos_of_ne_nil hfront.ne_nil
      rw [List.length_append] at h
      omega

theorem cut_true_eq {s : List Char} (h : startsInWord s = false) : cut true s = cut false s := by
  cases s with
  | nil => rfl
  | cons c s =>
    have hsep : separator? true (c :: s) = separator? false (c :: s) := by
      rw [separator?_cons, separator?_cons, keyword?_of_not_isWord h]
      rfl
    rw [cut, cut, hsep]

theorem ofPiece?_of_isWord {piece : List Char} (h : ∀ c ∈ piece, isWord c = true) :
    (∃ op : Connective, op.Spells piece ∧ ofPiece? piece = some (keyword op)) ∨
      ((∀ op : Connective, ¬op.Spells piece) ∧ ofPiece? piece = none) := by
  have ho : piece ≠ ['('] := by
    rintro rfl
    exact absurd (h '(' List.mem_cons_self) (by decide)
  have hc : piece ≠ [')'] := by
    rintro rfl
    exact absurd (h ')' List.mem_cons_self) (by decide)
  rw [ofPiece?, if_neg ho, if_neg hc]
  split_ifs with hand hor
  · exact .inl ⟨.and, hand, rfl⟩
  · exact .inl ⟨.or, hor, rfl⟩
  · refine .inr ⟨fun op => ?_, rfl⟩
    cases op with
    | and => exact hand
    | or => exact hor

theorem ofPiece?_singleton {c : Char} (h : isWord c = false) :
    ofPiece? [c] = if c = '(' then some opening else if c = ')' then some closing else none := by
  have hspells : ∀ op : Connective, ¬op.Spells [c] := by
    intro op hop
    rw [hop.isWord c List.mem_cons_self] at h
    cases h
  rw [ofPiece?, if_neg (hspells .and), if_neg (hspells .or)]
  simp only [List.cons.injEq, and_true]

namespace Front

variable {piece s : List Char}

/-- The piece at the front is the first of the words. -/
theorem words_eq (h : Front piece s) : words (piece ++ s) = piece :: words s := by
  cases h with
  | @other c s hc =>
    rw [words, List.splitBy_append (by simp [hc])]
    rfl
  | word hne hw hs =>
    have hchain : piece.IsChain fun c d => (isWord c && isWord d) = true :=
      (List.pairwise_of_forall_mem_list fun c hc d hd => by
        rw [hw c hc, hw d hd, Bool.and_self]).isChain
    have hseam : ∀ x ∈ piece.getLast?, ∀ y ∈ s.head?, (isWord x && isWord y) = false := by
      intro x _ y hy
      cases s with
      | nil => cases hy
      | cons d s =>
        cases hy
        rw [show isWord y = false from hs, Bool.and_false]
    rw [words, List.splitBy_append hseam, List.splitBy_of_isChain hne hchain]
    rfl

/-- The piece at the front is the first separator, or it belongs to the text before that. -/
theorem cut_eq (h : Front piece s) :
    cut false (piece ++ s) =
      match ofPiece? piece with
      | some separator => ([], some (separator, s))
      | none => (piece ++ (cut false s).1, (cut false s).2) := by
  cases h with
  | @other c s hc =>
    have hsep := separator?_cons false c s
    rw [keyword?_of_not_isWord hc, Option.map_none, if_neg Bool.false_ne_true] at hsep
    rw [ofPiece?_singleton hc, List.singleton_append]
    split_ifs at hsep ⊢ with ho hcl
    · exact cut_of_some hsep
    · exact cut_of_some hsep
    · rw [cut_of_none hsep, hc]
      rfl
  | word hne hw hs =>
    rcases ofPiece?_of_isWord hw with ⟨op, hop, hpiece⟩ | ⟨hnone, hpiece⟩
    · have hsep := separator?_keyword hop hs
      obtain ⟨c, piece, rfl⟩ := List.exists_cons_of_ne_nil hne
      rw [hpiece]
      exact cut_of_some hsep
    · have hhead : ∀ c ∈ s.head?, c.toLower ∉ keywordLetters := by
        intro c hc
        cases s with
        | nil => cases hc
        | cons d s =>
          cases hc
          exact not_mem_keywordLetters hs
      rw [hpiece, cut_word_append hne hw hnone hhead, cut_true_eq hs]

end Front

/-! ## The two readings -/

/-- The words of a text before its first separator, and those behind. -/
theorem stretches_words (s : List Char) :
    stretches (words s) =
      match cut false s with
      | (text, none) => (text, [])
      | (text, some (separator, rest)) =>
        (text, (separator, (stretches (words rest)).1) :: (stretches (words rest)).2) := by
  induction s using front_induction with
  | nil => rfl
  | front piece s h ih =>
    rw [h.words_eq, h.cut_eq, stretches, ih]
    rcases ofPiece? piece with _ | separator
    · rcases cut false s with ⟨text, _ | ⟨separator, rest⟩⟩ <;> rfl
    · rw [← ih]

theorem ofText_eq_ofStretch (mode : CaseMode) (s : List Char) :
    ofText mode s = ofStretch mode s := by
  rw [ofText, ofStretch]
  split
  · next h => rw [if_pos h]
  · next h =>
    rw [if_neg h]
    cases mode <;> rfl

/-- Cutting a text at its separators gives the tokens that its words give. -/
theorem scan_eq_ofWords (mode : CaseMode) (s : List Char) : scan mode s = ofWords mode s := by
  fun_induction scan mode s with
  | case1 s text h =>
    rw [ofWords, stretches_words, h, ofText_eq_ofStretch]
    exact (List.append_nil _).symm
  | case2 s text separator rest h _ ih =>
    rw [ofWords, stretches_words, h, ofText_eq_ofStretch, ih]
    rfl

/-! ## What the tokens hold -/

/-- Whether the token is a separator, and no condition. -/
def isSeparator : Token → Bool
  | condition _ => false
  | opening | closing | keyword _ => true

/-- The token is written as this text. -/
inductive Writes (mode : CaseMode) : Token → List Char → Prop
  | opening : Writes mode opening ['(']
  | closing : Writes mode closing [')']
  | keyword {op : Connective} {k : List Char} : op.Spells k → Writes mode (keyword op) k
  | condition (s : List Char) : Writes mode (condition (kept mode s)) s

/-- The tokens are written in the text one after the other, with nothing but blanks around them. -/
inductive Covers (mode : CaseMode) : List Token → List Char → Prop
  | blank {b : List Char} : (∀ c ∈ b, isBlank c = true) → Covers mode [] b
  | cons {b w s : List Char} {t : Token} {ts : List Token} : (∀ c ∈ b, isBlank c = true) →
    Writes mode t w → Covers mode ts s → Covers mode (t :: ts) (b ++ (w ++ s))

variable {mode : CaseMode}

theorem Covers.blank_append {b s : List Char} {ts : List Token} (h : Covers mode ts s)
    (hb : ∀ c ∈ b, isBlank c = true) : Covers mode ts (b ++ s) := by
  cases h with
  | blank hs => exact .blank (List.forall_mem_append.2 ⟨hb, hs⟩)
  | cons hs hw h =>
    rw [← List.append_assoc]
    exact .cons (List.forall_mem_append.2 ⟨hb, hs⟩) hw h

/-- A text between separators is covered by the condition in it. -/
theorem Covers.ofStretch_append {s : List Char} {ts : List Token} (h : Covers mode ts s)
    (text : List Char) : Covers mode (ofStretch mode text ++ ts) (text ++ s) := by
  obtain ⟨before, after, htext, hbefore, hafter⟩ := trim_spec text
  have hrest : Covers mode ts (after ++ s) := h.blank_append hafter
  rw [ofStretch]
  split_ifs with hnil
  · rw [hnil, List.append_nil] at htext
    rw [htext, List.append_assoc]
    exact hrest.blank_append hbefore
  · have hsplit : text ++ s = before ++ (trim text ++ (after ++ s)) := by
      rw [← List.append_assoc, ← List.append_assoc, ← htext]
    rw [hsplit]
    exact .cons hbefore (.condition (trim text)) hrest

theorem exists_writes_of_separator? {afterWord : Bool} {s rest : List Char} {t : Token}
    (h : separator? afterWord s = some (t, rest)) :
    ∃ w, s = w ++ rest ∧ Writes mode t w ∧ t.isSeparator = true := by
  cases s with
  | nil =>
    rw [separator?_nil] at h
    cases h
  | cons c s =>
    rw [separator?_cons] at h
    split_ifs at h with ho hc
    · cases h
      exact ⟨['('], by rw [ho]; rfl, .opening, rfl⟩
    · cases h
      exact ⟨[')'], by rw [hc]; rfl, .closing, rfl⟩
    · obtain ⟨⟨op, r⟩, hk, he⟩ := Option.map_eq_some_iff.1 h
      cases he
      obtain ⟨k, hs, hspells, -⟩ := keyword?_eq_some_iff.1 hk
      exact ⟨k, hs, .keyword hspells, rfl⟩

/-- Nothing but blanks is dropped. -/
theorem covers_scan (mode : CaseMode) (s : List Char) : Covers mode (scan mode s) s := by
  fun_induction scan mode s with
  | case1 s text h =>
    have hnone : (cut false s).2 = none := by rw [h]
    have hwhole : text = s := by rw [← cut_fst_of_none hnone, h]
    have hcovers : Covers mode (ofStretch mode text ++ []) (text ++ []) :=
      (Covers.blank (List.forall_mem_nil _)).ofStretch_append text
    rw [ofText_eq_ofStretch, ← hwhole]
    rwa [List.append_nil, List.append_nil] at hcovers
  | case2 s text separator rest h _ ih =>
    obtain ⟨sep, rfl, hsep⟩ := cut_eq_some h
    obtain ⟨w, rfl, hw, -⟩ := exists_writes_of_separator? hsep
    rw [ofText_eq_ofStretch]
    have hcovers : Covers mode (separator :: scan mode rest) ([] ++ (w ++ rest)) :=
      .cons (List.forall_mem_nil _) hw ih
    exact hcovers.ofStretch_append text

theorem isChain_ofStretch_append (mode : CaseMode) (text : List Char) {ts : List Token}
    (hhead : ∀ t ∈ ts.head?, t.isSeparator = true)
    (h : ts.IsChain fun t u => t.isSeparator = true ∨ u.isSeparator = true) :
    (ofStretch mode text ++ ts).IsChain fun t u =>
      t.isSeparator = true ∨ u.isSeparator = true := by
  rw [ofStretch]
  split_ifs
  · exact h
  · exact List.isChain_cons.2 ⟨fun t ht => .inr (hhead t ht), h⟩

/-- Of two tokens that follow each other one is a separator. -/
theorem isChain_scan (mode : CaseMode) (s : List Char) :
    (scan mode s).IsChain fun t u => t.isSeparator = true ∨ u.isSeparator = true := by
  fun_induction scan mode s with
  | case1 s text h =>
    rw [ofText_eq_ofStretch, ← List.append_nil (ofStretch mode text)]
    exact isChain_ofStretch_append mode text (by simp) .nil
  | case2 s text separator rest h _ ih =>
    obtain ⟨sep, -, hsep⟩ := cut_eq_some h
    obtain ⟨-, -, -, hseparator⟩ := @exists_writes_of_separator? mode _ _ _ _ hsep
    have hrest : (separator :: scan mode rest).IsChain fun t u =>
        t.isSeparator = true ∨ u.isSeparator = true :=
      List.isChain_cons.2 ⟨fun _ _ => .inl hseparator, ih⟩
    rw [ofText_eq_ofStretch]
    refine isChain_ofStretch_append mode text ?_ hrest
    rintro _ ⟨⟩
    exact hseparator

theorem filter_isSeparator_ofStretch (mode : CaseMode) (s : List Char) :
    (ofStretch mode s).filter isSeparator = [] := by
  rw [ofStretch]
  split_ifs <;> rfl

theorem isSeparator_of_ofPiece? {piece : List Char} {t : Token} (h : ofPiece? piece = some t) :
    t.isSeparator = true := by
  unfold ofPiece? at h
  split_ifs at h <;> cases h <;> rfl

theorem filter_isSeparator_ofWords (mode : CaseMode) (s : List Char) :
    (ofWords mode s).filter isSeparator = (words s).filterMap ofPiece? := by
  rw [ofWords, List.filter_append, filter_isSeparator_ofStretch, List.nil_append]
  induction words s with
  | nil => rfl
  | cons piece pieces ih =>
    rw [stretches, List.filterMap_cons]
    cases hpiece : ofPiece? piece with
    | none => exact ih
    | some separator =>
      simp only [List.flatMap_cons, List.filter_append, ih, List.filter_cons,
        isSeparator_of_ofPiece? hpiece, if_true, filter_isSeparator_ofStretch, List.cons_append,
        List.nil_append]

/-- A rule is blank, which is an error, or it has the tokens of its words: one for each of them that
is a separator, and between two of these the text there, trimmed, if it is not blank. So nothing but
blanks is dropped, no two conditions follow each other, and a keyword within a longer word is no
token. -/
theorem ofRule_words (mode : CaseMode) (rule : String) :
    ((ofRule mode rule).outcome = .error .emptyRule ↔ ∀ c ∈ rule.toList, isBlank c = true) ∧
    ((∃ c ∈ rule.toList, isBlank c = false) →
      (ofRule mode rule).outcome = .ok (ofWords mode rule.toList)) ∧
    Covers mode (ofWords mode rule.toList) rule.toList ∧
    ((ofWords mode rule.toList).IsChain fun t u => t.isSeparator = true ∨ u.isSeparator = true) ∧
    (ofWords mode rule.toList).filter isSeparator = (words rule.toList).filterMap ofPiece? := by
  rw [← scan_eq_ofWords]
  refine ⟨?_, fun ⟨c, hmem, hc⟩ => ?_, covers_scan mode _, isChain_scan mode _, ?_⟩
  · rw [← List.all_eq_true, ofRule]
    split_ifs with hblank
    · exact iff_of_true rfl hblank
    · exact iff_of_false (by rintro ⟨⟩) hblank
  · have hblank : rule.toList.all isBlank = false :=
      List.all_eq_false.2 ⟨c, hmem, by rw [hc]; exact Bool.false_ne_true⟩
    exact outcome_ofRule_eq_ok.2 ⟨hblank, rfl⟩
  · rw [scan_eq_ofWords, filter_isSeparator_ofWords]

/-- A mark makes a longer word of a keyword, and so do a digit and a line below it; quotes do not
hide one. -/
theorem ofRule_words_marks :
    let rule := "AND\u0301 OR(x_or == 'Σ and ΑΣ')oR2"
    (∃ c ∈ rule.toList, isBlank c = false) ∧
      (ofRule .verbatim rule).outcome = .ok [.condition "and\u0301", .keyword .or, .opening,
        .condition "x_or == 'σ", .keyword .and, .condition "ας'", .closing, .condition "or2"] := by
  intro rule
  have hsome : ∃ c ∈ rule.toList, isBlank c = false := ⟨'A', by decide, by decide⟩
  refine ⟨hsome, ?_⟩
  rw [(ofRule_words .verbatim rule).2.1 hsome]
  decide +kernel

end AttributeRules.Token
