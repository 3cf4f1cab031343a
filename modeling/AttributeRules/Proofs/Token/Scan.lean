import AttributeRules.Proofs.Text.Trim
import AttributeRules.Proofs.Token.Keyword

/-!
# Texts put together from parts

The cut of a text of two parts is that of the first part
(`cut_append_of_some`), or the second part is cut after it
(`cut_append_of_none`), unless a word runs across the seam. A parenthesis, or a
keyword between blanks, divides a text into two that are scanned on their own
(`scan_opening`, `scan_closing`, `scan_keyword`).
-/

namespace AttributeRules

open Text

namespace Token

/-- Whether a word goes on behind the text; `afterWord` says so of what stands before it. -/
def endsInWord (afterWord : Bool) : List Char → Bool
  | [] => afterWord
  | c :: s => endsInWord (isWord c) s

theorem endsInWord_of_isWord {s : List Char} (hs : s ≠ []) (h : ∀ c ∈ s, isWord c = true)
    (afterWord : Bool) : endsInWord afterWord s = true := by
  induction s generalizing afterWord with
  | nil => exact absurd rfl hs
  | cons c s ih =>
    rw [endsInWord, h c List.mem_cons_self]
    cases s with
    | nil => rfl
    | cons d s => exact ih (by simp) (fun e he => h e (List.mem_cons_of_mem _ he)) _

/-- No word runs from `s`, which stands behind a word or not, into `r`. -/
def Seam (afterWord : Bool) (s r : List Char) : Prop :=
  endsInWord afterWord s = true → startsInWord r = false

theorem Seam.of_start {r : List Char} (h : startsInWord r = false) (afterWord : Bool)
    (s : List Char) : Seam afterWord s r := fun _ => h

theorem startsInWord_append {s r : List Char} (hs : startsInWord s = false)
    (hr : s = [] → startsInWord r = false) : startsInWord (s ++ r) = false := by
  cases s with
  | nil => exact hr rfl
  | cons c s => exact hs

/-! ## Separators across a seam -/

theorem separator?_nil (afterWord : Bool) : separator? afterWord [] = none := by
  cases afterWord <;> rfl

theorem separator?_cons (afterWord : Bool) (c : Char) (s : List Char) :
    separator? afterWord (c :: s) =
      if c = '(' then some (opening, s)
      else if c = ')' then some (closing, s)
      else if afterWord then none
      else (keyword? (c :: s)).map fun (op, r) => (keyword op, r) := by
  unfold separator?
  split
  · next he => simp_all
  · next he => simp_all
  · next hopen hclose =>
    have ho : c ≠ '(' := fun hc => hopen s (by rw [hc])
    have hcl : c ≠ ')' := fun hc => hclose s (by rw [hc])
    rw [if_neg ho, if_neg hcl]

theorem keyword?_append {afterWord : Bool} {s r : List Char} (hs : s ≠ [])
    (h : Seam afterWord s r) :
    keyword? (s ++ r) = (keyword? s).map fun (op, rest) => (op, rest ++ r) := by
  refine Option.ext fun ⟨op, q⟩ => ?_
  simp only [keyword?_eq_some_iff, Option.map_eq_some_iff, Prod.mk.injEq, Prod.exists]
  constructor
  · rintro ⟨k, hk, hspells, hq⟩
    rcases List.append_eq_append_iff.1 hk with ⟨a, rfl, rfl⟩ | ⟨a, rfl, rfl⟩
    · have hword := hspells.isWord
      have hr := h (endsInWord_of_isWord hs (fun c hc => hword c (List.mem_append_left _ hc)) _)
      cases a with
      | nil => exact ⟨op, [], ⟨s, by simp, by simpa using hspells, rfl⟩, rfl, by simp⟩
      | cons c a =>
        have hc := hword c (by simp)
        rw [List.cons_append, startsInWord, hc] at hr
        cases hr
    · refine ⟨op, a, ⟨k, rfl, hspells, ?_⟩, rfl, rfl⟩
      cases a with
      | nil => rfl
      | cons c a => exact hq
  · rintro ⟨op, rest, ⟨k, rfl, hspells, hrest⟩, rfl, rfl⟩
    refine ⟨k, List.append_assoc .., hspells, startsInWord_append hrest ?_⟩
    rintro rfl
    exact h (endsInWord_of_isWord hs (by simpa using hspells.isWord) _)

/-- What separates at the front of the first part is what separates at the front of the whole. -/
theorem separator?_append {afterWord : Bool} {s r : List Char} (hs : s ≠ [])
    (h : Seam afterWord s r) :
    separator? afterWord (s ++ r) =
      (separator? afterWord s).map fun (t, rest) => (t, rest ++ r) := by
  obtain ⟨c, s, rfl⟩ := List.exists_cons_of_ne_nil hs
  have hk := keyword?_append hs h
  rw [List.cons_append] at hk ⊢
  simp only [separator?_cons, hk]
  split
  · rfl
  split
  · rfl
  split
  · rfl
  · simp only [Option.map_map, Function.comp_def]

/-- No separator starts within a word. -/
theorem startsInWord_of_separator?_true {s : List Char} {found : Token × List Char}
    (h : separator? true s = some found) : startsInWord s = false := by
  cases s with
  | nil => rfl
  | cons c s =>
    rw [separator?_cons] at h
    split at h
    · next hc => exact hc ▸ (by decide : isWord '(' = false)
    split at h
    · next hc => exact hc ▸ (by decide : isWord ')' = false)
    · cases h

/-! ## Cuts -/

theorem cut_of_some {afterWord : Bool} {c : Char} {s : List Char} {found : Token × List Char}
    (h : separator? afterWord (c :: s) = some found) :
    cut afterWord (c :: s) = ([], some found) := by
  rw [cut, h]

theorem cut_of_none {afterWord : Bool} {c : Char} {s : List Char}
    (h : separator? afterWord (c :: s) = none) :
    cut afterWord (c :: s) = (c :: (cut (isWord c) s).1, (cut (isWord c) s).2) := by
  rw [cut, h]

theorem cut_cons_eq_none {afterWord : Bool} {c : Char} {s : List Char} :
    (cut afterWord (c :: s)).2 = none ↔
      separator? afterWord (c :: s) = none ∧ (cut (isWord c) s).2 = none := by
  rcases hs : separator? afterWord (c :: s) with _ | found
  · simp [cut_of_none hs]
  · simp [cut_of_some hs]

theorem cut_cons_eq_some {afterWord : Bool} {c : Char} {s u : List Char}
    {found : Token × List Char} (h : cut afterWord (c :: s) = (u, some found)) :
    (u = [] ∧ separator? afterWord (c :: s) = some found) ∨
      ∃ v, u = c :: v ∧ separator? afterWord (c :: s) = none ∧
        cut (isWord c) s = (v, some found) := by
  rcases hs : separator? afterWord (c :: s) with _ | found'
  · rw [cut_of_none hs] at h
    obtain ⟨rfl, hfound⟩ := Prod.mk.inj h
    exact .inr ⟨_, rfl, rfl, Prod.ext rfl hfound⟩
  · rw [cut_of_some hs] at h
    obtain ⟨rfl, hfound⟩ := Prod.mk.inj h
    exact .inl ⟨rfl, hfound⟩

theorem cut_fst_of_none {afterWord : Bool} {s : List Char} (h : (cut afterWord s).2 = none) :
    (cut afterWord s).1 = s := by
  induction s generalizing afterWord with
  | nil => rfl
  | cons c s ih =>
    obtain ⟨hs, hrest⟩ := cut_cons_eq_none.1 h
    rw [cut_of_none hs]
    exact congrArg (c :: ·) (ih hrest)

theorem cut_eq_some {afterWord : Bool} {s u rest : List Char} {t : Token}
    (h : cut afterWord s = (u, some (t, rest))) :
    ∃ sep, s = u ++ sep ∧ separator? (endsInWord afterWord u) sep = some (t, rest) := by
  induction s generalizing afterWord u with
  | nil => cases h
  | cons c s ih =>
    rcases cut_cons_eq_some h with ⟨rfl, hs⟩ | ⟨v, rfl, -, hrest⟩
    · exact ⟨c :: s, rfl, hs⟩
    · obtain ⟨sep, rfl, hsep⟩ := ih hrest
      exact ⟨sep, rfl, hsep⟩

/-- A separator in the first part is the first of the whole. -/
theorem cut_append_of_some {afterWord : Bool} {s r u rest : List Char} {t : Token}
    (hseam : Seam afterWord s r) (h : cut afterWord s = (u, some (t, rest))) :
    cut afterWord (s ++ r) = (u, some (t, rest ++ r)) := by
  induction s generalizing afterWord u with
  | nil => cases h
  | cons c s ih =>
    have happ := separator?_append (List.cons_ne_nil c s) hseam
    rcases cut_cons_eq_some h with ⟨rfl, hs⟩ | ⟨v, rfl, hs, hrest⟩
    · rw [hs, Option.map_some, List.cons_append] at happ
      rw [List.cons_append, cut_of_some happ]
    · rw [hs, Option.map_none, List.cons_append] at happ
      rw [List.cons_append, cut_of_none happ, ih hseam hrest]

/-- If the first part has no separator, the second one is cut. -/
theorem cut_append_of_none {afterWord : Bool} {s r : List Char} (hseam : Seam afterWord s r)
    (h : (cut afterWord s).2 = none) :
    cut afterWord (s ++ r) =
      (s ++ (cut (endsInWord afterWord s) r).1, (cut (endsInWord afterWord s) r).2) := by
  induction s generalizing afterWord with
  | nil => rfl
  | cons c s ih =>
    obtain ⟨hs, hrest⟩ := cut_cons_eq_none.1 h
    have happ := separator?_append (List.cons_ne_nil c s) hseam
    rw [hs, Option.map_none, List.cons_append] at happ
    rw [List.cons_append, cut_of_none happ, ih hseam hrest]
    rfl

theorem cut_snd_of_append {afterWord : Bool} {s r : List Char} (hseam : Seam afterWord s r)
    (h : (cut afterWord (s ++ r)).2 = none) : (cut afterWord s).2 = none := by
  rcases hc : cut afterWord s with ⟨u, _ | ⟨t, rest⟩⟩
  · rfl
  · rw [cut_append_of_some hseam hc] at h
    cases h

/-- The text before the first separator has none when it stands alone. -/
theorem cut_before_separator (afterWord : Bool) (s : List Char) :
    (cut afterWord (cut afterWord s).1).2 = none := by
  rcases hc : cut afterWord s with ⟨u, _ | ⟨t, rest⟩⟩
  · have hnone : (cut afterWord s).2 = none := by rw [hc]
    have hself := cut_fst_of_none hnone
    rw [hc] at hself
    rwa [hself]
  · obtain ⟨sep, rfl, hsep⟩ := cut_eq_some hc
    have hseam : Seam afterWord u sep := fun hw =>
      startsInWord_of_separator?_true (hw ▸ hsep)
    rcases hu : cut afterWord u with ⟨v, _ | ⟨t', rest'⟩⟩
    · rfl
    · -- A separator within `u` would be the first one of all, so that `u` ended before it.
      obtain ⟨sep', hsplit, hsep'⟩ := cut_eq_some hu
      obtain ⟨rfl, -⟩ := Prod.mk.inj ((cut_append_of_some hseam hu).symm.trans hc)
      obtain rfl : sep' = [] := by simpa using hsplit
      rw [separator?_nil] at hsep'
      cases hsep'

end Token

theorem Text.isWord_of_isBlank {c : Char} (h : isBlank c = true) : isWord c = false := by
  obtain ⟨b, hb, hfirst, hlast⟩ := (inRanges_iff (by decide)).1 h
  have hout : (blankRanges.all fun b => CaseRun.outside b.first b.last wordRanges) = true := by
    decide +kernel
  exact CaseRun.not_inRanges_of_outside ascending_wordRanges (List.all_eq_true.1 hout b hb)
    hfirst hlast

theorem Text.isBlank_of_isWord {c : Char} (h : isWord c = true) : isBlank c = false := by
  rw [Bool.eq_false_iff]
  intro hblank
  rw [isWord_of_isBlank hblank] at h
  cases h

namespace Token

/-! ## Separators -/

theorem keyword?_of_not_isWord {c : Char} (h : isWord c = false) (s : List Char) :
    keyword? (c :: s) = none := by
  rw [Option.eq_none_iff_forall_ne_some]
  rintro ⟨op, r⟩ hk
  obtain ⟨k, hs, hspells, -⟩ := keyword?_eq_some_iff.1 hk
  obtain ⟨d, k, rfl⟩ := List.exists_cons_of_ne_nil hspells.ne_nil
  obtain ⟨rfl, -⟩ := List.cons.inj hs
  rw [hspells.isWord c List.mem_cons_self] at h
  cases h

theorem separator?_of_isBlank {c : Char} (h : isBlank c = true) (afterWord : Bool)
    (s : List Char) : separator? afterWord (c :: s) = none := by
  have ho : c ≠ '(' := by rintro rfl; exact absurd h (by decide)
  have hc : c ≠ ')' := by rintro rfl; exact absurd h (by decide)
  rw [separator?_cons, if_neg ho, if_neg hc, keyword?_of_not_isWord (isWord_of_isBlank h)]
  cases afterWord <;> rfl

theorem separator?_keyword {op : Connective} {k r : List Char} (hk : op.Spells k)
    (hr : startsInWord r = false) : separator? false (k ++ r) = some (keyword op, r) := by
  obtain ⟨c, k, rfl⟩ := List.exists_cons_of_ne_nil hk.ne_nil
  have hword := hk.isWord c List.mem_cons_self
  have ho : c ≠ '(' := by rintro rfl; exact absurd hword (by decide)
  have hc : c ≠ ')' := by rintro rfl; exact absurd hword (by decide)
  rw [List.cons_append, separator?_cons, if_neg ho, if_neg hc, if_neg (by simp),
    ← List.cons_append, keyword?_eq_some_iff.2 ⟨_, rfl, hk, hr⟩]
  rfl

theorem ne_condition_of_separator? {afterWord : Bool} {s r : List Char} {t : Token}
    (h : separator? afterWord s = some (t, r)) (text : String) : t ≠ condition text := by
  rintro rfl
  cases s with
  | nil => rw [separator?_nil] at h; cases h
  | cons c s =>
    rw [separator?_cons] at h
    split at h
    · cases h
    split at h
    · cases h
    split at h
    · cases h
    · obtain ⟨⟨op, r'⟩, -, he⟩ := Option.map_eq_some_iff.1 h
      cases he

/-! ## Scans -/

variable {mode : CaseMode}

theorem scan_of_none {s : List Char} (h : (cut false s).2 = none) :
    scan mode s = ofText mode s := by
  have hcut : cut false s = (s, none) := Prod.ext (cut_fst_of_none h) h
  rw [scan]
  split
  · next he => rw [hcut] at he; cases he; rfl
  · next he => rw [hcut] at he; cases he

theorem scan_of_some {s u rest : List Char} {t : Token}
    (h : cut false s = (u, some (t, rest))) :
    scan mode s = ofText mode u ++ t :: scan mode rest := by
  rw [scan]
  split
  · next he => rw [h] at he; cases he
  · next he => rw [h] at he; cases he; rfl

theorem ofText_cons_blank {c : Char} (h : isBlank c = true) (s : List Char) :
    ofText mode (c :: s) = ofText mode s := by
  rw [ofText, ofText, trim_cons_blank h]

theorem ofText_append_blank {b : List Char} (h : ∀ c ∈ b, isBlank c = true) (s : List Char) :
    ofText mode (s ++ b) = ofText mode s := by
  rw [ofText, ofText, trim_append_blank h]

theorem cut_cons_blank {c : Char} (h : isBlank c = true) (afterWord : Bool) (s : List Char) :
    cut afterWord (c :: s) = (c :: (cut false s).1, (cut false s).2) := by
  rw [cut_of_none (separator?_of_isBlank h _ s), isWord_of_isBlank h]

theorem scan_cons_blank {c : Char} (h : isBlank c = true) (s : List Char) :
    scan mode (c :: s) = scan mode s := by
  have hcut := cut_cons_blank h false s
  rcases hs : cut false s with ⟨u, _ | ⟨t, rest⟩⟩
  · have hnone : (cut false s).2 = none := by rw [hs]
    rw [scan_of_none hnone, scan_of_none (by rw [hcut, hs]), ofText_cons_blank h]
  · rw [hs] at hcut
    rw [scan_of_some hs, scan_of_some hcut, ofText_cons_blank h]

/-- A separator with blanks before it divides a text into two that are scanned on their own, if
no word runs across the seam. -/
theorem scan_append {r b rest : List Char} {t : Token} (s : List Char)
    (hr : startsInWord r = false) (hcut : ∀ afterWord, cut afterWord r = (b, some (t, rest)))
    (hb : ∀ c ∈ b, isBlank c = true) :
    scan mode (s ++ r) = scan mode s ++ t :: scan mode rest := by
  have hseam : ∀ u, Seam false u r := .of_start hr false
  fun_induction scan mode s with
  | case1 s text h =>
    have hnone : (cut false s).2 = none := by rw [h]
    have hwhole := cut_append_of_none (hseam s) hnone
    obtain rfl : s = text := by rw [← cut_fst_of_none hnone, h]
    rw [hcut] at hwhole
    rw [scan_of_some hwhole, ofText_append_blank hb]
  | case2 s text separator rest' h _ ih =>
    rw [scan_of_some (cut_append_of_some (hseam s) h), ih, List.append_assoc]
    rfl

theorem scan_opening (s r : List Char) :
    scan mode (s ++ '(' :: r) = scan mode s ++ opening :: scan mode r :=
  scan_append (b := []) s (by rfl)
    (fun afterWord => cut_of_some (by rw [separator?_cons, if_pos rfl])) nofun

theorem scan_closing (s r : List Char) :
    scan mode (s ++ ')' :: r) = scan mode s ++ closing :: scan mode r :=
  scan_append (b := []) s (by rfl)
    (fun afterWord => cut_of_some (by rw [separator?_cons, if_neg (by decide), if_pos rfl])) nofun

theorem scan_keyword {op : Connective} {k r : List Char} {c : Char} (s : List Char)
    (hc : isBlank c = true) (hk : op.Spells k) (hr : startsInWord r = false) :
    scan mode (s ++ c :: (k ++ r)) = scan mode s ++ keyword op :: scan mode r := by
  refine scan_append (b := [c]) s (isWord_of_isBlank hc) (fun afterWord => ?_) (by simpa using hc)
  obtain ⟨d, k, rfl⟩ := List.exists_cons_of_ne_nil hk.ne_nil
  have hsep := separator?_keyword hk hr
  rw [List.cons_append] at hsep
  rw [cut_cons_blank hc, List.cons_append, cut_of_some hsep]

end Token

end AttributeRules
