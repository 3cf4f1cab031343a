import AttributeRules.Proofs.Text.Lowercase

/-!
# Lowercase in context

Lowercasing looks at the neighbours of a capital sigma, so that the lowercase of
a text is not that of its parts one after the other: what stands before a part
counts (`casedAfter`), and so does the start of what stands behind it
(`startsCased`). It is that of the parts where characters without letter case
stand between them (`lowercaseFrom_between`), such as blanks
(`Caseless.of_isBlank`).
-/

namespace AttributeRules.Text

/-! ## The neighbours of a part -/

/-- Whether the nearest character before that is not looked through is cased, behind this text;
`afterCased` says so in front of it. -/
def casedAfter (afterCased : Bool) (s : List Char) : Bool :=
  s.foldl (fun b c => if isCaseIgnorable c then b else isCased c) afterCased

theorem startsCased_cons (c : Char) (s : List Char) :
    startsCased (c :: s) = if isCaseIgnorable c then startsCased s else isCased c := by
  cases h : isCaseIgnorable c with
  | true => rw [startsCased, List.dropWhile_cons_of_pos h, if_pos rfl, startsCased]
  | false =>
    rw [startsCased, List.dropWhile_cons_of_neg (Bool.eq_false_iff.1 h), if_neg Bool.false_ne_true]

/-- What does not start with a cased character is not seen from before it. -/
theorem startsCased_append {r : List Char} (h : startsCased r = false) (s : List Char) :
    startsCased (s ++ r) = startsCased s := by
  induction s with
  | nil => exact h
  | cons c s ih => rw [List.cons_append, startsCased_cons, startsCased_cons, ih]

/-- A part is lowercased as if it were all, in front of what does not start with a cased
character. -/
theorem lowercaseFrom_append_of_startsCased {r : List Char} (h : startsCased r = false) (b : Bool)
    (s : List Char) :
    lowercaseFrom b (s ++ r) = lowercaseFrom b s ++ lowercaseFrom (casedAfter b s) r := by
  induction s generalizing b with
  | nil => rfl
  | cons c s ih =>
    rw [List.cons_append, lowercaseFrom, lowercaseFrom, startsCased_append h, ih,
      List.append_assoc]
    rfl

/-! ## Characters without letter case -/

/-- The character has no letter case, and is its own lowercase. -/
structure Caseless (c : Char) : Prop where
  not_cased : isCased c = false
  lowercaseChar_eq : lowercaseChar c = [c]

variable {s : List Char}

theorem startsCased_of_caseless (h : ∀ c ∈ s, Caseless c) : startsCased s = false := by
  induction s with
  | nil => rfl
  | cons c s ih =>
    obtain ⟨hc, hs⟩ := List.forall_mem_cons.1 h
    rw [startsCased_cons, ih hs, hc.not_cased, ite_self]

theorem casedAfter_false (h : ∀ c ∈ s, Caseless c) : casedAfter false s = false := by
  induction s with
  | nil => rfl
  | cons c s ih =>
    obtain ⟨hc, hs⟩ := List.forall_mem_cons.1 h
    rw [casedAfter, List.foldl_cons, hc.not_cased, ite_self]
    exact ih hs

/-- Characters without letter case hide what stands before the first of them, if that is not looked
through. -/
theorem casedAfter_of_caseless (hne : s ≠ []) (hseen : ∀ c ∈ s.head?, isCaseIgnorable c = false)
    (h : ∀ c ∈ s, Caseless c) (b : Bool) : casedAfter b s = false := by
  obtain ⟨c, s, rfl⟩ := List.exists_cons_of_ne_nil hne
  obtain ⟨hc, hs⟩ := List.forall_mem_cons.1 h
  rw [casedAfter, List.foldl_cons, hseen c rfl, if_neg Bool.false_ne_true, hc.not_cased]
  exact casedAfter_false hs

theorem startsCased_append_of_caseless (hne : s ≠ [])
    (hseen : ∀ c ∈ s.head?, isCaseIgnorable c = false) (h : ∀ c ∈ s, Caseless c) (r : List Char) :
    startsCased (s ++ r) = false := by
  obtain ⟨c, s, rfl⟩ := List.exists_cons_of_ne_nil hne
  rw [List.cons_append, startsCased_cons, hseen c rfl, if_neg Bool.false_ne_true,
    (h c List.mem_cons_self).not_cased]

/-- Characters without letter case stay as they are, whatever stands around them. -/
theorem lowercaseFrom_caseless_append (h : ∀ c ∈ s, Caseless c) (b : Bool) (r : List Char) :
    lowercaseFrom b (s ++ r) = s ++ lowercaseFrom (casedAfter b s) r := by
  induction s generalizing b with
  | nil => rfl
  | cons c s ih =>
    obtain ⟨hc, hs⟩ := List.forall_mem_cons.1 h
    have hsigma : c ≠ 'Σ' := by
      rintro rfl
      exact absurd hc.lowercaseChar_eq (by decide +kernel)
    rw [List.cons_append, lowercaseFrom, if_neg fun h => hsigma h.1, hc.lowercaseChar_eq, ih hs]
    rfl

theorem lowercaseFrom_caseless (h : ∀ c ∈ s, Caseless c) (b : Bool) : lowercaseFrom b s = s :=
  lowercaseFrom_eq_self (fun c hc => (h c hc).lowercaseChar_eq) b

/-- Two parts of a text with characters without letter case between them and behind them are
lowercased as if each stood alone. -/
theorem lowercaseFrom_between {between behind : List Char} (hne : between ≠ [])
    (hseen : ∀ c ∈ between.head?, isCaseIgnorable c = false)
    (hbetween : ∀ c ∈ between, Caseless c) (hbehind : ∀ c ∈ behind, Caseless c) (b : Bool)
    (s t : List Char) :
    lowercaseFrom b (s ++ (between ++ (t ++ behind))) =
      lowercaseFrom b s ++ (between ++ (lowercaseFrom false t ++ behind)) := by
  have hstart : startsCased (between ++ (t ++ behind)) = false :=
    startsCased_append_of_caseless hne hseen hbetween _
  calc lowercaseFrom b (s ++ (between ++ (t ++ behind)))
      = lowercaseFrom b s ++ lowercaseFrom (casedAfter b s) (between ++ (t ++ behind)) :=
        lowercaseFrom_append_of_startsCased hstart b s
    _ = lowercaseFrom b s ++ (between ++ lowercaseFrom false (t ++ behind)) := by
        rw [lowercaseFrom_caseless_append hbetween, casedAfter_of_caseless hne hseen hbetween]
    _ = lowercaseFrom b s ++ (between ++ (lowercaseFrom false t ++ behind)) := by
        rw [lowercaseFrom_append_of_startsCased (startsCased_of_caseless hbehind),
          lowercaseFrom_caseless hbehind]

/-! ## Blanks -/

/-- The code points of the run and, if it takes steps, those between them. -/
def CaseRun.span (r : CaseRun) : CodeRange := ⟨r.first, r.last⟩

/-- The code points that are cased, that are looked through, and that may have an image. -/
def letterRanges : List (List CodeRange) :=
  [casedRanges, caseIgnorableRanges, lowercaseRuns.map CaseRun.span]

theorem ascending_letterRanges : letterRanges.all ascending = true := by decide +kernel

theorem blankRanges_outside_letters :
    (blankRanges.all fun w => letterRanges.all (CaseRun.outside w.first w.last)) = true := by
  decide +kernel

theorem not_inRanges_of_isBlank {c : Char} {ws : List CodeRange} (hc : isBlank c = true)
    (hws : ws ∈ letterRanges) : inRanges c.toNat ws = false := by
  obtain ⟨w, hw, hfirst, hlast⟩ := (inRanges_iff (by decide)).1 hc
  have hout := List.all_eq_true.1 (List.all_eq_true.1 blankRanges_outside_letters w hw) ws hws
  exact CaseRun.not_inRanges_of_outside (List.all_eq_true.1 ascending_letterRanges ws hws) hout
    hfirst hlast

theorem isCaseIgnorable_of_isBlank {c : Char} (h : isBlank c = true) :
    isCaseIgnorable c = false :=
  not_inRanges_of_isBlank h (by simp [letterRanges])

theorem Caseless.of_isBlank {c : Char} (h : isBlank c = true) : Caseless c := by
  refine ⟨not_inRanges_of_isBlank h (by simp [letterRanges]), lowercaseChar_eq_self ?_ ?_⟩
  · rintro rfl
    exact absurd h (by decide)
  · have hout : inRanges c.toNat (lowercaseRuns.map CaseRun.span) = false :=
      not_inRanges_of_isBlank h (by simp [letterRanges])
    refine Option.eq_none_iff_forall_ne_some.2 fun m hm => ?_
    obtain ⟨r, hr, hmaps⟩ := exists_maps hm
    have hasc := List.all_eq_true.1 ascending_letterRanges (lowercaseRuns.map CaseRun.span)
      (by simp [letterRanges])
    have hin := (inRanges_iff hasc).2
      ⟨r.span, List.mem_map_of_mem hr, hmaps.first_le, hmaps.le_last⟩
    rw [hout] at hin
    cases hin

end AttributeRules.Text
