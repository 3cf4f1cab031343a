import AttributeRules.Text.Basic

/-!
# Runs of lowercase images

What the tables of `Text` say of the lowercase images of single characters.
Every statement is checked for whole runs of the table by evaluation, and then
holds of their characters: an image has no other image (`imageIn_image`), belongs
to words if its origin does (`word_image`), and no image is blank
(`not_blank_image`).
-/

namespace AttributeRules.Text

namespace CaseRun

/-- The greatest code point that an image of the run may be. -/
def lastImage (r : CaseRun) : Nat := r.image + (r.last - r.first)

/-- The code point `n` lies in the run, and `m` is its image. -/
structure Maps (r : CaseRun) (n m : Nat) : Prop where
  first_le : r.first ≤ n
  le_last : n ≤ r.last
  step : (n - r.first) % r.step = 0
  image : m = r.image + (n - r.first)

theorem Maps.image_le {r : CaseRun} {n m : Nat} (h : r.Maps n m) : r.image ≤ m := by
  have := h.image
  omega

theorem Maps.le_lastImage {r : CaseRun} {n m : Nat} (h : r.Maps n m) : m ≤ r.lastImage := by
  have := h.image
  have := h.le_last
  rw [lastImage]
  omega

end CaseRun

theorem exists_maps {n m : Nat} {rs : List CaseRun} (h : imageIn n rs = some m) :
    ∃ r ∈ rs, r.Maps n m := by
  induction rs with
  | nil => cases h
  | cons r rs ih =>
    rw [imageIn] at h
    split at h
    · cases h
    · next hf =>
      split at h
      · obtain ⟨q, hq, hm⟩ := ih h
        exact ⟨q, List.mem_cons_of_mem _ hq, hm⟩
      · next hl =>
        split at h
        · next hs => exact ⟨r, List.mem_cons_self, by omega, by omega, hs, (Option.some.inj h).symm⟩
        · cases h

/-! ## Checks of the table

They use `Nat.blt` and its like and `cond`, which evaluate fastest. -/

namespace CaseRun

/-- No image of `r` lies in `q`: they are apart, or take turns. -/
def avoids (r q : CaseRun) : Bool :=
  cond (Nat.blt r.lastImage q.first) true <|
  cond (Nat.blt q.last r.image) true <|
  Nat.beq q.step 2 && (Nat.beq r.step 2 || Nat.beq r.first r.last) &&
    Nat.beq ((r.image + q.first) % 2) 1

theorem not_maps_of_avoids {r q : CaseRun} {n m k : Nat} (h : r.avoids q = true)
    (hr : r.Maps n m) : ¬ q.Maps m k := by
  intro hq
  have := hr.image_le
  have := hr.le_lastImage
  obtain ⟨hf, hl, hs, hi⟩ := hr
  obtain ⟨hf', hl', hs', -⟩ := hq
  simp only [avoids, Bool.cond_eq_ite, Nat.blt_eq] at h
  split at h
  · omega
  · split at h
    · omega
    · simp only [Bool.and_eq_true, Bool.or_eq_true, Nat.beq_eq] at h
      obtain ⟨⟨hqs, hstep⟩, hpar⟩ := h
      rw [hqs] at hs'
      rcases hstep with hrs | hsingle
      · rw [hrs] at hs
        omega
      · omega

/-- The images are code points beyond ASCII, other than the dotted capital I; or those of the
letters of the alphabet, or `k`. -/
def isPlain (r : CaseRun) : Bool :=
  (Nat.blt r.lastImage 0x130 || Nat.blt 0x130 r.image) &&
  (Nat.blt r.lastImage 0xD800 || Nat.blt 0xDFFF r.image && Nat.blt r.lastImage 0x110000) &&
  (Nat.ble 0x80 r.image || Nat.beq r.image (r.first + 32) && Nat.ble 0x41 r.first &&
    Nat.ble r.last 0x5A || Nat.beq r.image 0x6B && Nat.beq r.first r.last)

/-- No code point from `lo` to `hi` lies in a range of the list. -/
def outside (lo hi : Nat) (ws : List CodeRange) : Bool :=
  ws.all fun w => cond (Nat.blt w.last lo) true (Nat.blt hi w.first)

theorem not_inRanges_of_outside {lo hi n : Nat} {ws : List CodeRange} (ha : ascending ws = true)
    (h : outside lo hi ws = true) (hlo : lo ≤ n) (hhi : n ≤ hi) : inRanges n ws = false := by
  rw [Bool.eq_false_iff]
  intro hin
  obtain ⟨w, hw, hfirst, hlast⟩ := (inRanges_iff ha).1 hin
  have hout := List.all_eq_true.1 h w hw
  simp only [Bool.cond_eq_ite, Nat.blt_eq] at hout
  split at hout
  · omega
  · rw [Nat.blt_eq] at hout
    omega

/-- Both `lo` and `hi` lie in one range of the list, the first one that does not end before. -/
def inside (lo hi : Nat) : List CodeRange → Bool
  | [] => false
  | w :: ws => cond (Nat.ble hi w.last) (Nat.ble w.first lo) (inside lo hi ws)

theorem inRanges_of_inside {lo hi n : Nat} {ws : List CodeRange} (ha : ascending ws = true)
    (h : inside lo hi ws = true) (hlo : lo ≤ n) (hhi : n ≤ hi) : inRanges n ws = true := by
  suffices ∃ w ∈ ws, w.first ≤ n ∧ n ≤ w.last from (inRanges_iff ha).2 this
  clear ha
  induction ws with
  | nil => cases h
  | cons w ws ih =>
    simp only [inside, Bool.cond_eq_ite, Nat.ble_eq] at h
    split at h
    · rw [Nat.ble_eq] at h
      exact ⟨w, List.mem_cons_self, by omega, by omega⟩
    · obtain ⟨v, hv, hn⟩ := ih h
      exact ⟨v, List.mem_cons_of_mem _ hv, hn⟩

/-- Where a code point lies in the ranges, so does its image: all images do, or no code point
does, or they have been tried one by one. -/
def staysIn (ws : List CodeRange) (r : CaseRun) : Bool :=
  cond (inside r.image r.lastImage ws) true <|
  cond (outside r.first r.last ws) true <|
  (List.range (r.last + 1 - r.first)).all fun i =>
    !Nat.beq (i % r.step) 0 || !inRanges (r.first + i) ws || inRanges (r.image + i) ws

theorem Maps.inRanges {r : CaseRun} {n m : Nat} {ws : List CodeRange} (hm : r.Maps n m)
    (ha : ascending ws = true) (h : staysIn ws r = true) (hn : inRanges n ws = true) :
    inRanges m ws = true := by
  have hf := hm.first_le
  have hl := hm.le_last
  simp only [staysIn, Bool.cond_eq_ite] at h
  split at h
  · next hin => exact inRanges_of_inside ha hin hm.image_le hm.le_lastImage
  · split at h
    · next hout =>
      rw [not_inRanges_of_outside ha hout hf hl] at hn
      cases hn
    · have hi := List.all_eq_true.1 h (n - r.first) (List.mem_range.2 (by omega))
      rw [hm.step, show r.first + (n - r.first) = n by omega, hn, ← hm.image] at hi
      simpa using hi

end CaseRun

theorem lowercaseRuns_avoid : (lowercaseRuns.all fun r => lowercaseRuns.all r.avoids) = true := by
  decide +kernel

theorem lowercaseRuns_isPlain : lowercaseRuns.all CaseRun.isPlain = true := by decide +kernel

theorem lowercaseRuns_outside_blank :
    (lowercaseRuns.all fun r => CaseRun.outside r.image r.lastImage blankRanges) = true := by
  decide +kernel

theorem ascending_wordRanges : ascending wordRanges = true := by decide +kernel

theorem lowercaseRuns_staysIn : lowercaseRuns.all (CaseRun.staysIn wordRanges) = true := by
  decide +kernel

/-! ## Images -/

variable {n m : Nat}

/-- An image has no other image. -/
theorem imageIn_image (h : imageIn n lowercaseRuns = some m) :
    imageIn m lowercaseRuns = none := by
  obtain ⟨r, hr, hm⟩ := exists_maps h
  rw [Option.eq_none_iff_forall_ne_some]
  intro k hk
  obtain ⟨q, hq, hm'⟩ := exists_maps hk
  have havoid := List.all_eq_true.1 (List.all_eq_true.1 lowercaseRuns_avoid r hr) q hq
  exact CaseRun.not_maps_of_avoids havoid hm hm'

/-- An image is a code point, and not the one character with an image of two. -/
theorem isValidChar_image (h : imageIn n lowercaseRuns = some m) :
    m.isValidChar ∧ m ≠ 0x130 := by
  obtain ⟨r, hr, hm⟩ := exists_maps h
  have hlo := hm.image_le
  have hhi := hm.le_lastImage
  have hp := List.all_eq_true.1 lowercaseRuns_isPlain r hr
  simp only [CaseRun.isPlain, Bool.and_eq_true, Bool.or_eq_true, Nat.blt_eq] at hp
  obtain ⟨⟨hdot, hvalid⟩, -⟩ := hp
  rw [Nat.isValidChar]
  omega

/-- An image is beyond ASCII, or that of a capital of the alphabet, or `k`. -/
theorem image_ascii (h : imageIn n lowercaseRuns = some m) :
    0x80 ≤ m ∨ (0x41 ≤ n ∧ n ≤ 0x5A ∧ m = n + 32) ∨ m = 0x6B := by
  obtain ⟨r, hr, hm⟩ := exists_maps h
  have hlo := hm.image_le
  have hp := List.all_eq_true.1 lowercaseRuns_isPlain r hr
  simp only [CaseRun.isPlain, Bool.and_eq_true, Bool.or_eq_true, Nat.ble_eq, Nat.beq_eq] at hp
  obtain ⟨hf, hl, hs, hi⟩ := hm
  rcases hp.2 with (hbeyond | ⟨⟨himage, hA⟩, hZ⟩) | ⟨hk, hsingle⟩
  · exact .inl (by omega)
  · exact .inr (.inl (by omega))
  · exact .inr (.inr (by omega))

theorem not_blank_image (h : imageIn n lowercaseRuns = some m) :
    inRanges m blankRanges = false := by
  obtain ⟨r, hr, hm⟩ := exists_maps h
  exact CaseRun.not_inRanges_of_outside (by decide)
    (List.all_eq_true.1 lowercaseRuns_outside_blank r hr) hm.image_le hm.le_lastImage

/-- Words are made of the images of the characters that they are made of. -/
theorem word_image (h : imageIn n lowercaseRuns = some m) (hn : inRanges n wordRanges = true) :
    inRanges m wordRanges = true := by
  obtain ⟨r, hr, hm⟩ := exists_maps h
  exact hm.inRanges ascending_wordRanges (List.all_eq_true.1 lowercaseRuns_staysIn r hr) hn

end AttributeRules.Text
