import AttributeRules.Proofs.Text.CaseRun
import AttributeRules.Proofs.Text.Trim

/-!
# Lowercasing a text

Every character of a text is replaced by its image: that of the character
alone, or the final sigma (`IsImage`). What holds of all images holds of the
lowercase of a text, whatever the neighbours of its characters are; so
lowercasing again changes nothing (`lowercase_lowercase`).
-/

namespace AttributeRules.Text

/-- `d` stands in the lowercase of `c`, where `c` is alone or a sigma at the end of a word. -/
def IsImage (c d : Char) : Prop := d ∈ lowercaseChar c ∨ c = 'Σ' ∧ d = 'ς'

/-- The image of a character: its own, one other character, or the two of the dotted capital I. -/
theorem lowercaseChar_cases (c : Char) :
    lowercaseChar c = [c] ∨
    (∃ d, lowercaseChar c = [d] ∧ d ≠ '\u0130' ∧ imageIn c.toNat lowercaseRuns = some d.toNat) ∨
    c = '\u0130' ∧ lowercaseChar c = ['i', '\u0307'] := by
  rw [lowercaseChar]
  split
  · next h => exact .inr (.inr ⟨h, rfl⟩)
  · split
    · next m hm =>
      obtain ⟨hv, hdot⟩ := isValidChar_image hm
      have hto : (Char.ofNat m).toNat = m := by
        rw [Char.ofNat, dif_pos hv]
        rfl
      refine .inr (.inl ⟨_, rfl, fun h => hdot ?_, by rw [hto, hm]⟩)
      rw [← hto, h]
      rfl
    · exact .inl rfl

/-- An image is the character itself, one that the table has, or a special case. -/
theorem IsImage.cases {c d : Char} (h : IsImage c d) :
    (d = c ∧ lowercaseChar c = [c]) ∨
    (d ≠ '\u0130' ∧ imageIn c.toNat lowercaseRuns = some d.toNat) ∨
    (c = '\u0130' ∧ (d = 'i' ∨ d = '\u0307')) ∨ c = 'Σ' ∧ d = 'ς' := by
  rcases h with h | h
  · rcases lowercaseChar_cases c with hc | ⟨e, hc, hdot, he⟩ | ⟨hI, hc⟩
    · rw [hc, List.mem_singleton] at h
      exact .inl ⟨h, hc⟩
    · rw [hc, List.mem_singleton] at h
      exact .inr (.inl (h ▸ ⟨hdot, he⟩))
    · rw [hc] at h
      exact .inr (.inr (.inl ⟨hI, by simpa using h⟩))
  · exact .inr (.inr (.inr h))

theorem lowercaseChar_eq_self {c : Char} (hdot : c ≠ '\u0130')
    (h : imageIn c.toNat lowercaseRuns = none) : lowercaseChar c = [c] := by
  rw [lowercaseChar, if_neg hdot, h]

theorem IsImage.lowercaseChar_eq {c d : Char} (h : IsImage c d) : lowercaseChar d = [d] := by
  rcases h.cases with ⟨rfl, h⟩ | ⟨hdot, h⟩ | ⟨-, rfl | rfl⟩ | ⟨-, rfl⟩
  · exact h
  · exact lowercaseChar_eq_self hdot (imageIn_image h)
  · decide
  · decide +kernel
  · decide +kernel

theorem IsImage.isWord {c d : Char} (h : IsImage c d) (hc : isWord c = true) :
    isWord d = true := by
  rcases h.cases with ⟨rfl, -⟩ | ⟨-, h⟩ | ⟨-, rfl | rfl⟩ | ⟨-, rfl⟩
  · exact hc
  · exact word_image h hc
  · decide
  · decide +kernel
  · decide +kernel

theorem IsImage.isBlank {c d : Char} (h : IsImage c d) (hc : isBlank c = false) :
    isBlank d = false := by
  rcases h.cases with ⟨rfl, -⟩ | ⟨-, h⟩ | ⟨-, rfl | rfl⟩ | ⟨-, rfl⟩
  · exact hc
  · exact not_blank_image h
  all_goals decide

/-- An image in ASCII is the character itself, that of a capital of the alphabet, `i` or `k`. -/
theorem IsImage.ascii {c d : Char} (h : IsImage c d) (hd : d.toNat < 0x80) :
    d = c ∨ (0x41 ≤ c.toNat ∧ c.toNat ≤ 0x5A ∧ d.toNat = c.toNat + 32) ∨ d = 'i' ∨ d = 'k' := by
  rcases h.cases with ⟨rfl, -⟩ | ⟨-, h⟩ | ⟨-, rfl | rfl⟩ | ⟨-, rfl⟩
  · exact .inl rfl
  · rcases image_ascii h with h | h | h
    · omega
    · exact .inr (.inl h)
    · exact .inr (.inr (.inr (Char.toNat_inj.1 h)))
  · exact .inr (.inr (.inl rfl))
  · exact absurd hd (by decide)
  · exact absurd hd (by decide)

/-! ## Texts -/

/-- The first character of a text has an image in front of the lowercase of the others: one
character, unless it is the dotted capital I. -/
theorem lowercaseFrom_cons (b : Bool) (c : Char) (s : List Char) :
    ∃ d ds b', lowercaseFrom b (c :: s) = d :: (ds ++ lowercaseFrom b' s) ∧
      (∀ e ∈ d :: ds, IsImage c e) ∧ (ds = [] ∨ d = 'i' ∧ ds = ['\u0307']) := by
  rw [lowercaseFrom]
  split
  · next h => exact ⟨'ς', [], _, rfl, by simp [IsImage, h.1], .inl rfl⟩
  · rcases lowercaseChar_cases c with hc | ⟨d, hc, -⟩ | ⟨-, hc⟩
    · exact ⟨c, [], _, by rw [hc]; rfl, by simp [IsImage, hc], .inl rfl⟩
    · exact ⟨d, [], _, by rw [hc]; rfl, by simp [IsImage, hc], .inl rfl⟩
    · exact ⟨'i', ['\u0307'], _, by rw [hc]; rfl, by simp [IsImage, hc], .inr ⟨rfl, rfl⟩⟩

theorem mem_lowercaseFrom {b : Bool} {s : List Char} {d : Char} (h : d ∈ lowercaseFrom b s) :
    ∃ c ∈ s, IsImage c d := by
  induction s generalizing b with
  | nil => cases h
  | cons c s ih =>
    obtain ⟨e, es, b', he, himage, -⟩ := lowercaseFrom_cons b c s
    rw [he, ← List.cons_append, List.mem_append] at h
    rcases h with h | h
    · exact ⟨c, List.mem_cons_self, himage d h⟩
    · obtain ⟨c', hc', hd⟩ := ih h
      exact ⟨c', List.mem_cons_of_mem _ hc', hd⟩

/-- Characters with one image each, none of them a capital sigma, are lowercased one by one. -/
theorem lowercaseFrom_eq_map {f : Char → Char} {s : List Char}
    (h : ∀ c ∈ s, lowercaseChar c = [f c] ∧ c ≠ 'Σ') (b : Bool) : lowercaseFrom b s = s.map f := by
  induction s generalizing b with
  | nil => rfl
  | cons c s ih =>
    obtain ⟨himage, hsigma⟩ := h c List.mem_cons_self
    rw [lowercaseFrom, if_neg fun hc => hsigma hc.1, himage,
      ih fun d hd => h d (List.mem_cons_of_mem c hd)]
    rfl

/-- A text whose characters are their own images is its own lowercase. -/
theorem lowercaseFrom_eq_self {s : List Char} (h : ∀ c ∈ s, lowercaseChar c = [c]) (b : Bool) :
    lowercaseFrom b s = s := by
  refine (lowercaseFrom_eq_map (f := id) (fun c hc => ⟨h c hc, ?_⟩) b).trans (List.map_id s)
  rintro rfl
  exact absurd (h 'Σ' hc) (by decide +kernel)

/-- Lowercasing again changes nothing, whatever stands before. -/
theorem lowercaseFrom_lowercaseFrom (b b' : Bool) (s : List Char) :
    lowercaseFrom b' (lowercaseFrom b s) = lowercaseFrom b s := by
  refine lowercaseFrom_eq_self (fun d hd => ?_) b'
  obtain ⟨c, -, hc⟩ := mem_lowercaseFrom hd
  exact hc.lowercaseChar_eq

@[simp] theorem toList_lowercase (s : String) :
    (lowercase s).toList = lowercaseFrom false s.toList :=
  String.toList_ofList

theorem lowercase_lowercase (s : String) : lowercase (lowercase s) = lowercase s := by
  simp only [lowercase, String.toList_ofList, lowercaseFrom_lowercaseFrom]

/-- Behind the images of the first part of a text stands a lowercase of the second part. -/
theorem lowercaseFrom_append (b : Bool) (s t : List Char) :
    ∃ s' b', lowercaseFrom b (s ++ t) = s' ++ lowercaseFrom b' t := by
  induction s generalizing b with
  | nil => exact ⟨[], b, rfl⟩
  | cons c s ih =>
    obtain ⟨d, ds, b', he, -⟩ := lowercaseFrom_cons b c (s ++ t)
    obtain ⟨s', b'', hs⟩ := ih b'
    exact ⟨d :: (ds ++ s'), b'', by rw [List.cons_append, he, hs]; simp⟩

theorem Trimmed.lowercaseFrom {s : List Char} (h : Trimmed s) (b : Bool) :
    Trimmed (lowercaseFrom b s) := by
  refine ⟨fun d hd => ?_, fun d hd => ?_⟩
  · cases s with
    | nil => cases hd
    | cons c s =>
      obtain ⟨e, es, b', he, himage, -⟩ := lowercaseFrom_cons b c s
      rw [he] at hd
      cases hd
      exact (himage _ List.mem_cons_self).isBlank (h.head c rfl)
  · rcases List.eq_nil_or_concat s with rfl | ⟨s, c, rfl⟩
    · cases hd
    · obtain ⟨s', b', hs⟩ := lowercaseFrom_append b s [c]
      obtain ⟨e, es, b'', he, himage, -⟩ := lowercaseFrom_cons b' c []
      have hlast : d ∈ (e :: es).getLast? := by
        rw [List.concat_eq_append, hs, he] at hd
        simpa [Text.lowercaseFrom, List.getLast?_append] using hd
      exact (himage d (List.mem_of_getLast? hlast)).isBlank (h.last c (by simp))

theorem lowercaseFrom_eq_nil {b : Bool} {s : List Char} (h : lowercaseFrom b s = []) : s = [] := by
  cases s with
  | nil => rfl
  | cons c s =>
    obtain ⟨d, ds, b', hd, -⟩ := lowercaseFrom_cons b c s
    rw [hd] at h
    cases h

theorem lowercase_ne_empty {s : String} (h : s ≠ "") : lowercase s ≠ "" := by
  intro hnil
  have hlower : lowercaseFrom false s.toList = [] := by
    rw [← toList_lowercase, hnil]
    rfl
  exact h (String.toList_eq_nil_iff.1 (lowercaseFrom_eq_nil hlower))

end AttributeRules.Text
