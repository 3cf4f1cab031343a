import AttributeRules.Proofs.Text.Lowercase
import AttributeRules.Token

/-!
# Keywords

A keyword is the word of a connective in any letter case (`Spells`), where no
word goes on behind it (`keyword?_eq_some_iff`). Its letters are letters of
words (`Connective.Spells.isWord`), and they are the lowercase of no other
letters, so that lowercasing makes no keywords (`keyword?_of_lowercaseFrom`).
-/

namespace AttributeRules

open Text

/-- The letters of the keywords. -/
def keywordLetters : List Char := ['a', 'n', 'd', 'o', 'r']

/-- The text is the word of the connective, in any letter case. -/
def Connective.Spells (op : Connective) (k : List Char) : Prop :=
  k.map Char.toLower = op.word.toList

instance (op : Connective) (k : List Char) : Decidable (op.Spells k) :=
  inferInstanceAs (Decidable (_ = _))

theorem Connective.spells_or_iff {k : List Char} :
    or.Spells k ↔ ∃ a b, k = [a, b] ∧ a.toLower = 'o' ∧ b.toLower = 'r' := by
  constructor
  · intro h
    have hk : k.map Char.toLower = ['o', 'r'] := h
    obtain ⟨a, k, rfl, ha, hk⟩ := List.map_eq_cons_iff.1 hk
    obtain ⟨b, k, rfl, hb, hk⟩ := List.map_eq_cons_iff.1 hk
    obtain rfl := List.map_eq_nil_iff.1 hk
    exact ⟨a, b, rfl, ha, hb⟩
  · rintro ⟨a, b, rfl, ha, hb⟩
    rw [Spells, List.map_cons, List.map_cons, ha, hb]
    rfl

theorem Connective.spells_and_iff {k : List Char} :
    and.Spells k ↔ ∃ a b c, k = [a, b, c] ∧ a.toLower = 'a' ∧ b.toLower = 'n' ∧ c.toLower = 'd' := by
  constructor
  · intro h
    have hk : k.map Char.toLower = ['a', 'n', 'd'] := h
    obtain ⟨a, k, rfl, ha, hk⟩ := List.map_eq_cons_iff.1 hk
    obtain ⟨b, k, rfl, hb, hk⟩ := List.map_eq_cons_iff.1 hk
    obtain ⟨c, k, rfl, hc, hk⟩ := List.map_eq_cons_iff.1 hk
    obtain rfl := List.map_eq_nil_iff.1 hk
    exact ⟨a, b, c, rfl, ha, hb, hc⟩
  · rintro ⟨a, b, c, rfl, ha, hb, hc⟩
    rw [Spells, List.map_cons, List.map_cons, List.map_cons, ha, hb, hc]
    rfl

/-! ## Letters -/

theorem toNat_toLower (c : Char) :
    c.toLower.toNat = if 0x41 ≤ c.toNat ∧ c.toNat ≤ 0x5A then c.toNat + 32 else c.toNat := by
  by_cases h : c.val ≥ 'A'.val ∧ c.val ≤ 'Z'.val
  · have hlower : c.toLower.val = c.val + 32 := congrArg Char.val (dif_pos h)
    have hZ : c.val.toNat ≤ 0x5A := h.2
    rw [if_pos ⟨h.1, hZ⟩]
    show c.toLower.val.toNat = c.val.toNat + 32
    rw [hlower, UInt32.toNat_add]
    exact Nat.mod_eq_of_lt (show c.val.toNat + 32 < 2 ^ 32 by omega)
  · have hlower : c.toLower = c := dif_neg h
    rw [if_neg fun h' => h ⟨h'.1, h'.2⟩, hlower]

theorem lt_of_toLower_lt {c : Char} (h : c.toLower.toNat < 0x80) : c.toNat < 0x80 := by
  rw [toNat_toLower] at h
  split at h <;> omega

theorem lt_of_toLower_mem {c : Char} (h : c.toLower ∈ keywordLetters) : c.toNat < 0x80 := by
  have hall : ∀ d ∈ keywordLetters, d.toNat < 0x80 := by simp [keywordLetters]
  exact lt_of_toLower_lt (hall _ h)

/-- What holds of the characters with the first code points holds of each of them. -/
theorem of_forall_ofNat {p : Char → Prop} {b : Nat} (h : ∀ n < b, p (Char.ofNat n)) {c : Char}
    (hc : c.toNat < b) : p c := by
  have hcode := h c.toNat hc
  rwa [Char.ofNat_toNat] at hcode

theorem isWord_of_toLower_mem {c : Char} (h : c.toLower ∈ keywordLetters) : isWord c = true :=
  of_forall_ofNat (p := fun c => c.toLower ∈ keywordLetters → isWord c = true) (by decide)
    (lt_of_toLower_mem h) h

theorem Connective.toLower_mem_of_spells {op : Connective} {k : List Char} (h : op.Spells k) :
    ∀ c ∈ k, c.toLower ∈ keywordLetters := by
  have hall : ∀ d ∈ op.word.toList, d ∈ keywordLetters := by
    cases op <;> simp [word, keywordLetters]
  intro c hc
  refine hall _ ?_
  rw [← h]
  exact List.mem_map_of_mem hc

theorem Connective.Spells.isWord {op : Connective} {k : List Char} (h : op.Spells k) :
    ∀ c ∈ k, isWord c = true :=
  fun c hc => isWord_of_toLower_mem (op.toLower_mem_of_spells h c hc)

theorem Connective.Spells.ne_nil {op : Connective} {k : List Char} (h : op.Spells k) :
    k ≠ [] := by
  rintro rfl
  cases op <;> cases h

/-- A letter of a keyword is in the lowercase of that letter alone. -/
theorem toLower_of_isImage {c d : Char} (h : IsImage c d) (hd : d.toLower ∈ keywordLetters) :
    c.toLower = d.toLower := by
  rcases h.ascii (lt_of_toLower_mem hd) with rfl | ⟨hA, hZ, hcd⟩ | rfl | rfl
  · rfl
  · have hc := toNat_toLower c
    have hd := toNat_toLower d
    rw [if_pos ⟨hA, hZ⟩] at hc
    rw [if_neg (by omega)] at hd
    exact Char.toNat_inj.1 (by omega)
  · exact absurd hd (by decide)
  · exact absurd hd (by decide)

/-! ## Keywords at the front -/

namespace Token

theorem sameLetter_iff {c d : Char} : sameLetter c d = true ↔ c.toLower = d.toLower :=
  decide_eq_true_iff

/-- The keyword at the front of a text is one that is spelled there, with no word going on. -/
theorem keyword?_eq_some_iff {s r : List Char} {op : Connective} :
    keyword? s = some (op, r) ↔ ∃ k, s = k ++ r ∧ op.Spells k ∧ startsInWord r = false := by
  constructor
  · intro h
    unfold keyword? at h
    split at h
    · next a b r' =>
      split at h
      · next hor =>
        cases h
        simp only [sameLetter_iff, Bool.not_eq_true'] at hor
        exact ⟨[a, b], rfl, Connective.spells_or_iff.2 ⟨a, b, rfl, hor.1, hor.2.1⟩, hor.2.2⟩
      split at h
      · next c r'' _ =>
        split at h
        · next hand =>
          cases h
          simp only [sameLetter_iff, Bool.not_eq_true'] at hand
          exact ⟨[a, b, c], rfl,
            Connective.spells_and_iff.2 ⟨a, b, c, rfl, hand.1, hand.2.1, hand.2.2.1⟩, hand.2.2.2⟩
        · cases h
      · cases h
    · cases h
  · rintro ⟨k, rfl, hk, hr⟩
    cases op with
    | or =>
      obtain ⟨a, b, rfl, ha, hb⟩ := Connective.spells_or_iff.1 hk
      simp [keyword?, sameLetter, ha, hb, hr]
    | and =>
      obtain ⟨a, b, c, rfl, ha, hb, hc⟩ := Connective.spells_and_iff.1 hk
      simp [keyword?, sameLetter, ha, hb, hc, hr]

/-- Letters of keywords in front of a lowercase come from the same letters. -/
theorem append_of_lowercaseFrom_eq {b : Bool} {s k r : List Char}
    (h : lowercaseFrom b s = k ++ r) (hk : ∀ d ∈ k, d.toLower ∈ keywordLetters) :
    ∃ k' s' b', s = k' ++ s' ∧ k'.map Char.toLower = k.map Char.toLower ∧
      r = lowercaseFrom b' s' := by
  induction k generalizing b s with
  | nil => exact ⟨[], s, b, rfl, rfl, h.symm⟩
  | cons d k ih =>
    cases s with
    | nil => cases h
    | cons c s =>
      obtain ⟨e, es, b', he, himage, hone⟩ := lowercaseFrom_cons b c s
      have hd := hk d List.mem_cons_self
      rw [he, List.cons_append] at h
      obtain ⟨rfl, htail⟩ := List.cons.inj h
      obtain rfl : es = [] := hone.resolve_right fun hi => absurd (hi.1 ▸ hd) (by decide)
      obtain ⟨k', s', b'', rfl, hmap, hr⟩ :=
        ih htail fun x hx => hk x (List.mem_cons_of_mem _ hx)
      have hc := toLower_of_isImage (himage e List.mem_cons_self) hd
      exact ⟨c :: k', s', b'', rfl, by rw [List.map_cons, List.map_cons, hc, hmap], hr⟩

theorem startsInWord_lowercaseFrom {b : Bool} {s : List Char} (h : startsInWord s = true) :
    startsInWord (lowercaseFrom b s) = true := by
  cases s with
  | nil => cases h
  | cons c s =>
    obtain ⟨d, ds, b', hd, himage, -⟩ := lowercaseFrom_cons b c s
    rw [hd]
    exact (himage d List.mem_cons_self).isWord h

/-- A keyword in front of the lowercase of a text stands in front of the text. -/
theorem keyword?_of_lowercaseFrom {b : Bool} {s r : List Char} {op : Connective}
    (h : keyword? (lowercaseFrom b s) = some (op, r)) : ∃ r', keyword? s = some (op, r') := by
  obtain ⟨k, hs, hk, hr⟩ := keyword?_eq_some_iff.1 h
  obtain ⟨k', s', b', rfl, hmap, rfl⟩ :=
    append_of_lowercaseFrom_eq hs (op.toLower_mem_of_spells hk)
  refine ⟨s', keyword?_eq_some_iff.2 ⟨k', rfl, hmap.trans hk, ?_⟩⟩
  rw [Bool.eq_false_iff] at hr ⊢
  exact fun hw => hr (startsInWord_lowercaseFrom hw)

end Token

end AttributeRules
