import AttributeRules.Json.Quoted

/-!
# Strings as they are written

A character of a string stands for itself, or is written as an escape: by a
letter, or by its number (`Item.Writes`). A character beyond the first 65536 is
written as two numbers, the halves of a surrogate pair (`Stands.pair`). What is
written between quotes is read as the text that it stands for, if there is one
(`Quoted.read?_append`), and nothing else is (`Quoted.exists_writes_of_read?`).
-/

namespace AttributeRules.Json.Quoted

/-! ## Written strings -/

/-- A hexadecimal digit with this value, of either case. -/
def HexDigit (n : Nat) (c : Char) : Prop :=
  "0123456789abcdef".toList[n]? = some c ∨ "0123456789ABCDEF".toList[n]? = some c

/-- Four hexadecimal digits with this value. -/
inductive HexUnit : Nat → List Char → Prop
  | digits {p q r s : Nat} {a b c d : Char} :
    HexDigit p a → HexDigit q b → HexDigit r c → HexDigit s d →
    HexUnit (((p * 16 + q) * 16 + r) * 16 + s) [a, b, c, d]

/-- The characters that have an escape of their own, with its letter. -/
def escapes : List (Char × Char) :=
  [('"', '"'), ('\\', '\\'), ('/', '/'), ('\x08', 'b'), ('\x0c', 'f'), ('\n', 'n'), ('\r', 'r'),
    ('\t', 't')]

/-- How an item of a string is written. -/
inductive Item.Writes : Item → List Char → Prop
  /-- As itself, if it is not a control character, nor a quote or a backslash. -/
  | plain {c : Char} : ' ' ≤ c → c ≠ '"' → c ≠ '\\' → Writes (.char c) [c]
  | escape {c letter : Char} : (c, letter) ∈ escapes → Writes (.char c) ['\\', letter]
  | number {c : Char} {digits : List Char} :
    HexUnit c.toNat digits → Writes (.char c) ('\\' :: 'u' :: digits)
  | half {unit : Nat} {digits : List Char} : 0xD800 ≤ unit → unit ≤ 0xDFFF →
    HexUnit unit digits → Writes (.half unit) ('\\' :: 'u' :: digits)

/-- Items written one after the other. -/
inductive ItemsWrite : List Item → List Char → Prop
  | nil : ItemsWrite [] []
  | cons {item : Item} {items : List Item} {w s : List Char} :
    item.Writes w → ItemsWrite items s → ItemsWrite (item :: items) (w ++ s)

/-- The text that items stand for, where the halves of surrogate pairs find together. -/
inductive Stands : List Item → List Char → Prop
  | nil : Stands [] []
  | char {c : Char} {items : List Item} {s : List Char} :
    Stands items s → Stands (.char c :: items) (c :: s)
  | pair {high low : Nat} {c : Char} {items : List Item} {s : List Char} :
    0xD800 ≤ high → high ≤ 0xDBFF → 0xDC00 ≤ low → low ≤ 0xDFFF →
    c.toNat = 0x10000 + (high - 0xD800) * 0x400 + (low - 0xDC00) → Stands items s →
    Stands (.half high :: .half low :: items) (c :: s)

/-- What may be written between quotes for a text; or for none, if there is no text that it stands
for. -/
def Writes (text : Option String) (s : List Char) : Prop :=
  ∃ items, ItemsWrite items s ∧ ∀ t : String, text = some t ↔ Stands items t.toList

/-! ## Items that are read -/

theorem HexDigit.lt {n : Nat} {c : Char} (h : HexDigit n c) : n < 16 := by
  rcases h with h | h
  · exact (List.getElem?_eq_some_iff.1 h).1
  · exact (List.getElem?_eq_some_iff.1 h).1

theorem hexDigit?_eq {n : Nat} {c : Char} (h : HexDigit n c) : hexDigit? c = some n := by
  have hall : ∀ n < 16, ("0123456789abcdef".toList[n]?).bind hexDigit? = some n ∧
      ("0123456789ABCDEF".toList[n]?).bind hexDigit? = some n := by decide
  obtain ⟨hlower, hupper⟩ := hall n h.lt
  rcases h with h | h
  · rwa [h] at hlower
  · rwa [h] at hupper

theorem exists_hexUnit {unit : Nat} (h : unit < 0x10000) : ∃ digits, HexUnit unit digits := by
  have hdigit : ∀ n, n % 16 < 16 → ∃ c, HexDigit (n % 16) c := fun n hn =>
    ⟨_, .inl (List.getElem?_eq_getElem (show n % 16 < "0123456789abcdef".toList.length from hn))⟩
  have hmod : ∀ n, n % 16 < 16 := fun n => Nat.mod_lt n (by decide)
  obtain ⟨a, ha⟩ := hdigit (unit / 4096) (hmod _)
  obtain ⟨b, hb⟩ := hdigit (unit / 256) (hmod _)
  obtain ⟨c, hc⟩ := hdigit (unit / 16) (hmod _)
  obtain ⟨d, hd⟩ := hdigit unit (hmod _)
  have hvalue : ((unit / 4096 % 16 * 16 + unit / 256 % 16) * 16 + unit / 16 % 16) * 16 + unit % 16 =
      unit := by omega
  have hdigits := HexUnit.digits ha hb hc hd
  rw [hvalue] at hdigits
  exact ⟨_, hdigits⟩

/-- The number of a character is that of no half of a pair. -/
theorem Item.ofUnit_toNat (c : Char) : Item.ofUnit c.toNat = .char c := by
  have hvalid : c.toNat < 0xD800 ∨ 0xDFFF < c.toNat := by
    rcases c.valid with h | h
    · exact .inl h
    · exact .inr h.1
  have hhalf : ¬(isHigh c.toNat || isLow c.toNat) = true := by
    simp only [isHigh, isLow, Bool.or_eq_true, Bool.and_eq_true, decide_eq_true_eq]
    omega
  rw [Item.ofUnit, if_neg hhalf, Char.ofNat_toNat]

theorem Item.ofUnit_half {unit : Nat} (hlow : 0xD800 ≤ unit) (hhigh : unit ≤ 0xDFFF) :
    Item.ofUnit unit = .half unit := by
  have hhalf : (isHigh unit || isLow unit) = true := by
    simp only [isHigh, isLow, Bool.or_eq_true, Bool.and_eq_true, decide_eq_true_eq]
    omega
  rw [Item.ofUnit, if_pos hhalf]

theorem items?_number {unit : Nat} {digits : List Char} (h : HexUnit unit digits)
    (s : List Char) :
    items? ('\\' :: 'u' :: digits ++ s) = followedBy (some (Item.ofUnit unit)) (items? s) := by
  obtain ⟨hp, hq, hr, hs⟩ := h
  rename_i p q r s' a b c d
  have hunit : hexUnit? a b c d = some (((p * 16 + q) * 16 + r) * 16 + s') := by
    simp only [hexUnit?, hexDigit?_eq hp, hexDigit?_eq hq, hexDigit?_eq hr, hexDigit?_eq hs,
      Option.bind_eq_bind, Option.bind_some, Option.pure_def, Option.some.injEq]
    omega
  rw [List.cons_append, List.cons_append]
  show followedBy ((hexUnit? a b c d).map Item.ofUnit) (items? s) = _
  rw [hunit, Option.map_some]

theorem items?_escape {c letter : Char} (h : (c, letter) ∈ escapes) (s : List Char) :
    items? ('\\' :: letter :: s) = followedBy (some (.char c)) (items? s) := by
  simp only [escapes, List.mem_cons, Prod.mk.injEq, List.not_mem_nil, or_false] at h
  rcases h with ⟨rfl, rfl⟩ | ⟨rfl, rfl⟩ | ⟨rfl, rfl⟩ | ⟨rfl, rfl⟩ | ⟨rfl, rfl⟩ | ⟨rfl, rfl⟩ |
    ⟨rfl, rfl⟩ | ⟨rfl, rfl⟩ <;> rfl

theorem items?_plain {c : Char} (hspace : ' ' ≤ c) (hquote : c ≠ '"') (hbackslash : c ≠ '\\')
    (s : List Char) : items? (c :: s) = followedBy (some (.char c)) (items? s) := by
  have hplain : plain? c = some (.char c) := by
    rw [plain?, if_neg]
    rintro (hcontrol | heq)
    · exact Char.not_lt.2 hspace hcontrol
    · exact hbackslash heq
  rw [items?, hplain]
  · exact hquote
  · exact fun _ _ _ _ _ heq => absurd heq hbackslash
  · exact fun _ _ heq => absurd heq hbackslash

theorem items?_item {item : Item} {w : List Char} (h : item.Writes w) (s : List Char) :
    items? (w ++ s) = followedBy (some item) (items? s) := by
  cases h with
  | plain hspace hquote hbackslash => exact items?_plain hspace hquote hbackslash s
  | escape h => exact items?_escape h s
  | number h => rw [items?_number h, Item.ofUnit_toNat]
  | half hlow hhigh h => rw [items?_number h, Item.ofUnit_half hlow hhigh]

/-- Items are read up to the quote behind them. -/
theorem items?_append {items : List Item} {s : List Char} (h : ItemsWrite items s)
    (r : List Char) : items? (s ++ '"' :: r) = some (items, r) := by
  induction h with
  | nil => rfl
  | cons hw _ ih =>
    rw [List.append_assoc, items?_item hw, ih]
    rfl

/-! ## Texts that are read -/

theorem paired_eq {high low : Nat} {c : Char}
    (hc : c.toNat = 0x10000 + (high - 0xD800) * 0x400 + (low - 0xDC00)) : paired high low = c := by
  rw [paired, ← hc, Char.ofNat_toNat]

theorem toNat_ofNat {n : Nat} (h : n.isValidChar) : (Char.ofNat n).toNat = n := by
  rw [Char.ofNat, dif_pos h]
  rfl

theorem toNat_paired {high low : Nat} (hhigh : high ≤ 0xDBFF) (hlow : low ≤ 0xDFFF) :
    (paired high low).toNat = 0x10000 + (high - 0xD800) * 0x400 + (low - 0xDC00) := by
  have hvalid : (0x10000 + (high - 0xD800) * 0x400 + (low - 0xDC00)).isValidChar := by
    right
    omega
  rw [paired, toNat_ofNat hvalid]

theorem chars?_eq_some_iff {items : List Item} {s : List Char} :
    chars? items = some s ↔ Stands items s := by
  constructor
  · intro h
    fun_induction chars? items generalizing s with
    | case1 =>
      cases h
      exact .nil
    | case2 c r ih =>
      obtain ⟨s, hs, rfl⟩ := Option.map_eq_some_iff.1 h
      exact .char (ih hs)
    | case3 high low r hhalves ih =>
      obtain ⟨s, hs, rfl⟩ := Option.map_eq_some_iff.1 h
      simp only [isHigh, isLow, Bool.and_eq_true, decide_eq_true_eq] at hhalves
      obtain ⟨⟨hh, hh'⟩, hl, hl'⟩ := hhalves
      exact .pair hh hh' hl hl' (toNat_paired hh' hl') (ih hs)
    | case4 => cases h
    | case5 => cases h
  · intro h
    induction h with
    | nil => rfl
    | char _ ih => rw [chars?, ih, Option.map_some]
    | pair hh hh' hl hl' hc _ ih =>
      rw [chars?, if_pos (by simp [isHigh, isLow, hh, hh', hl, hl']), ih, paired_eq hc,
        Option.map_some]

theorem map_chars?_eq_some_iff {items : List Item} {t : String} :
    (chars? items).map String.ofList = some t ↔ Stands items t.toList := by
  rw [Option.map_eq_some_iff]
  constructor
  · rintro ⟨s, hs, rfl⟩
    rw [String.toList_ofList]
    exact chars?_eq_some_iff.1 hs
  · intro hstands
    exact ⟨t.toList, chars?_eq_some_iff.2 hstands, String.ofList_toList⟩

/-- What is written between quotes is read as the text that it stands for, if there is one. -/
theorem read?_append {text : Option String} {s : List Char} (h : Writes text s) (r : List Char) :
    read? (s ++ '"' :: r) = some (text, r) := by
  obtain ⟨items, hitems, htext⟩ := h
  have hchars : (chars? items).map String.ofList = text := by
    ext t
    rw [map_chars?_eq_some_iff, htext t]
  rw [read?, items?_append hitems]
  exact congrArg (fun text => some (text, r)) hchars

/-! ## What is read is written -/

theorem hexDigit_of_hexDigit? {n : Nat} {c : Char} (h : hexDigit? c = some n) : HexDigit n c := by
  have hascii : c.toNat < 128 := by
    unfold hexDigit? at h
    split at h
    · next hdigit => exact Nat.lt_of_le_of_lt (Text.isDigit_iff.1 hdigit).2 (by decide)
    split at h
    · next hlower => exact Nat.lt_of_le_of_lt hlower.2 (by decide)
    split at h
    · next hupper => exact Nat.lt_of_le_of_lt hupper.2 (by decide)
    cases h
  -- All of these are in ASCII, so that they can be gone through.
  have hall : ∀ code < 128, ∀ n ∈ hexDigit? (Char.ofNat code),
      "0123456789abcdef".toList[n]? = some (Char.ofNat code) ∨
        "0123456789ABCDEF".toList[n]? = some (Char.ofNat code) := by decide +kernel
  have hdigit := hall c.toNat hascii n
  rw [Char.ofNat_toNat] at hdigit
  exact hdigit h

theorem hexUnit_of_hexUnit? {unit : Nat} {a b c d : Char} (h : hexUnit? a b c d = some unit) :
    HexUnit unit [a, b, c, d] := by
  simp only [hexUnit?, Option.bind_eq_bind, Option.bind_eq_some_iff, Option.pure_def,
    Option.some.injEq] at h
  obtain ⟨p, hp, q, hq, r, hr, s, hs, rfl⟩ := h
  have hdigits := HexUnit.digits (hexDigit_of_hexDigit? hp) (hexDigit_of_hexDigit? hq)
    (hexDigit_of_hexDigit? hr) (hexDigit_of_hexDigit? hs)
  have hvalue : ((p * 16 + q) * 16 + r) * 16 + s = (p * 16 + q) * 256 + r * 16 + s := by omega
  rwa [hvalue] at hdigits

theorem HexUnit.lt {unit : Nat} {digits : List Char} (h : HexUnit unit digits) :
    unit < 0x10000 := by
  obtain ⟨hp, hq, hr, hs⟩ := h
  have := hp.lt
  have := hq.lt
  have := hr.lt
  have := hs.lt
  omega

theorem writes_ofUnit {unit : Nat} {digits : List Char} (h : HexUnit unit digits) :
    (Item.ofUnit unit).Writes ('\\' :: 'u' :: digits) := by
  have hlt := h.lt
  by_cases hhalf : 0xD800 ≤ unit ∧ unit ≤ 0xDFFF
  · rw [Item.ofUnit_half hhalf.1 hhalf.2]
    exact .half hhalf.1 hhalf.2 h
  · have hvalid : unit.isValidChar := by
      rw [Nat.isValidChar]
      omega
    have hitem := Item.ofUnit_toNat (Char.ofNat unit)
    rw [toNat_ofNat hvalid] at hitem
    rw [hitem]
    exact .number (by rwa [toNat_ofNat hvalid])

theorem mem_escapes_of_escaped? {c letter : Char} (h : escaped? letter = some c) :
    (c, letter) ∈ escapes := by
  unfold escaped? at h
  split at h <;> cases h <;> decide

/-- What is read up to a quote is written in front of it. -/
theorem exists_itemsWrite_of_items? {items : List Item} {s r : List Char}
    (h : items? s = some (items, r)) : ∃ w, ItemsWrite items w ∧ s = w ++ '"' :: r := by
  fun_induction items? s generalizing items with
  | case1 => cases h
  | case2 =>
    cases h
    exact ⟨[], .nil, rfl⟩
  | case3 a b c d s ih =>
    obtain ⟨_, _, hfirst, hbehind, rfl⟩ := exists_of_followedBy_eq_some h
    obtain ⟨unit, hunit, rfl⟩ := Option.map_eq_some_iff.1 hfirst
    obtain ⟨w, hw, rfl⟩ := ih hbehind
    exact ⟨_, .cons (writes_ofUnit (hexUnit_of_hexUnit? hunit)) hw, rfl⟩
  | case4 letter s _ ih =>
    obtain ⟨_, _, hfirst, hbehind, rfl⟩ := exists_of_followedBy_eq_some h
    obtain ⟨c, hc, rfl⟩ := Option.map_eq_some_iff.1 hfirst
    obtain ⟨w, hw, rfl⟩ := ih hbehind
    exact ⟨_, .cons (.escape (mem_escapes_of_escaped? hc)) hw, rfl⟩
  | case5 c s hquote _ _ ih =>
    obtain ⟨_, _, hfirst, hbehind, rfl⟩ := exists_of_followedBy_eq_some h
    obtain ⟨w, hw, rfl⟩ := ih hbehind
    rw [plain?] at hfirst
    split at hfirst
    · cases hfirst
    · next hplain =>
      cases hfirst
      rw [not_or, Char.not_lt] at hplain
      exact ⟨_, .cons (.plain hplain.1 hquote hplain.2) hw, rfl⟩

/-- What is read between quotes is written there for the text that it stands for. -/
theorem exists_writes_of_read? {text : Option String} {s r : List Char}
    (h : read? s = some (text, r)) : ∃ w, Writes text w ∧ s = w ++ '"' :: r := by
  obtain ⟨⟨items, r⟩, hitems, ⟨⟩⟩ := Option.map_eq_some_iff.1 h
  obtain ⟨w, hw, rfl⟩ := exists_itemsWrite_of_items? hitems
  exact ⟨w, ⟨items, hw, fun t => map_chars?_eq_some_iff⟩, rfl⟩

/-! ## Every text can be written -/

theorem exists_item_writes (c : Char) : ∃ w, (Item.char c).Writes w := by
  by_cases hspace : ' ' ≤ c
  · by_cases hquote : c = '"'
    · have hescape : (c, '"') ∈ escapes := by simp [hquote, escapes]
      exact ⟨_, .escape hescape⟩
    · by_cases hbackslash : c = '\\'
      · have hescape : (c, '\\') ∈ escapes := by simp [hbackslash, escapes]
        exact ⟨_, .escape hescape⟩
      · exact ⟨_, .plain hspace hquote hbackslash⟩
  · have hcontrol : c.toNat < 0x20 := by
      rw [Char.not_le, Char.lt_def, UInt32.lt_iff_toNat_lt] at hspace
      exact hspace
    obtain ⟨digits, hdigits⟩ := exists_hexUnit (show c.toNat < 0x10000 by omega)
    exact ⟨_, .number hdigits⟩

theorem exists_itemsWrite_chars (cs : List Char) : ∃ s, ItemsWrite (cs.map .char) s := by
  induction cs with
  | nil => exact ⟨[], .nil⟩
  | cons c cs ih =>
    obtain ⟨w, hw⟩ := exists_item_writes c
    obtain ⟨s, hs⟩ := ih
    exact ⟨w ++ s, .cons hw hs⟩

theorem chars?_map_char (cs : List Char) : chars? (cs.map .char) = some cs := by
  induction cs with
  | nil => rfl
  | cons c cs ih => rw [List.map_cons, chars?, ih, Option.map_some]

/-- Every text can be written, and so can a string that stands for none. -/
theorem exists_writes (text : Option String) : ∃ s, Writes text s := by
  cases text with
  | some text =>
    obtain ⟨s, hs⟩ := exists_itemsWrite_chars text.toList
    refine ⟨s, _, hs, fun t => ?_⟩
    rw [← chars?_eq_some_iff, chars?_map_char, Option.some.injEq, Option.some.injEq,
      String.toList_inj]
  | none =>
    obtain ⟨digits, hdigits⟩ := exists_hexUnit (show 0xD800 < 0x10000 by decide)
    refine ⟨_, [.half 0xD800], .cons (.half (by decide) (by decide) hdigits) .nil, fun t => ?_⟩
    rw [← chars?_eq_some_iff]
    exact iff_of_false nofun nofun

end AttributeRules.Json.Quoted
