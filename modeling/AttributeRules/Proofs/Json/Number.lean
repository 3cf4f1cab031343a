import AttributeRules.Json.Number
import AttributeRules.Proofs.Text.Trim

/-!
# Numbers as they are written

A number is written as digits without needless zeros, behind a minus sign if it
is negative; a point with digits and an exponent may follow (`Number.Writes`).
It is read as that number if what follows does not go on with it
(`Number.read?_append`), and nothing else is (`Number.exists_writes_of_read?`).
-/

namespace AttributeRules.Json.Number

open Text

/-! ## Written numbers -/

/-- Digits, at least one. -/
structure Digits (ds : List Char) : Prop where
  ne_nil : ds ≠ []
  isDigit_of_mem : ∀ c ∈ ds, isDigit c = true

/-- The digits of a whole number: a zero, or digits that do not start with one. -/
structure Whole (ds : List Char) : Prop extends Digits ds where
  eq_zero : '0' ∈ ds.head? → ds = ['0']

/-- A point and digits behind it, if they are there. -/
inductive Fraction : Bool → List Char → Prop
  | absent : Fraction false []
  | present {ds : List Char} : Digits ds → Fraction true ('.' :: ds)

/-- An exponent, if it is there. -/
inductive Exponent : Bool → List Char → Prop
  | absent : Exponent false []
  | present {e : Char} {sign ds : List Char} :
    e = 'e' ∨ e = 'E' → sign = [] ∨ sign = ['+'] ∨ sign = ['-'] → Digits ds →
    Exponent true (e :: (sign ++ ds))

/-- The sign of a negative number; others have none. -/
def minus : Bool → List Char
  | true => ['-']
  | false => []

/-- How a number is written. -/
inductive Writes : Number → List Char → Prop
  | integer {ds : List Char} (negative : Bool) :
    Whole ds → Writes (.integer negative (decimalValue ds)) (minus negative ++ ds)
  | real {ds fraction exponent : List Char} {hasFraction hasExponent : Bool} (negative : Bool) :
    Whole ds → Fraction hasFraction fraction → Exponent hasExponent exponent →
    (hasFraction || hasExponent) = true →
    Writes .real (minus negative ++ (ds ++ (fraction ++ exponent)))

/-- The text does not go on with a number that stands before it. -/
def EndsBefore (r : List Char) : Prop :=
  ∀ c ∈ r.head?, isDigit c = false ∧ c ≠ '.' ∧ c ≠ 'e' ∧ c ≠ 'E'

theorem Writes.head {n : Number} {s : List Char} (h : n.Writes s) :
    ∃ c r, s = c :: r ∧ (c = '-' ∨ isDigit c = true) := by
  have hsigned : ∀ (negative : Bool) {ds : List Char} (r : List Char), Digits ds →
      ∃ c r', minus negative ++ (ds ++ r) = c :: r' ∧ (c = '-' ∨ isDigit c = true) := by
    intro negative ds r hds
    obtain ⟨d, ds', rfl⟩ := List.exists_cons_of_ne_nil hds.ne_nil
    cases negative with
    | true => exact ⟨'-', _, rfl, .inl rfl⟩
    | false => exact ⟨d, _, rfl, .inr (hds.isDigit_of_mem d List.mem_cons_self)⟩
  cases h with
  | @integer ds negative hds =>
    have h := hsigned negative [] hds.toDigits
    rwa [List.append_nil] at h
  | real negative hds => exact hsigned negative _ hds.toDigits

theorem eq_zero_of_head?_decimal {n : Nat} (h : '0' ∈ (decimal n).head?) : n = 0 := by
  induction n using Nat.strongRecOn with
  | ind n ih =>
    rw [decimal] at h
    split at h
    · next hn =>
      have hdigit := congrArg digitValue (Option.some.inj h)
      rwa [digitValue_digit hn] at hdigit
    · next hn =>
      have hfirst := ih (n / 10) (by omega) (mem_of_head?_append (decimal_ne_nil _) h)
      omega

theorem writes_decimal (negative : Bool) (n : Nat) :
    Writes (.integer negative n) (minus negative ++ decimal n) := by
  have hdigits : Whole (decimal n) :=
    { ne_nil := decimal_ne_nil n
      isDigit_of_mem := fun _ => isDigit_of_mem_decimal
      eq_zero := fun h => by
        rw [eq_zero_of_head?_decimal h, decimal]
        rfl }
  have h := Writes.integer negative hdigits
  rwa [decimalValue_decimal] at h

theorem whole_zero : Whole ['0'] :=
  ⟨⟨List.cons_ne_nil _ _, List.forall_mem_singleton.2 rfl⟩, fun _ => rfl⟩

theorem exists_writes (n : Number) : ∃ s, n.Writes s := by
  cases n with
  | integer negative n => exact ⟨_, writes_decimal negative n⟩
  | real => exact ⟨_, .real false whole_zero (.present whole_zero.toDigits) .absent rfl⟩

/-! ## Numbers that are read -/

section Parts

variable {ds r : List Char}

theorem digits?_append (h : Digits ds) (hr : ∀ c ∈ r.head?, isDigit c = false) :
    digits? (ds ++ r) = some (ds, r) := by
  obtain ⟨htake, hdrop⟩ := span_run h.isDigit_of_mem hr
  obtain ⟨d, ds', rfl⟩ := List.exists_cons_of_ne_nil h.ne_nil
  rw [digits?, htake, hdrop]

theorem whole?_append (h : Whole ds) (hr : ∀ c ∈ r.head?, isDigit c = false) :
    whole? (ds ++ r) = some (ds, r) := by
  by_cases hzero : '0' ∈ ds.head?
  · rw [h.eq_zero hzero]
    rfl
  · obtain ⟨d, ds', rfl⟩ := List.exists_cons_of_ne_nil h.ne_nil
    rw [← digits?_append h.toDigits hr]
    unfold whole?
    split
    · next heq =>
      cases heq
      exact absurd rfl hzero
    · rfl

theorem fraction?_append {hasFraction : Bool} {fraction : List Char}
    (h : Fraction hasFraction fraction) (hr : ∀ c ∈ r.head?, isDigit c = false ∧ c ≠ '.') :
    fraction? (fraction ++ r) = some (hasFraction, r) := by
  cases h with
  | absent =>
    show fraction? r = _
    unfold fraction?
    split
    · exact absurd rfl (hr '.' rfl).2
    · rfl
  | present hds =>
    rw [List.cons_append, fraction?, digits?_append hds fun c hc => (hr c hc).1]
    rfl

theorem skipSign_append {sign : List Char} (hsign : sign = [] ∨ sign = ['+'] ∨ sign = ['-'])
    (hds : Digits ds) : skipSign (sign ++ (ds ++ r)) = ds ++ r := by
  rcases hsign with rfl | rfl | rfl
  · obtain ⟨d, ds', rfl⟩ := List.exists_cons_of_ne_nil hds.ne_nil
    have hd := hds.isDigit_of_mem d List.mem_cons_self
    show skipSign (d :: (ds' ++ r)) = _
    unfold skipSign
    split
    · next heq =>
      cases heq
      cases hd
    · next heq =>
      cases heq
      cases hd
    · rfl
  · rfl
  · rfl

theorem exponent?_append {hasExponent : Bool} {exponent : List Char}
    (h : Exponent hasExponent exponent) (hr : EndsBefore r) :
    exponent? (exponent ++ r) = some (hasExponent, r) := by
  cases h with
  | absent =>
    show exponent? r = _
    unfold exponent?
    split
    · exact absurd rfl (hr 'e' rfl).2.2.1
    · exact absurd rfl (hr 'E' rfl).2.2.2
    · rfl
  | @present e sign ds he hsign hds =>
    have hdigits : digits? (skipSign (sign ++ (ds ++ r))) = some (ds, r) := by
      rw [skipSign_append hsign hds]
      exact digits?_append hds fun c hc => (hr c hc).1
    rw [List.cons_append, List.append_assoc]
    rcases he with rfl | rfl
    · rw [exponent?, hdigits]
      rfl
    · rw [exponent?, hdigits]
      rfl

end Parts

/-- A number that comes in its parts is read as far as they go. -/
theorem magnitude?_append {ds fraction exponent r : List Char} {hasFraction hasExponent : Bool}
    (hds : Whole ds) (hfraction : Fraction hasFraction fraction)
    (hexponent : Exponent hasExponent exponent) (hr : EndsBefore r) (negative : Bool) :
    magnitude? negative (ds ++ (fraction ++ (exponent ++ r))) = some
      (if hasFraction || hasExponent then real else integer negative (decimalValue ds), r) := by
  have hbehind : ∀ c ∈ (exponent ++ r).head?, isDigit c = false ∧ c ≠ '.' := by
    intro c hc
    cases hexponent with
    | absent => exact ⟨(hr c hc).1, (hr c hc).2.1⟩
    | present he =>
      cases hc
      rcases he with rfl | rfl <;> decide
  have hbehind' : ∀ c ∈ (fraction ++ (exponent ++ r)).head?, isDigit c = false := by
    intro c hc
    cases hfraction with
    | absent => exact (hbehind c hc).1
    | present =>
      cases hc
      decide
  simp only [magnitude?, whole?_append hds hbehind', fraction?_append hfraction hbehind,
    exponent?_append hexponent hr, Option.bind_some, Option.map_some]

theorem read?_minus {ds : List Char} (negative : Bool) (hds : Digits ds) (r : List Char) :
    read? (minus negative ++ (ds ++ r)) = magnitude? negative (ds ++ r) := by
  cases negative with
  | true => rfl
  | false =>
    obtain ⟨d, ds', rfl⟩ := List.exists_cons_of_ne_nil hds.ne_nil
    have hd := hds.isDigit_of_mem d List.mem_cons_self
    show read? (d :: (ds' ++ r)) = magnitude? false (d :: (ds' ++ r))
    unfold read?
    split
    · next heq =>
      cases heq
      cases hd
    · rfl

/-- What is written as a number is read as that number, if what follows does not go on with it. -/
theorem read?_append {n : Number} {s r : List Char} (h : n.Writes s) (hr : EndsBefore r) :
    read? (s ++ r) = some (n, r) := by
  cases h with
  | @integer ds negative hds =>
    rw [List.append_assoc, read?_minus negative hds.toDigits]
    exact magnitude?_append hds .absent .absent hr negative
  | @real ds fraction exponent _ _ negative hds hfraction hexponent hpart =>
    rw [List.append_assoc, List.append_assoc, List.append_assoc, read?_minus negative hds.toDigits,
      magnitude?_append hds hfraction hexponent hr negative, if_pos hpart]

/-! ## What is read is written -/

section Parts

variable {s r : List Char}

theorem digits_of_digits? {ds : List Char} (h : digits? s = some (ds, r)) :
    Digits ds ∧ s = ds ++ r := by
  rw [digits?] at h
  split at h
  · cases h
  · next hne =>
    cases h
    exact ⟨⟨hne, fun c hc => List.all_eq_true.1 List.all_takeWhile c hc⟩,
      List.takeWhile_append_dropWhile.symm⟩

theorem whole_of_whole? {ds : List Char} (h : whole? s = some (ds, r)) :
    Whole ds ∧ s = ds ++ r := by
  unfold whole? at h
  split at h
  · cases h
    exact ⟨whole_zero, rfl⟩
  · next hzero =>
    obtain ⟨hds, rfl⟩ := digits_of_digits? h
    refine ⟨⟨hds, fun hhead => ?_⟩, rfl⟩
    obtain ⟨d, ds', rfl⟩ := List.exists_cons_of_ne_nil hds.ne_nil
    cases hhead
    exact absurd rfl (hzero (ds' ++ r))

theorem fraction_of_fraction? {hasFraction : Bool} (h : fraction? s = some (hasFraction, r)) :
    ∃ fraction, Fraction hasFraction fraction ∧ s = fraction ++ r := by
  unfold fraction? at h
  split at h
  · obtain ⟨⟨ds, r⟩, hread, ⟨⟩⟩ := Option.map_eq_some_iff.1 h
    obtain ⟨hds, rfl⟩ := digits_of_digits? hread
    exact ⟨_, .present hds, rfl⟩
  · cases h
    exact ⟨[], .absent, rfl⟩

theorem exists_sign (s : List Char) :
    ∃ sign, (sign = [] ∨ sign = ['+'] ∨ sign = ['-']) ∧ s = sign ++ skipSign s := by
  unfold skipSign
  split
  · exact ⟨['+'], .inr (.inl rfl), rfl⟩
  · exact ⟨['-'], .inr (.inr rfl), rfl⟩
  · exact ⟨[], .inl rfl, rfl⟩

theorem exponent_of_exponent? {hasExponent : Bool} (h : exponent? s = some (hasExponent, r)) :
    ∃ exponent, Exponent hasExponent exponent ∧ s = exponent ++ r := by
  have hpresent : ∀ {e : Char} {s : List Char}, e = 'e' ∨ e = 'E' →
      (digits? (skipSign s)).map (fun read => (true, read.2)) = some (hasExponent, r) →
      ∃ exponent, Exponent hasExponent exponent ∧ e :: s = exponent ++ r := by
    intro e s he h
    obtain ⟨⟨ds, r⟩, hread, ⟨⟩⟩ := Option.map_eq_some_iff.1 h
    obtain ⟨hds, hskip⟩ := digits_of_digits? hread
    obtain ⟨sign, hsign, hs⟩ := exists_sign s
    refine ⟨_, .present he hsign hds, ?_⟩
    rw [hs, hskip, List.cons_append, List.append_assoc]
  unfold exponent? at h
  split at h
  · exact hpresent (.inl rfl) h
  · exact hpresent (.inr rfl) h
  · cases h
    exact ⟨[], .absent, rfl⟩

theorem writes_of_magnitude? {n : Number} {negative : Bool}
    (h : magnitude? negative s = some (n, r)) :
    ∃ w, n.Writes (minus negative ++ w) ∧ s = w ++ r := by
  obtain ⟨⟨ds, r₁⟩, hreadWhole, h⟩ := Option.bind_eq_some_iff.1 h
  obtain ⟨⟨hasFraction, r₂⟩, hreadFraction, h⟩ := Option.bind_eq_some_iff.1 h
  obtain ⟨⟨hasExponent, r₃⟩, hreadExponent, ⟨⟩⟩ := Option.map_eq_some_iff.1 h
  obtain ⟨hds, rfl⟩ := whole_of_whole? hreadWhole
  obtain ⟨fraction, hfraction, rfl⟩ := fraction_of_fraction? hreadFraction
  obtain ⟨exponent, hexponent, rfl⟩ := exponent_of_exponent? hreadExponent
  refine ⟨ds ++ (fraction ++ exponent), ?_, by simp only [List.append_assoc]⟩
  split
  · next hpart => exact .real negative hds hfraction hexponent hpart
  · next hpart =>
    cases hfraction with
    | present => exact absurd rfl hpart
    | absent =>
      cases hexponent with
      | present => exact absurd rfl hpart
      | absent =>
        rw [List.append_nil, List.append_nil]
        exact .integer negative hds

end Parts

theorem exists_writes_of_read? {n : Number} {s r : List Char} (h : read? s = some (n, r)) :
    ∃ w, n.Writes w ∧ s = w ++ r := by
  unfold read? at h
  split at h
  · obtain ⟨w, hw, rfl⟩ := writes_of_magnitude? h
    exact ⟨_, hw, rfl⟩
  · obtain ⟨w, hw, rfl⟩ := writes_of_magnitude? h
    exact ⟨_, hw, rfl⟩

end AttributeRules.Json.Number
