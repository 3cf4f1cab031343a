import AttributeRules.Text.Decimal

/-!
# Numbers of JSON

An integer has its sign kept apart, since `-0` is not `0`. Of a number with a
fraction or an exponent nothing is kept: no value here may be one.

Main statement: a number takes some of the text (`read?_rest_length`).
-/

namespace AttributeRules.Json

/-- A number as it is written. -/
inductive Number
  | integer (negative : Bool) (magnitude : Nat)
  /-- A number with a fraction or an exponent. -/
  | real
  deriving DecidableEq

namespace Number

/-- The digits at the front of the text, at least one, and the rest. -/
def digits? (s : List Char) : Option (List Char × List Char) :=
  match s.takeWhile Text.isDigit with
  | [] => none
  | ds => some (ds, s.dropWhile Text.isDigit)

/-- The digits before the point: a zero, or digits that do not start with one. -/
def whole? : List Char → Option (List Char × List Char)
  | '0' :: r => some (['0'], r)
  | s => digits? s

/-- Whether a point and digits come first, and the rest behind them. -/
def fraction? : List Char → Option (Bool × List Char)
  | '.' :: r => (digits? r).map fun (_, r) => (true, r)
  | s => some (false, s)

/-- The text behind a sign that may come first. -/
def skipSign : List Char → List Char
  | '+' :: r => r
  | '-' :: r => r
  | s => s

/-- Whether an exponent comes first, and the rest behind it. -/
def exponent? : List Char → Option (Bool × List Char)
  | 'e' :: r | 'E' :: r => (digits? (skipSign r)).map fun (_, r) => (true, r)
  | s => some (false, s)

/-- The number at the front of a text, whose minus sign is already taken off, and the rest. -/
def magnitude? (negative : Bool) (s : List Char) : Option (Number × List Char) :=
  (whole? s).bind fun (ds, r) =>
    (fraction? r).bind fun (hasFraction, r) =>
      (exponent? r).map fun (hasExponent, r) =>
        (if hasFraction || hasExponent then real else integer negative (Text.decimalValue ds), r)

/-- The number at the front of a text, and the rest. -/
def read? : List Char → Option (Number × List Char)
  | '-' :: r => magnitude? true r
  | s => magnitude? false s

/-! ## What is left of the text -/

theorem digits?_rest_length {s ds r : List Char} (h : digits? s = some (ds, r)) :
    r.length < s.length := by
  unfold digits? at h
  split at h
  · cases h
  · next hne =>
    cases h
    have := List.length_pos_iff.2 hne
    have hs := congrArg List.length (List.takeWhile_append_dropWhile (p := Text.isDigit) (l := s))
    rw [List.length_append] at hs
    omega

theorem whole?_rest_length {s ds r : List Char} (h : whole? s = some (ds, r)) :
    r.length < s.length := by
  unfold whole? at h
  split at h
  · cases h; simp
  · exact digits?_rest_length h

theorem fraction?_rest_length {s r : List Char} {b : Bool} (h : fraction? s = some (b, r)) :
    r.length ≤ s.length := by
  unfold fraction? at h
  split at h
  · obtain ⟨⟨ds, r'⟩, hd, he⟩ := Option.map_eq_some_iff.1 h
    cases he
    exact Nat.le_succ_of_le (Nat.le_of_lt (digits?_rest_length hd))
  · cases h; exact Nat.le_refl _

theorem skipSign_length (s : List Char) : (skipSign s).length ≤ s.length := by
  unfold skipSign
  split <;> simp

theorem exponent?_rest_length {s r : List Char} {b : Bool} (h : exponent? s = some (b, r)) :
    r.length ≤ s.length := by
  have key {s : List Char} (h : (digits? (skipSign s)).map (fun (_, r) => (true, r)) = some (b, r)) :
      r.length ≤ s.length := by
    obtain ⟨⟨ds, r'⟩, hd, he⟩ := Option.map_eq_some_iff.1 h
    cases he
    exact Nat.le_of_lt (Nat.lt_of_lt_of_le (digits?_rest_length hd) (skipSign_length s))
  unfold exponent? at h
  split at h
  · exact Nat.le_succ_of_le (key h)
  · exact Nat.le_succ_of_le (key h)
  · cases h; exact Nat.le_refl _

theorem magnitude?_rest_length {s r : List Char} {b : Bool} {n : Number}
    (h : magnitude? b s = some (n, r)) : r.length < s.length := by
  obtain ⟨⟨ds, r₁⟩, h₁, h⟩ := Option.bind_eq_some_iff.1 h
  obtain ⟨⟨b₂, r₂⟩, h₂, h⟩ := Option.bind_eq_some_iff.1 h
  obtain ⟨⟨b₃, r₃⟩, h₃, h⟩ := Option.map_eq_some_iff.1 h
  cases h
  have := whole?_rest_length h₁
  have := fraction?_rest_length h₂
  have := exponent?_rest_length h₃
  omega

theorem read?_rest_length {s r : List Char} {n : Number} (h : read? s = some (n, r)) :
    r.length < s.length := by
  unfold read? at h
  split at h
  · exact Nat.lt_succ_of_lt (magnitude?_rest_length h)
  · exact magnitude?_rest_length h

end Number

end AttributeRules.Json
