import AttributeRules.Text.Decimal

/-!
# Strings of JSON

A string is read up to its closing quote as a list of items, one for each
character and each escape. Escapes may name halves of surrogate pairs; a string
in which they do not pair up is well formed, but stands for no text.

Main statement: a string takes some of the text (`read?_rest_length`).
-/

namespace AttributeRules.Json.Quoted

/-- What one character or escape of a string stands for. -/
inductive Item
  | char (c : Char)
  /-- Half of a surrogate pair. -/
  | half (unit : Nat)
  deriving DecidableEq

/-! ## Items -/

/-- The value of a hexadecimal digit. -/
def hexDigit? (c : Char) : Option Nat :=
  if Text.isDigit c then some (Text.digitValue c)
  else if 'a' ≤ c ∧ c ≤ 'f' then some (c.toNat - 'a'.toNat + 10)
  else if 'A' ≤ c ∧ c ≤ 'F' then some (c.toNat - 'A'.toNat + 10)
  else none

/-- The value of four hexadecimal digits. -/
def hexUnit? (a b c d : Char) : Option Nat := do
  return ((← hexDigit? a) * 16 + (← hexDigit? b)) * 256 + (← hexDigit? c) * 16 + (← hexDigit? d)

/-- Whether the unit is the first half of a surrogate pair. -/
def isHigh (unit : Nat) : Bool := 0xD800 ≤ unit && unit ≤ 0xDBFF

/-- Whether the unit is the second half of a surrogate pair. -/
def isLow (unit : Nat) : Bool := 0xDC00 ≤ unit && unit ≤ 0xDFFF

/-- What an escape by number stands for. -/
def Item.ofUnit (unit : Nat) : Item :=
  if isHigh unit || isLow unit then half unit else char (Char.ofNat unit)

/-- What the character behind a backslash stands for. -/
def escaped? : Char → Option Char
  | '"' => some '"'
  | '\\' => some '\\'
  | '/' => some '/'
  | 'b' => some '\x08'
  | 'f' => some '\x0c'
  | 'n' => some '\n'
  | 'r' => some '\r'
  | 't' => some '\t'
  | _ => none

/-- What a character stands for by itself: not a control character, nor a lone backslash. -/
def plain? (c : Char) : Option Item :=
  if c < ' ' ∨ c = '\\' then none else some (.char c)

/-! ## Strings -/

/-- An item in front of those found behind it. -/
def followedBy (item : Option Item) (found : Option (List Item × List Char)) :
    Option (List Item × List Char) :=
  match item, found with
  | some i, some (items, rest) => some (i :: items, rest)
  | _, _ => none

/-- The items up to the closing quote, and the rest behind it. -/
def items? : List Char → Option (List Item × List Char)
  | [] => none
  | '"' :: r => some ([], r)
  | '\\' :: 'u' :: a :: b :: c :: d :: r =>
    followedBy ((hexUnit? a b c d).map Item.ofUnit) (items? r)
  | '\\' :: e :: r => followedBy ((escaped? e).map Item.char) (items? r)
  | c :: r => followedBy (plain? c) (items? r)

/-- The character that a surrogate pair stands for. -/
def paired (high low : Nat) : Char :=
  Char.ofNat (0x10000 + (high - 0xD800) * 0x400 + (low - 0xDC00))

/-- The characters of a string, if its surrogates pair up. -/
def chars? : List Item → Option (List Char)
  | [] => some []
  | .char c :: r => (chars? r).map (c :: ·)
  | .half high :: .half low :: r =>
    if isHigh high && isLow low then (chars? r).map (paired high low :: ·) else none
  | .half _ :: _ => none

/-- The text of the string whose opening quote has been taken off, and the rest. -/
def read? (s : List Char) : Option (Option String × List Char) :=
  (items? s).map fun (items, r) => ((chars? items).map String.ofList, r)

/-! ## What is left of the text -/

theorem exists_of_followedBy_eq_some {item : Option Item}
    {found : Option (List Item × List Char)} {items : List Item} {rest : List Char}
    (h : followedBy item found = some (items, rest)) :
    ∃ first behind, item = some first ∧ found = some (behind, rest) ∧ items = first :: behind := by
  unfold followedBy at h
  split at h
  · cases h
    exact ⟨_, _, rfl, rfl, rfl⟩
  · cases h

theorem items?_rest_length {s r : List Char} {items : List Item}
    (h : items? s = some (items, r)) : r.length < s.length := by
  fun_induction items? s generalizing items with
  | case1 => cases h
  | case2 => cases h; simp
  | case3 _ _ _ _ _ ih | case4 _ _ _ ih | case5 _ _ _ _ _ ih =>
    obtain ⟨_, behind, _, h, _⟩ := exists_of_followedBy_eq_some h
    have := ih h
    simp only [List.length_cons]
    omega

theorem read?_rest_length {s r : List Char} {text : Option String}
    (h : read? s = some (text, r)) : r.length < s.length := by
  obtain ⟨⟨items, r'⟩, hi, he⟩ := Option.map_eq_some_iff.1 h
  cases he
  exact items?_rest_length hi

end AttributeRules.Json.Quoted
