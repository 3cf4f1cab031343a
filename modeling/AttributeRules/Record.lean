import AttributeRules.Text.Basic
import AttributeRules.Text.Decimal
import Std.Data.ExtTreeMap

/-!
# Values and records

The value of an attribute is a signed 64-bit integer or a string, and a record
is a finite map from names to values: two records with the same values are
equal, however they were filled. A rule names attributes in lowercase, while the
names of a record keep their case; `Record.lookup` finds the value that a rule
means.
-/

namespace AttributeRules

/-! ## Values -/

/-- The integer as one of 64 bits, if it is one. -/
def int64? (n : Int) : Option Int64 :=
  if Int64.minValue.toInt ≤ n ∧ n ≤ Int64.maxValue.toInt then some (Int64.ofInt n) else none

theorem int64?_eq_some_iff {n : Int} {v : Int64} : int64? n = some v ↔ v.toInt = n := by
  have hmin : Int64.minValue.toInt = -2 ^ 63 := rfl
  have hmax : Int64.maxValue.toInt = 2 ^ 63 - 1 := rfl
  rw [int64?, hmin, hmax]
  constructor
  · intro h
    split at h
    · next hn =>
      cases h
      exact Int64.toInt_ofInt_of_le hn.1 (by omega)
    · cases h
  · rintro rfl
    have hlow := v.le_toInt
    have hhigh := v.toInt_lt
    rw [if_pos ⟨hlow, by omega⟩, Int64.ofInt_toInt]

/-- The value of an attribute. -/
inductive Value
  /-- An integer of 64 bits. -/
  | int (n : Int64)
  /-- A string. -/
  | str (s : String)
  deriving DecidableEq

namespace Value

/-- The integer, if the value is one. -/
def int? : Value → Option Int64
  | int n => some n
  | str _ => none

/-- The string, if the value is one. -/
def str? : Value → Option String
  | int _ => none
  | str s => some s

/-- What sort of value it is, in words. -/
def sort : Value → String
  | int _ => "integer"
  | str _ => "string"

/-- The written form: an integer in decimal, a string between single quotes. -/
def render : Value → String
  | int n => String.ofList (Text.integer n.toInt)
  | str s => "'" ++ s ++ "'"

/-- The value with its letters lowercased. -/
def lowercase : Value → Value
  | int n => int n
  | str s => str (Text.lowercase s)

end Value

/-! ## Records -/

/-- The values of attributes, by name. -/
structure Record where
  /-- The values, in the order of the names. -/
  values : Std.ExtTreeMap String Value
  deriving DecidableEq

namespace Record

/-- The record without any value. -/
def empty : Record := ⟨∅⟩

/-- The value of exactly this name. -/
def get? (r : Record) (name : String) : Option Value := r.values[name]?

/-- The record with this value for this name, in place of the one it may have had. -/
def set (r : Record) (name : String) (value : Value) : Record := ⟨r.values.insert name value⟩

/-- Sets a value, and gives the one that it replaces. -/
def insert (r : Record) (name : String) (value : Value) : Option Value × Record :=
  (r.get? name, r.set name value)

/-- The record of a list of names and values, where a later value of a name replaces an
earlier one. -/
def ofList (members : List (String × Value)) : Record :=
  members.foldl (fun r (name, value) => r.set name value) empty

/-- The value of a lowercased name: of that name itself, or else of the first name whose
lowercase it is. -/
def lookup (r : Record) (field : String) : Option Value :=
  r.get? field <|>
    (r.values.toList.find? fun (name, _) => Text.lowercase name = field).map Prod.snd

/-- The number of names. -/
def size (r : Record) : Nat := r.values.size

/-- Whether there is no name. -/
def isEmpty (r : Record) : Bool := r.values.isEmpty

/-- Records are equal if they have the same values. -/
@[ext]
theorem ext {r s : Record} (h : ∀ name, r.get? name = s.get? name) : r = s := by
  obtain ⟨r⟩ := r
  obtain ⟨s⟩ := s
  exact congrArg Record.mk (Std.ExtTreeMap.ext_getElem? (fun name => h name))

@[simp] theorem get?_empty (name : String) : empty.get? name = none := by
  simp [get?, empty]

/-- Setting a value changes it for its name and no other. -/
@[simp] theorem get?_set (r : Record) (name other : String) (value : Value) :
    (r.set name value).get? other = if other = name then some value else r.get? other := by
  simp only [get?, set, Std.ExtTreeMap.getElem?_insert, Std.LawfulEqCmp.compare_eq_iff_eq]
  simp only [eq_comm]

end Record

end AttributeRules
