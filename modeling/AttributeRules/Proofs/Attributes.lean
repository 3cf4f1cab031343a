import Mathlib.Data.Finset.Card
import AttributeRules.Proofs.Text.Lowercase
import AttributeRules.Settings

/-!
# Attributes by their names

The names of attributes are taken for equal if their lowercases are: a name is
admitted if a listed one has the same lowercase (`Whitelist.contains_ofList_iff`),
and a record finds the value of a name under the only name in it that has the
same lowercase (`Record.lookup_of_unique`).
-/

namespace AttributeRules

open Text

namespace Whitelist

theorem contains_foldl_insert (names : List String) (set : Std.ExtTreeSet String) (name : String) :
    (names.foldl (fun set name => set.insert (lowercase name)) set).contains name = true ↔
      set.contains name = true ∨ ∃ listed ∈ names, lowercase listed = name := by
  induction names generalizing set with
  | nil => simp
  | cons listed names ih =>
    rw [List.foldl_cons, ih]
    simp only [Std.ExtTreeSet.contains_insert, Bool.or_eq_true, beq_iff_eq,
      Std.LawfulEqCmp.compare_eq_iff_eq, List.mem_cons, exists_eq_or_imp]
    simp only [or_assoc, or_left_comm]

theorem contains_names_ofList_iff {names : List String} {name : String} :
    (ofList names).names.contains name = true ↔ ∃ listed ∈ names, lowercase listed = name := by
  rw [ofList, contains_foldl_insert]
  simp

theorem contains_ofList_iff {names : List String} {name : String} :
    (ofList names).contains name = true ↔
      ∃ listed ∈ names, lowercase listed = lowercase name := by
  rw [contains, Bool.or_eq_true, contains_names_ofList_iff, contains_names_ofList_iff]
  constructor
  · rintro (⟨listed, hmem, rfl⟩ | h)
    · exact ⟨listed, hmem, (lowercase_lowercase listed).symm⟩
    · exact h
  · exact .inr

theorem size_ofList (names : List String) :
    (ofList names).size = (names.map lowercase).toFinset.card := by
  have hnodup : (ofList names).names.toList.Nodup :=
    Std.ExtTreeSet.distinct_toList.imp fun hne h => hne (Std.LawfulEqCmp.compare_eq_iff_eq.2 h)
  have hsame : (ofList names).names.toList.toFinset = (names.map lowercase).toFinset := by
    ext name
    rw [List.mem_toFinset, Std.ExtTreeSet.mem_toList, ← Std.ExtTreeSet.contains_iff_mem,
      contains_names_ofList_iff, List.mem_toFinset, List.mem_map]
  rw [size, ← Std.ExtTreeSet.length_toList, ← List.toFinset_card_of_nodup hnodup, hsame]

theorem isEmpty_ofList (names : List String) : (ofList names).isEmpty = names.isEmpty := by
  rw [Bool.eq_iff_iff, isEmpty, Std.ExtTreeSet.isEmpty_eq_size_beq_zero, beq_iff_eq,
    List.isEmpty_iff]
  show (ofList names).size = 0 ↔ _
  rw [size_ofList, Finset.card_eq_zero, List.toFinset_eq_empty_iff, List.map_eq_nil_iff]

end Whitelist

namespace Record

variable {r : Record}

theorem mem_toList_iff {name : String} {value : Value} :
    (name, value) ∈ r.values.toList ↔ r.get? name = some value :=
  Std.ExtTreeMap.mem_toList_iff_getElem?_eq_some

/-- The names that have a value are those of the entries. -/
theorem forall_names_iff {p : String → Prop} :
    (∀ name, r.get? name ≠ none → p name) ↔ ∀ entry ∈ r.values.toList, p entry.1 := by
  constructor
  · rintro h ⟨name, value⟩ hmem
    refine h name ?_
    rw [mem_toList_iff.1 hmem]
    exact Option.some_ne_none value
  · intro h name hname
    obtain ⟨value, hvalue⟩ := Option.ne_none_iff_exists'.1 hname
    exact h (name, value) (mem_toList_iff.2 hvalue)

/-- The value of a name is found under the only name that has the same lowercase. -/
theorem lookup_of_unique {field key : String} {value : Value} (hget : r.get? key = some value)
    (hkey : lowercase key = lowercase field)
    (honly : ∀ name, r.get? name ≠ none → lowercase name = lowercase field → name = key) :
    r.lookup (lowercase field) = some value := by
  have hfound : ∀ {name : String} {found : Value}, r.get? name = some found →
      lowercase name = lowercase field → found = value := by
    intro name found hfound hname
    rw [honly name (by simp [hfound]) hname, hget] at hfound
    exact (Option.some.inj hfound).symm
  rw [lookup]
  cases hexact : r.get? (lowercase field) with
  | some found => exact congrArg some (hfound hexact (lowercase_lowercase field))
  | none =>
    -- The search meets a name with that lowercase, at the latest `key`.
    have hmeets : ∃ entry ∈ r.values.toList, decide (lowercase entry.1 = lowercase field) = true :=
      ⟨(key, value), mem_toList_iff.2 hget, decide_eq_true hkey⟩
    obtain ⟨⟨name, found⟩, hsearch⟩ := Option.isSome_iff_exists.1 (List.find?_isSome.2 hmeets)
    have hname : lowercase name = lowercase field := by simpa using List.find?_some hsearch
    have hvalue := hfound (mem_toList_iff.1 (List.mem_of_find?_eq_some hsearch)) hname
    rw [hsearch, hvalue]
    rfl

theorem lookup_of_absent {field : String}
    (h : ∀ name, r.get? name ≠ none → lowercase name ≠ lowercase field) :
    r.lookup (lowercase field) = none := by
  have hexact : r.get? (lowercase field) = none := by
    by_contra hsome
    exact h _ hsome (lowercase_lowercase field)
  have hsearch :
      (r.values.toList.find? fun entry => lowercase entry.1 = lowercase field) = none := by
    rw [List.find?_eq_none]
    exact fun entry hmem hname => forall_names_iff.1 h entry hmem (of_decide_eq_true hname)
  rw [lookup, hexact, hsearch]
  rfl

/-! ## Records whose names differ in more than their case -/

/-- No two names have the same lowercase. -/
def CaseDistinct (r : Record) : Prop :=
  ∀ name other, r.get? name ≠ none → r.get? other ≠ none → lowercase name = lowercase other →
    name = other

theorem caseDistinct_iff : r.CaseDistinct ↔ ∀ entry ∈ r.values.toList, ∀ other ∈ r.values.toList,
    lowercase entry.1 = lowercase other.1 → entry.1 = other.1 := by
  rw [← forall_names_iff (p := fun name => ∀ other ∈ r.values.toList,
    lowercase name = lowercase other.1 → name = other.1)]
  refine forall_congr' fun name => ?_
  rw [← forall_names_iff (p := fun other => lowercase name = lowercase other → name = other)]
  exact ⟨fun h hname other hother => h other hname hother,
    fun h other hname hother => h hname other hother⟩

instance : Decidable r.CaseDistinct := decidable_of_iff _ caseDistinct_iff.symm

/-- Where the names are distinct, a name has the value of the one that has the same lowercase. -/
theorem CaseDistinct.lookup (h : r.CaseDistinct) {field key : String} {value : Value}
    (hget : r.get? key = some value) (hkey : lowercase key = lowercase field) :
    r.lookup (lowercase field) = some value := by
  have hsome : r.get? key ≠ none := by
    rw [hget]
    exact Option.some_ne_none value
  exact lookup_of_unique hget hkey fun name hname hlower =>
    h name key hname hsome (hlower.trans hkey.symm)

end Record

end AttributeRules
