import Mathlib.Data.List.Lex
import Mathlib.Order.Compare
import Mathlib.Order.Lattice
import AttributeRules.Condition

/-!
# Comparisons

A comparison is a relation between two elements of an order
(`Comparison.Relates`), and holds where the outcome of comparing them says so
(`Comparison.holds_iff`). A value of a literal's sort has one place in the order,
from which every comparison takes its answer (`test_of_sameSort`), so that the
answers to all comparisons with the literal fit together (`test_coherent`).
-/

namespace AttributeRules

/-! ## The order of strings -/

namespace Comparison

variable {α : Type} [LinearOrder α]

/-- What a comparison says of two elements of an order. Of membership an order says nothing. -/
def Relates : Comparison → α → α → Prop
  | equal, a, b => a = b
  | notEqual, a, b => a ≠ b
  | greater, a, b => a > b
  | less, a, b => a < b
  | greaterEqual, a, b => a ≥ b
  | lessEqual, a, b => a ≤ b
  | member, _, _ => False

instance decidableRelates (c : Comparison) (a b : α) : Decidable (c.Relates a b) :=
  match c with
  | equal => inferInstanceAs (Decidable (a = b))
  | notEqual => inferInstanceAs (Decidable (a ≠ b))
  | greater => inferInstanceAs (Decidable (a > b))
  | less => inferInstanceAs (Decidable (a < b))
  | greaterEqual => inferInstanceAs (Decidable (a ≥ b))
  | lessEqual => inferInstanceAs (Decidable (a ≤ b))
  | member => inferInstanceAs (Decidable False)

/-- A comparison holds where it says the truth of the two elements. -/
theorem holds_iff {a b : α} {o : Ordering} (h : o.Compares a b) (c : Comparison) :
    c.holds o = true ↔ c.Relates a b := by
  cases o with
  | lt =>
    have hlt : a < b := h
    cases c <;> simp [holds, Relates, hlt, hlt.ne, hlt.le]
  | eq =>
    obtain rfl : a = b := h
    cases c <;> simp [holds, Relates]
  | gt =>
    have hgt : b < a := h
    cases c <;> simp [holds, Relates, hgt, hgt.ne', hgt.le]

/-- What is kept in order by an embedding into a linear order is compared as its images are. -/
theorem holds_of_embedding {β : Type} [LT β] [DecidableLT β] [DecidableEq β] {f : β → α}
    (hinj : Function.Injective f) (hlt : ∀ {a b : β}, f a < f b ↔ a < b) (c : Comparison)
    (a b : β) : c.holds (compareOfLessAndEq a b) = decide (c.Relates (f a) (f b)) := by
  have hcompares : (compareOfLessAndEq a b).Compares (f a) (f b) := by
    rw [compareOfLessAndEq]
    split_ifs with hab heq
    · exact hlt.2 hab
    · exact congrArg f heq
    · have hle : f b ≤ f a := not_lt.1 fun h => hab (hlt.1 h)
      exact lt_of_le_of_ne hle fun h => heq (hinj h).symm
  exact Bool.eq_iff_iff.2 ((c.holds_iff hcompares).trans decide_eq_true_iff.symm)

end Comparison

namespace Text

/-- The code points of a string. -/
def codes (s : String) : List Nat := s.toList.map Char.toNat

theorem codes_injective : Function.Injective codes := fun _ _ h =>
  String.toList_inj.1 (List.map_injective_iff.2 (fun _ _ => Char.toNat_inj.1) h)

theorem map_toNat_lt_iff {s t : List Char} : s.map Char.toNat < t.map Char.toNat ↔ s < t := by
  induction s generalizing t with
  | nil => cases t <;> simp
  | cons c s ih =>
    cases t with
    | nil => simp
    | cons d t =>
      rw [List.map_cons, List.map_cons, List.cons_lt_cons_iff, List.cons_lt_cons_iff, ih,
        Char.toNat_inj]
      rfl

end Text

/-- Strings are compared in the order of their code points. -/
theorem Comparison.holds_compare_strings (c : Comparison) (s t : String) :
    c.holds (compare s t) = decide (c.Relates (Text.codes s) (Text.codes t)) :=
  c.holds_of_embedding Text.codes_injective Text.map_toNat_lt_iff s t

/-! ## The comparisons with one literal -/

open Text

namespace Comparison

/-- The second comparison holds where the first one does not. -/
inductive Opposite : Comparison → Comparison → Prop
  | equality : Opposite equal notEqual
  | below : Opposite less greaterEqual
  | above : Opposite greater lessEqual

theorem Opposite.holds_eq {c c' : Comparison} (h : c.Opposite c') (o : Ordering) :
    c'.holds o = !c.holds o := by
  cases h <;> cases o <;> rfl

theorem holds_compare_ints (c : Comparison) (a b : Int64) :
    c.holds (compare a b) = decide (c.Relates a.toInt b.toInt) :=
  c.holds_of_embedding (fun _ _ => Int64.toInt_inj.1) Int64.lt_iff_toInt_lt.symm a b

end Comparison

/-- The value is of the sort of the literal: both are integers, or both are strings. -/
inductive Literal.SameSort : Literal → Value → Prop
  | int (n v : Int64) : SameSort (.int n) (.int v)
  | str (t s : String) : SameSort (.str t) (.str s)

namespace Condition

variable {field : String} {literal : Literal} {v : Value} {fold : Bool}

/-- A value of the literal's sort has one place in the order, for all comparisons. -/
theorem test_of_sameSort (field : String) (h : literal.SameSort v) (fold : Bool) :
    ∃ o : Ordering, ∀ c, test ⟨field, c, literal⟩ (some v) fold = .ok (c.holds o) := by
  cases h with
  | int n v => exact ⟨compare v n, fun c => rfl⟩
  | str t s => exact ⟨compare (folded fold s) t, fun c => rfl⟩

/-- A value of another sort than an integer or a string cannot be compared with it. -/
theorem test_of_not_sameSort (hliteral : ∀ items, literal ≠ .list items)
    (h : ¬literal.SameSort v) (c : Comparison) :
    test ⟨field, c, literal⟩ (some v) fold =
      .error (.invalidCondition (.incomparable v ⟨field, c, literal⟩)) := by
  cases literal with
  | list items => exact absurd rfl (hliteral items)
  | int n =>
    cases v with
    | int v => exact absurd (.int n v) h
    | str s => rfl
  | str t =>
    cases v with
    | int v => rfl
    | str s => exact absurd (.str t s) h

/-- Opposite comparisons give opposite answers, or both fail. -/
theorem test_opposite (hliteral : ∀ items, literal ≠ .list items) {c c' : Comparison}
    (h : c.Opposite c') (actual : Option Value) :
    (∃ b, test ⟨field, c, literal⟩ actual fold = .ok b ∧
        test ⟨field, c', literal⟩ actual fold = .ok !b) ∨
      (∃ cause, test ⟨field, c, literal⟩ actual fold = .error (.invalidCondition cause)) ∧
        ∃ cause, test ⟨field, c', literal⟩ actual fold = .error (.invalidCondition cause) := by
  cases actual with
  | none =>
    cases h with
    | equality => exact .inl ⟨false, rfl, rfl⟩
    | below | above => exact .inr ⟨⟨_, rfl⟩, _, rfl⟩
  | some v =>
    by_cases hsort : literal.SameSort v
    · obtain ⟨o, ho⟩ := test_of_sameSort field hsort fold
      refine .inl ⟨c.holds o, ho c, ?_⟩
      rw [ho c', h.holds_eq]
    · exact .inr ⟨⟨_, test_of_not_sameSort hliteral hsort c⟩, _,
        test_of_not_sameSort hliteral hsort c'⟩

/-- The comparisons of an attribute with one integer or string fit together. Opposite ones give
opposite answers, or both fail. A value of the literal's sort has an answer to all six: exactly one
of less, equal and greater holds, and the other three are made of these; integers are compared as
numbers, and strings by their code points, once they are folded. Without a value every comparison
fails that asks for an order. -/
theorem test_coherent (field : String) (literal : Literal)
    (hliteral : ∀ items, literal ≠ .list items) (actual : Option Value) (fold : Bool) :
    let answer (c : Comparison) := test ⟨field, c, literal⟩ actual fold
    (∀ c c', c.Opposite c' →
      (∃ b, answer c = .ok b ∧ answer c' = .ok !b) ∨
        (∃ cause, answer c = .error (.invalidCondition cause)) ∧
          ∃ cause, answer c' = .error (.invalidCondition cause)) ∧
    (∀ v, actual = some v → literal.SameSort v → ∃ less equal greater : Bool,
      answer .less = .ok less ∧ answer .equal = .ok equal ∧ answer .greater = .ok greater ∧
        [less, equal, greater].count true = 1 ∧ answer .notEqual = .ok !equal ∧
        answer .lessEqual = .ok (less || equal) ∧ answer .greaterEqual = .ok (greater || equal)) ∧
    (∀ v n, actual = some (.int v) → literal = .int n → ∀ c,
      answer c = .ok (decide (c.Relates v.toInt n.toInt))) ∧
    (∀ s t, actual = some (.str s) → literal = .str t → ∀ c,
      answer c =
        .ok (decide (c.Relates (codes (if fold then lowercase s else s)) (codes t)))) ∧
    (actual = none → ∀ c ∈ [Comparison.less, .greater, .lessEqual, .greaterEqual],
      ∃ cause, answer c = .error (.invalidCondition cause)) := by
  intro answer
  refine ⟨fun c c' h => test_opposite hliteral h actual, ?_, ?_, ?_, ?_⟩
  · rintro v rfl hsort
    obtain ⟨o, ho⟩ := test_of_sameSort field hsort fold
    refine ⟨_, _, _, ho .less, ho .equal, ho .greater, ?_, ?_, ?_, ?_⟩
    · cases o <;> rfl
    · rw [← Comparison.Opposite.equality.holds_eq]
      exact ho .notEqual
    · refine (ho .lessEqual).trans ?_
      cases o <;> rfl
    · refine (ho .greaterEqual).trans ?_
      cases o <;> rfl
  · rintro v n rfl rfl c
    exact congrArg Except.ok (c.holds_compare_ints v n)
  · rintro s t rfl rfl c
    exact congrArg Except.ok (c.holds_compare_strings _ t)
  · rintro rfl c hc
    simp only [List.mem_cons, List.not_mem_nil, or_false] at hc
    rcases hc with rfl | rfl | rfl | rfl <;> exact ⟨_, rfl⟩

/-- The least integer of 64 bits is below the greatest one. Two strings are equal where values are
folded, and only there: without it the capitals come first. A string where an integer is asked for
is no answer, and neither is no value at all. -/
theorem test_coherent_extremes :
    let answer (fold : Bool) (literal : Literal) (actual : Option Value) (c : Comparison) :=
      test ⟨"age", c, literal⟩ actual fold
    let greatest : Literal := .int Int64.maxValue
    let least : Value := .int Int64.minValue
    answer true greatest (some least) .less = .ok true ∧
      (∃ less equal greater : Bool, answer true greatest (some least) .less = .ok less ∧
        answer true greatest (some least) .equal = .ok equal ∧
        answer true greatest (some least) .greater = .ok greater ∧
        [less, equal, greater].count true = 1) ∧
      answer true (.str "οδος") (some (.str "ΟΔΟΣ")) .equal = .ok true ∧
      answer false (.str "οδος") (some (.str "ΟΔΟΣ")) .equal = .ok false ∧
      answer false (.str "οδος") (some (.str "ΟΔΟΣ")) .less = .ok true ∧
      ((∃ b, answer true greatest (some (.str "old")) .equal = .ok b ∧
          answer true greatest (some (.str "old")) .notEqual = .ok !b) ∨
        (∃ cause, answer true greatest (some (.str "old")) .equal =
            .error (.invalidCondition cause)) ∧
          ∃ cause, answer true greatest (some (.str "old")) .notEqual =
            .error (.invalidCondition cause)) ∧
      ∃ cause, answer true greatest none .greaterEqual = .error (.invalidCondition cause) := by
  intro answer greatest least
  have hgreatest : ∀ items, greatest ≠ .list items := by simp [greatest]
  obtain ⟨-, hplace, hint, -⟩ := test_coherent "age" greatest hgreatest (some least) true
  have hstr : ∀ fold c, answer fold (.str "οδος") (some (.str "ΟΔΟΣ")) c = _ := fun fold c =>
    (test_coherent "age" (.str "οδος") (by simp) (some (.str "ΟΔΟΣ")) fold).2.2.2.1 _ _ rfl rfl c
  obtain ⟨hopposite, -⟩ := test_coherent "age" greatest hgreatest (some (.str "old")) true
  obtain ⟨-, -, -, -, hnone⟩ := test_coherent "age" greatest hgreatest none true
  obtain ⟨less, equal, greater, hless, hequal, hgreater, hone, -⟩ := hplace least rfl (.int _ _)
  exact ⟨(hint _ _ rfl rfl .less).trans (by decide),
    ⟨less, equal, greater, hless, hequal, hgreater, hone⟩,
    (hstr true .equal).trans (by decide +kernel), (hstr false .equal).trans (by decide +kernel),
    (hstr false .less).trans (by decide +kernel), hopposite _ _ .equality, hnone rfl _ (by decide)⟩

end Condition

end AttributeRules
