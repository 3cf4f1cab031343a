import Mathlib.Data.List.TakeWhile
import AttributeRules.Text.Basic

/-!
# Runs and trimming

Characters of one sort at the front of a text are taken off as far as they go
(`span_run`). Trimming leaves a text without blanks at its ends as it is
(`trim_eq_self`), and what it leaves is one (`trimmed_trim`).
-/

namespace AttributeRules.Text

/-! ## Runs -/

variable {p : Char → Bool} {u r : List Char}

/-- A run of characters at the front of a text is taken off as far as it goes. -/
theorem span_run (hrun : ∀ c ∈ u, p c = true) (hnext : ∀ c ∈ r.head?, p c = false) :
    (u ++ r).takeWhile p = u ∧ (u ++ r).dropWhile p = r := by
  rw [List.takeWhile_append_of_pos hrun, List.dropWhile_append_of_pos hrun]
  cases r with
  | nil => exact ⟨List.append_nil u, rfl⟩
  | cons c r =>
    have hc : ¬p c = true := Bool.eq_false_iff.1 (hnext c rfl)
    rw [List.takeWhile_cons_of_neg hc, List.dropWhile_cons_of_neg hc, List.append_nil]
    exact ⟨rfl, rfl⟩

theorem mem_of_head?_append {c : Char} (hu : u ≠ []) (h : c ∈ (u ++ r).head?) : c ∈ u.head? := by
  obtain ⟨d, u, rfl⟩ := List.exists_cons_of_ne_nil hu
  exact h

/-! ## Trimming -/

/-- There is no blank at the start nor at the end. -/
structure Trimmed (s : List Char) : Prop where
  head : ∀ c ∈ s.head?, isBlank c = false
  last : ∀ c ∈ s.getLast?, isBlank c = false

theorem head?_dropWhile_isBlank {s : List Char} {c : Char}
    (h : c ∈ (s.dropWhile isBlank).head?) : isBlank c = false := by
  have := List.head?_dropWhile_not isBlank s
  rw [Option.mem_def.1 h] at this
  simpa using this

theorem dropWhile_isBlank_eq_self {s : List Char} (h : ∀ c ∈ s.head?, isBlank c = false) :
    s.dropWhile isBlank = s := by
  cases s with
  | nil => rfl
  | cons c s => rw [List.dropWhile_cons_of_neg (by simp [h c rfl])]

theorem trim_eq_self {s : List Char} (h : Trimmed s) : trim s = s := by
  rw [trim, trimStart, dropWhile_isBlank_eq_self h.head, trimEnd,
    dropWhile_isBlank_eq_self (by simpa using h.last), List.reverse_reverse]

theorem trimmed_trim (s : List Char) : Trimmed (trim s) := by
  refine ⟨fun c hc => ?_, fun c hc => ?_⟩
  · obtain ⟨r, hr⟩ : trim s <+: trimStart s := by
      rw [trim, trimEnd, ← List.reverse_suffix, List.reverse_reverse]
      exact List.dropWhile_suffix _
    refine head?_dropWhile_isBlank (s := s) ?_
    change c ∈ (trimStart s).head?
    rw [← hr, List.head?_append, Option.mem_def.1 hc]
    rfl
  · rw [trim, trimEnd, List.getLast?_reverse] at hc
    exact head?_dropWhile_isBlank hc

theorem trim_cons_blank {c : Char} (h : isBlank c = true) (s : List Char) :
    trim (c :: s) = trim s := by
  rw [trim, trim, trimStart, List.dropWhile_cons_of_pos h, trimStart]

theorem trim_blank_append {b : List Char} (h : ∀ c ∈ b, isBlank c = true) (s : List Char) :
    trim (b ++ s) = trim s := by
  induction b with
  | nil => rfl
  | cons c b ih =>
    rw [List.cons_append, trim_cons_blank (h c List.mem_cons_self)]
    exact ih fun d hd => h d (List.mem_cons_of_mem c hd)

theorem trim_append_blank {b : List Char} (h : ∀ c ∈ b, isBlank c = true) (s : List Char) :
    trim (s ++ b) = trim s := by
  simp only [trim, trimStart, List.dropWhile_append, List.isEmpty_iff]
  split
  · next hs =>
    rw [hs, List.dropWhile_eq_nil_iff.2 h]
  · rw [trimEnd, trimEnd, List.reverse_append, List.dropWhile_append_of_pos]
    exact fun c hc => h c (List.mem_reverse.1 hc)

theorem trim_eq_nil {s : List Char} (h : ∀ c ∈ s, isBlank c = true) : trim s = [] :=
  trim_append_blank h []

end AttributeRules.Text
