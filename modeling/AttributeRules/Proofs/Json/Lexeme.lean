import Mathlib.Data.List.Chain
import AttributeRules.Json.Lexeme
import AttributeRules.Proofs.Json.Number
import AttributeRules.Proofs.Json.Quoted

/-!
# Lexemes as they are written

A document is written lexeme by lexeme, with gaps before, between and behind
them (`Spaced`). Only a number could run on into what follows it, so a mark must
follow each number that is not the last lexeme (`Separated`). Separated lexemes
are read as they are (`Lexeme.ofText?_spaced`), and nothing else is
(`Lexeme.spaced_of_ofText?`).
-/

namespace AttributeRules.Json.Lexeme

open Text

/-! ## Written lexemes -/

/-- The text of a lexeme that is written in one way. -/
def fixed? : Lexeme → Option String
  | openBracket => some "["
  | closeBracket => some "]"
  | openBrace => some "\x7b"
  | closeBrace => some "\x7d"
  | colon => some ":"
  | comma => some ","
  | null => some "null"
  | bool true => some "true"
  | bool false => some "false"
  | number _ | text _ => none

/-- How a lexeme is written. -/
inductive Writes : Lexeme → List Char → Prop
  | fixed {l : Lexeme} {word : String} : l.fixed? = some word → Writes l word.toList
  | number {n : Number} {s : List Char} : n.Writes s → Writes (.number n) s
  | text {t : Option String} {s : List Char} :
    Quoted.Writes t s → Writes (.text t) ('"' :: (s ++ ['"']))

/-- Lexemes written one after the other, with gaps before, between and behind them. -/
inductive Spaced : List Lexeme → List Char → Prop
  | nil {gap : List Char} : (∀ c ∈ gap, isGap c = true) → Spaced [] gap
  | cons {gap w s : List Char} {l : Lexeme} {ls : List Lexeme} :
    (∀ c ∈ gap, isGap c = true) → l.Writes w → Spaced ls s → Spaced (l :: ls) (gap ++ (w ++ s))

/-- Whether the lexeme is a number. -/
def isNumber : Lexeme → Bool
  | number _ => true
  | _ => false

/-- Whether the lexeme is a mark: a bracket, a brace, a colon or a comma. -/
def isMark : Lexeme → Bool
  | openBracket | closeBracket | openBrace | closeBrace | colon | comma => true
  | null | bool _ | number _ | text _ => false

/-- Behind a number comes a mark. -/
def Separated (ls : List Lexeme) : Prop :=
  ls.IsChain fun l next => l.isNumber = true → next.isMark = true

/-! ## One lexeme -/

theorem not_isGap_of_isDigit {c : Char} (h : isDigit c = true) : isGap c = false := by
  rw [isDigit_iff] at h
  simp only [isGap, Bool.or_eq_false_iff, decide_eq_false_iff_not]
  refine ⟨⟨⟨?_, ?_⟩, ?_⟩, ?_⟩ <;> rintro rfl <;> exact absurd h (by decide)

theorem Writes.head {l : Lexeme} {w : List Char} (h : l.Writes w) :
    ∃ c r, w = c :: r ∧ isGap c = false := by
  cases h with
  | @fixed l word h =>
    cases l with
    | bool b => cases b <;> cases h <;> exact ⟨_, _, rfl, rfl⟩
    | number n => cases h
    | text t => cases h
    | _ => cases h; exact ⟨_, _, rfl, rfl⟩
  | number h =>
    obtain ⟨c, r, rfl, rfl | hc⟩ := h.head
    · exact ⟨_, _, rfl, rfl⟩
    · exact ⟨_, _, rfl, not_isGap_of_isDigit hc⟩
  | text => exact ⟨_, _, rfl, rfl⟩

theorem read?_number {c : Char} (hc : c = '-' ∨ isDigit c = true) (r : List Char) :
    read? (c :: r) = (Number.read? (c :: r)).map fun (n, r) => (number n, r) := by
  have hother : ∀ d, d ≠ '-' → isDigit d = false → c ≠ d := by
    rintro d hminus hdigit rfl
    rcases hc with hc | hc
    · exact hminus hc
    · rw [hdigit] at hc
      cases hc
  rw [read?]
  all_goals
    intro r' heq
    exact hother _ (by decide) rfl (List.cons.inj heq).1

/-- A lexeme is read, if what follows does not go on with it. -/
theorem read?_append {l : Lexeme} {w r : List Char} (h : l.Writes w)
    (hr : l.isNumber = true → Number.EndsBefore r) : read? (w ++ r) = some (l, r) := by
  cases h with
  | @fixed l word h =>
    cases l with
    | bool b => cases b <;> cases h <;> rfl
    | number n => cases h
    | text t => cases h
    | _ => cases h; rfl
  | @number n s h =>
    have hread := Number.read?_append h (hr rfl)
    obtain ⟨c, s, rfl, hc⟩ := h.head
    rw [List.cons_append, read?_number hc, ← List.cons_append, hread]
    rfl
  | @text t s h =>
    have hread := Quoted.read?_append h r
    show (Quoted.read? (s ++ ['"'] ++ r)).map _ = _
    rw [List.append_assoc, List.singleton_append, hread]
    rfl

/-! ## All lexemes -/

theorem endsBefore_of_isGap {c : Char} (h : isGap c = true) (r : List Char) :
    Number.EndsBefore (c :: r) := by
  rintro _ ⟨⟩
  refine ⟨?_, ?_, ?_, ?_⟩
  · by_contra hdigit
    rw [Bool.not_eq_false] at hdigit
    rw [not_isGap_of_isDigit hdigit] at h
    cases h
  all_goals
    rintro rfl
    cases h

theorem endsBefore_of_isMark {l : Lexeme} {w : List Char} (h : l.Writes w) (hmark : l.isMark = true)
    (r : List Char) : Number.EndsBefore (w ++ r) := by
  cases h with
  | @fixed l word h =>
    cases l with
    | null | bool | number | text => cases hmark
    | _ =>
      cases h
      rintro _ ⟨⟩
      decide
  | number | text => cases hmark

/-- Lexemes that start with a mark do not go on with a number, nor does the end of the text. -/
theorem Spaced.endsBefore {ls : List Lexeme} {s : List Char} (h : Spaced ls s)
    (hmark : ∀ l ∈ ls.head?, l.isMark = true) : Number.EndsBefore s := by
  cases h with
  | nil hgap =>
    cases s with
    | nil => nofun
    | cons c s => exact endsBefore_of_isGap (hgap c List.mem_cons_self) s
  | @cons gap w s l ls hgap hw hs =>
    cases gap with
    | nil => exact endsBefore_of_isMark hw (hmark l rfl) s
    | cons c gap => exact endsBefore_of_isGap (hgap c List.mem_cons_self) _

theorem ofText?_of_read? {s rest : List Char} {c : Char} {r : List Char} {l : Lexeme}
    (hs : s.dropWhile isGap = c :: r) (h : read? (c :: r) = some (l, rest)) :
    ofText? s = (ofText? rest).map (l :: ·) := by
  rw [ofText?]
  split
  · next heq => rw [hs] at heq; cases heq
  · next heq =>
    rw [hs] at heq
    cases heq
    split
    · next hnone => rw [h] at hnone; cases hnone
    · next hsome =>
      rw [h] at hsome
      cases hsome
      rfl

/-- Separated lexemes are read as they are, whatever gaps there are. -/
theorem ofText?_spaced {ls : List Lexeme} {s : List Char} (h : Spaced ls s)
    (hsep : Separated ls) : ofText? s = some ls := by
  induction h with
  | @nil gap hgap =>
    have hend := (span_run (r := []) hgap nofun).2
    rw [List.append_nil] at hend
    rw [ofText?]
    split
    · rfl
    · next heq => rw [hend] at heq; cases heq
  | @cons gap w s l ls hgap hw hs ih =>
    obtain ⟨hnext, hrest⟩ := List.isChain_cons.1 hsep
    have hread : read? (w ++ s) = some (l, s) :=
      read?_append hw fun hnumber => hs.endsBefore fun next hmem => hnext next hmem hnumber
    obtain ⟨c, r, hcr, hc⟩ := hw.head
    have hstart : ∀ d ∈ (w ++ s).head?, isGap d = false := by
      rw [hcr]
      rintro _ ⟨⟩
      exact hc
    have hdrop : (gap ++ (w ++ s)).dropWhile isGap = c :: (r ++ s) := by
      rw [(span_run hgap hstart).2, hcr, List.cons_append]
    rw [ofText?_of_read? hdrop (by rw [← List.cons_append, ← hcr]; exact hread), ih hrest,
      Option.map_some]

/-! ## What is read is written -/

theorem exists_writes_of_read? {l : Lexeme} {s r : List Char} (h : read? s = some (l, r)) :
    ∃ w, l.Writes w ∧ s = w ++ r := by
  unfold read? at h
  split at h
  case h_10 =>
    obtain ⟨⟨t, r⟩, hread, ⟨⟩⟩ := Option.map_eq_some_iff.1 h
    obtain ⟨w, hw, rfl⟩ := Quoted.exists_writes_of_read? hread
    exact ⟨_, .text hw, by simp⟩
  case h_11 =>
    obtain ⟨⟨n, r⟩, hread, ⟨⟩⟩ := Option.map_eq_some_iff.1 h
    obtain ⟨w, hw, rfl⟩ := Number.exists_writes_of_read? hread
    exact ⟨_, .number hw, rfl⟩
  all_goals
    cases h
    exact ⟨_, .fixed rfl, rfl⟩

/-- What is read as lexemes is written as these lexemes. -/
theorem spaced_of_ofText? {ls : List Lexeme} {s : List Char} (h : ofText? s = some ls) :
    Spaced ls s := by
  have hgap : ∀ s : List Char, ∀ c ∈ s.takeWhile isGap, isGap c = true := fun s c hc =>
    List.all_eq_true.1 List.all_takeWhile c hc
  fun_induction ofText? s generalizing ls with
  | case1 s hend =>
    cases h
    rw [← List.takeWhile_append_dropWhile (p := isGap) (l := s), hend, List.append_nil]
    exact .nil (hgap s)
  | case2 => cases h
  | case3 s c r hstart l rest hread _ ih =>
    obtain ⟨behind, hbehind, rfl⟩ := Option.map_eq_some_iff.1 h
    obtain ⟨w, hw, hfront⟩ := exists_writes_of_read? hread
    rw [← List.takeWhile_append_dropWhile (p := isGap) (l := s), hstart, hfront]
    exact .cons (hgap s) hw (ih hbehind)

/-! ## Every lexeme can be written -/

theorem exists_writes (l : Lexeme) : ∃ w, l.Writes w := by
  cases l with
  | bool b => cases b <;> exact ⟨_, .fixed rfl⟩
  | number n =>
    obtain ⟨s, hs⟩ := n.exists_writes
    exact ⟨s, .number hs⟩
  | text t =>
    obtain ⟨s, hs⟩ := Quoted.exists_writes t
    exact ⟨_, .text hs⟩
  | _ => exact ⟨_, .fixed rfl⟩

theorem exists_spaced (ls : List Lexeme) : ∃ s, Spaced ls s := by
  induction ls with
  | nil => exact ⟨[], .nil nofun⟩
  | cons l ls ih =>
    obtain ⟨w, hw⟩ := l.exists_writes
    obtain ⟨s, hs⟩ := ih
    exact ⟨[] ++ (w ++ s), .cons nofun hw hs⟩

end AttributeRules.Json.Lexeme
