import AttributeRules.Text.Tables

/-!
# Texts

What is asked of texts as lists of characters: which of them are blank and what
is left without the blanks at the ends (`trim`), which make up words, Unicode's
full lowercase (`lowercase`), and the pieces between separators (`pieces`,
which are the library's, `pieces_eq_splitOn`).
-/

namespace AttributeRules.Text

/-! ## Blanks -/

/-- The code points of Unicode's white space. -/
def blankRanges : List CodeRange := [
  ⟨0x9, 0xD⟩, ⟨0x20, 0x20⟩, ⟨0x85, 0x85⟩, ⟨0xA0, 0xA0⟩, ⟨0x1680, 0x1680⟩, ⟨0x2000, 0x200A⟩,
  ⟨0x2028, 0x2029⟩, ⟨0x202F, 0x202F⟩, ⟨0x205F, 0x205F⟩, ⟨0x3000, 0x3000⟩]

/-- Whether a character is white space. -/
def isBlank (c : Char) : Bool := inRanges c.toNat blankRanges

/-- The text after its leading blanks. -/
def trimStart (s : List Char) : List Char := s.dropWhile isBlank

/-- The text before its trailing blanks. -/
def trimEnd (s : List Char) : List Char := (s.reverse.dropWhile isBlank).reverse

/-- The text without the blanks at its ends. -/
def trim (s : List Char) : List Char := trimEnd (trimStart s)

/-- Trimming takes blanks away from both ends, and nothing else. -/
theorem trim_spec (s : List Char) :
    ∃ before after, s = before ++ trim s ++ after ∧
      (∀ c ∈ before, isBlank c = true) ∧ ∀ c ∈ after, isBlank c = true := by
  refine ⟨s.takeWhile isBlank, ((trimStart s).reverse.takeWhile isBlank).reverse, ?_,
    fun c hc => ?_, fun c hc => ?_⟩
  · rw [List.append_assoc, trim, trimEnd, ← List.reverse_append, List.takeWhile_append_dropWhile,
      List.reverse_reverse, trimStart, List.takeWhile_append_dropWhile]
  · exact List.all_eq_true.1 List.all_takeWhile c hc
  · exact List.all_eq_true.1 List.all_takeWhile c (List.mem_reverse.1 hc)

/-! ## Words -/

/-- Whether words are made of this character. -/
def isWord (c : Char) : Bool := inRanges c.toNat wordRanges

/-- Whether a word goes on at the front of the text. -/
def startsInWord : List Char → Bool
  | [] => false
  | c :: _ => isWord c

/-! ## Lowercase -/

/-- Whether the character has letter case. -/
def isCased (c : Char) : Bool := inRanges c.toNat casedRanges

/-- Whether the character is looked through in the search for a cased one. -/
def isCaseIgnorable (c : Char) : Bool := inRanges c.toNat caseIgnorableRanges

/-- Whether the text, after what is looked through, starts with a cased character. -/
def startsCased (s : List Char) : Bool :=
  match s.dropWhile isCaseIgnorable with
  | [] => false
  | c :: _ => isCased c

/-- The image of a code point under the ascending runs, if it lies in one. -/
def imageIn (n : Nat) : List CaseRun → Option Nat
  | [] => none
  | r :: rs =>
    if n < r.first then none
    else if r.last < n then imageIn n rs
    else if (n - r.first) % r.step = 0 then some (r.image + (n - r.first))
    else none

/-- The lowercase of a character that stands alone. -/
def lowercaseChar (c : Char) : List Char :=
  if c = '\u0130' then ['i', '\u0307']
  else
    match imageIn c.toNat lowercaseRuns with
    | some n => [Char.ofNat n]
    | none => [c]

/-- The lowercase of a text, where `afterCased` says that the nearest character
before it that is not looked through is cased. -/
def lowercaseFrom (afterCased : Bool) : List Char → List Char
  | [] => []
  | c :: r =>
    let image := if c = 'Σ' ∧ afterCased ∧ !startsCased r then ['ς'] else lowercaseChar c
    image ++ lowercaseFrom (if isCaseIgnorable c then afterCased else isCased c) r

/-- The lowercase of a text. -/
def lowercase (s : String) : String := String.ofList (lowercaseFrom false s.toList)

/-! ## Pieces -/

/-- The stretches of the text between the characters `sep`. -/
def pieces (sep : Char) : List Char → List (List Char)
  | [] => [[]]
  | c :: r =>
    if c = sep then [] :: pieces sep r
    else
      match pieces sep r with
      | [] => [[c]]
      | p :: ps => (c :: p) :: ps

theorem pieces_eq_splitOn (sep : Char) (s : List Char) : pieces sep s = s.splitOn sep := by
  induction s with
  | nil => exact (List.splitOn_nil sep).symm
  | cons c r ih =>
    simp only [List.splitOn_cons_eq_if_modifyHead, pieces, ih, beq_iff_eq]
    obtain ⟨p, ps, hp⟩ := List.exists_cons_of_ne_nil (List.splitOn_ne_nil sep r)
    rw [hp, List.modifyHead_cons]

theorem not_mem_of_mem_pieces {sep : Char} {s p : List Char} (h : p ∈ pieces sep s) : sep ∉ p := by
  induction s generalizing p with
  | nil =>
    rw [List.mem_singleton.1 h]
    exact List.not_mem_nil
  | cons c r ih =>
    rw [pieces] at h
    split at h
    · rcases List.mem_cons.1 h with rfl | h
      · exact List.not_mem_nil
      · exact ih h
    · next hc =>
      split at h
      · rw [List.mem_singleton.1 h, List.mem_singleton]
        exact Ne.symm hc
      · next q qs hq =>
        rw [hq] at ih
        rcases List.mem_cons.1 h with rfl | h
        · rw [List.mem_cons, not_or]
          exact ⟨Ne.symm hc, ih List.mem_cons_self⟩
        · exact ih (List.mem_cons_of_mem q h)

end AttributeRules.Text
