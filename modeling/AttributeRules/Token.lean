import AttributeRules.Event
import AttributeRules.Text.Basic

/-!
# Tokens

A rule is cut at its separators: the parentheses, and the words `and` and
`or` in any letter case. What stands between two separators is the text of a
condition, lowercased or not as the case mode says. A condition's quotes mean
nothing here, so a parenthesis or a keyword between them cuts as well.
-/

namespace AttributeRules

/-! ## Case modes -/

/-- What becomes of letter case. -/
inductive CaseMode
  /-- The text of a condition is lowercased; values stay as they are. -/
  | verbatim
  /-- The text of a condition keeps its case. -/
  | preserveLiterals
  /-- The text of a condition and the strings it is compared with are lowercased. -/
  | foldContext
  deriving DecidableEq, Hashable

namespace CaseMode

/-- Whether the text of a condition is lowercased when a rule is read. -/
def lowersConditions : CaseMode → Bool
  | verbatim | foldContext => true
  | preserveLiterals => false

/-- Whether a record's strings are lowercased before they are compared. -/
def foldsValues : CaseMode → Bool
  | verbatim | preserveLiterals => false
  | foldContext => true

/-- The name of a mode in settings. -/
def name : CaseMode → String
  | verbatim => "verbatim"
  | preserveLiterals => "preserve_literals"
  | foldContext => "fold_context"

/-- The mode of a name. -/
def ofName? (s : String) : Option CaseMode :=
  [verbatim, preserveLiterals, foldContext].find? (·.name = s)

theorem ofName?_name (m : CaseMode) : ofName? m.name = some m := by
  cases m <;> decide

end CaseMode

/-! ## Cutting rules -/

/-- A part of a rule. -/
inductive Token
  | opening
  | closing
  | keyword (op : Connective)
  | condition (text : String)
  deriving DecidableEq

namespace Token

/-- Whether two characters are the same letter, in either case of the alphabet `a` to `z`. -/
def sameLetter (c d : Char) : Bool := c.toLower = d.toLower

/-- The keyword at the front of the text, unless a word goes on behind it, and the rest. -/
def keyword? : List Char → Option (Connective × List Char)
  | a :: b :: r =>
    if sameLetter a 'o' ∧ sameLetter b 'r' ∧ !Text.startsInWord r then some (.or, r)
    else
      match r with
      | c :: r =>
        if sameLetter a 'a' ∧ sameLetter b 'n' ∧ sameLetter c 'd' ∧ !Text.startsInWord r then
          some (.and, r)
        else none
      | [] => none
  | _ => none

/-- The separator at the front of the text and the rest. A keyword does not start within a
word (`afterWord`). -/
def separator? (afterWord : Bool) : List Char → Option (Token × List Char)
  | '(' :: r => some (opening, r)
  | ')' :: r => some (closing, r)
  | s => if afterWord then none else (keyword? s).map fun (op, r) => (keyword op, r)

/-- The text before the first separator, and that separator with the rest, if there is one. -/
def cut (afterWord : Bool) : List Char → List Char × Option (Token × List Char)
  | [] => ([], none)
  | c :: r =>
    match separator? afterWord (c :: r) with
    | some found => ([], some found)
    | none =>
      let (text, found) := cut (Text.isWord c) r
      (c :: text, found)

theorem separator?_rest_length {afterWord : Bool} {s r : List Char} {t : Token}
    (h : separator? afterWord s = some (t, r)) : r.length < s.length := by
  have hk : ∀ {s : List Char} {op : Connective} {r : List Char},
      keyword? s = some (op, r) → r.length < s.length := by
    intro s op r h
    unfold keyword? at h
    grind
  unfold separator? at h
  split at h
  · simp_all
  · simp_all
  · split at h
    · simp at h
    · obtain ⟨⟨op, r'⟩, hs, he⟩ := Option.map_eq_some_iff.1 h
      cases he
      exact hk hs

/-- A cut leaves less of the text behind the separator. -/
theorem cut_rest_length {afterWord : Bool} {s text r : List Char} {t : Token}
    (h : cut afterWord s = (text, some (t, r))) : r.length < s.length := by
  induction s generalizing afterWord text with
  | nil => simp [cut] at h
  | cons c s ih =>
    rw [cut] at h
    split at h
    · next hs =>
      cases h
      exact separator?_rest_length hs
    · rcases hc : cut (Text.isWord c) s with ⟨text', found⟩
      rw [hc] at h
      cases h
      exact Nat.lt_succ_of_lt (ih hc)

/-- The text of a condition as a token, without the blanks at its ends; none if it is blank. -/
def ofText (mode : CaseMode) (s : List Char) : List Token :=
  match Text.trim s with
  | [] => []
  | text =>
    let text := String.ofList text
    [condition (if mode.lowersConditions then Text.lowercase text else text)]

/-- The tokens of a text from left to right. -/
def scan (mode : CaseMode) (s : List Char) : List Token :=
  match h : cut false s with
  | (text, none) => ofText mode text
  | (text, some (separator, rest)) =>
    have : rest.length < s.length := cut_rest_length h
    ofText mode text ++ separator :: scan mode rest
termination_by s.length

/-- The tokens of a rule. A blank rule has none, and is an error. -/
def ofRule (mode : CaseMode) (rule : String) : Traced (List Token) :=
  if rule.toList.all Text.isBlank then Traced.fail .emptyRule
  else do
    let tokens := scan mode rule.toList
    Traced.report (.tokenized rule tokens.length)
    pure tokens

end Token

end AttributeRules
