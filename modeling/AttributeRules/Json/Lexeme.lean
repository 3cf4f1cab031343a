import AttributeRules.Json.Number
import AttributeRules.Json.Quoted

/-!
# Lexemes of JSON

The signs, words, numbers and strings of a JSON document, without the gaps
between them.

Main statement: a lexeme takes some of the text (`read?_rest_length`), so that
a document has finitely many.
-/

namespace AttributeRules.Json

/-- A part of a document that is not a gap. -/
inductive Lexeme
  | openBracket
  | closeBracket
  | openBrace
  | closeBrace
  | colon
  | comma
  | null
  | bool (b : Bool)
  | number (n : Number)
  /-- A string; no text if its surrogates do not pair up. -/
  | text (s : Option String)
  deriving DecidableEq

namespace Lexeme

/-- Whether a character may stand between lexemes. -/
def isGap (c : Char) : Bool := c = ' ' || c = '\n' || c = '\t' || c = '\r'

/-- The lexeme at the front of a text, and the rest. -/
def read? : List Char → Option (Lexeme × List Char)
  | '[' :: r => some (openBracket, r)
  | ']' :: r => some (closeBracket, r)
  | '\x7b' :: r => some (openBrace, r)
  | '\x7d' :: r => some (closeBrace, r)
  | ':' :: r => some (colon, r)
  | ',' :: r => some (comma, r)
  | 'n' :: 'u' :: 'l' :: 'l' :: r => some (null, r)
  | 't' :: 'r' :: 'u' :: 'e' :: r => some (bool true, r)
  | 'f' :: 'a' :: 'l' :: 's' :: 'e' :: r => some (bool false, r)
  | '"' :: r => (Quoted.read? r).map fun (s, r) => (text s, r)
  | s => (Number.read? s).map fun (n, r) => (number n, r)

theorem read?_rest_length {s r : List Char} {l : Lexeme} (h : read? s = some (l, r)) :
    r.length < s.length := by
  unfold read? at h
  split at h
  case h_10 =>
    obtain ⟨⟨text, r'⟩, ht, he⟩ := Option.map_eq_some_iff.1 h
    cases he
    exact Nat.lt_succ_of_lt (Quoted.read?_rest_length ht)
  case h_11 =>
    obtain ⟨⟨n, r'⟩, hn, he⟩ := Option.map_eq_some_iff.1 h
    cases he
    exact Number.read?_rest_length hn
  all_goals
    cases h
    simp only [List.length_cons]
    omega

/-- The lexemes of a text that holds nothing but lexemes and gaps. -/
def ofText? (s : List Char) : Option (List Lexeme) :=
  match hs : s.dropWhile isGap with
  | [] => some []
  | c :: r =>
    match h : read? (c :: r) with
    | none => none
    | some (l, rest) =>
      have : rest.length < s.length := by
        have := read?_rest_length h
        have := (List.dropWhile_suffix isGap (l := s)).length_le
        rw [hs] at this
        omega
      (ofText? rest).map (l :: ·)
termination_by s.length

end Lexeme

end AttributeRules.Json
