import AttributeRules.Json.Lexeme

/-!
# JSON documents

A document is a value made of its lexemes. It is read from left to right with
the arrays and objects that are still open on a stack: either a value is due
(`readValue`) or one has just ended (`readAfter`). Every step takes a lexeme,
so nesting may be of any depth.

The members of an object stay in order, and a name may be there twice.
-/

namespace AttributeRules

/-- A value of JSON. A string or a name stands for no text if it has a lone surrogate. -/
inductive Json
  | null
  | bool (b : Bool)
  | number (n : Json.Number)
  | text (s : Option String)
  | array (items : List Json)
  | object (members : List (Option String × Json))

namespace Json

/-- An array or an object that is still open, with its parts so far, the last one first. -/
inductive Frame
  | array (items : List Json)
  /-- An object in which the value of `name` is due. -/
  | object (members : List (Option String × Json)) (name : Option String)

mutual

/-- Reads on where a value is due. -/
def readValue (frames : List Frame) : List Lexeme → Option Json
  | .null :: r => readAfter frames null r
  | .bool b :: r => readAfter frames (bool b) r
  | .number n :: r => readAfter frames (number n) r
  | .text s :: r => readAfter frames (text s) r
  | .openBracket :: .closeBracket :: r => readAfter frames (array []) r
  | .openBracket :: r => readValue (.array [] :: frames) r
  | .openBrace :: .closeBrace :: r => readAfter frames (object []) r
  | .openBrace :: .text name :: .colon :: r => readValue (.object [] name :: frames) r
  | _ => none
termination_by structural lexemes => lexemes

/-- Reads on where the value `v` has just ended. -/
def readAfter (frames : List Frame) (v : Json) : List Lexeme → Option Json
  | [] =>
    match frames with
    | [] => some v
    | _ :: _ => none
  | .comma :: r =>
    match frames, r with
    | .array items :: outer, r => readValue (.array (v :: items) :: outer) r
    | .object members name :: outer, .text next :: .colon :: r =>
      readValue (.object ((name, v) :: members) next :: outer) r
    | _, _ => none
  | .closeBracket :: r =>
    match frames with
    | .array items :: outer => readAfter outer (array (v :: items).reverse) r
    | _ => none
  | .closeBrace :: r =>
    match frames with
    | .object members name :: outer => readAfter outer (object ((name, v) :: members).reverse) r
    | _ => none
  | _ => none
termination_by structural lexemes => lexemes

end

/-- The document in a text. -/
def ofText? (s : String) : Option Json := (Lexeme.ofText? s.toList).bind (readValue [])

end Json

end AttributeRules
