import AttributeRules.RuleError
import AttributeRules.Text.Basic

/-!
# Conditions and values

The text of a condition is a word, a sign of comparison and a literal, with
blanks on either side of the sign and behind the literal. The literal is a run
of digits or a nonempty text between two equal quotes, single or double. The
sign `in` is a word too, so that in `agein5` the word of the attribute ends
where the rest can be read: at `age`.

The condition compares the value of its attribute with its literal. Integers
compare as numbers and strings by their code points.
-/

namespace AttributeRules

/-! ## Reading -/

/-- The comparison at the front of the text, and the rest. A longer sign goes before a shorter. -/
def Comparison.read? : List Char → Option (Comparison × List Char)
  | '=' :: '=' :: r => some (equal, r)
  | '!' :: '=' :: r => some (notEqual, r)
  | '>' :: '=' :: r => some (greaterEqual, r)
  | '<' :: '=' :: r => some (lessEqual, r)
  | '>' :: r => some (greater, r)
  | '<' :: r => some (less, r)
  | 'i' :: 'n' :: r | 'i' :: 'N' :: r | 'I' :: 'n' :: r | 'I' :: 'N' :: r => some (member, r)
  | _ => none

/-- The comparison with this sign. -/
def Comparison.ofSymbol? (s : String) : Option Comparison :=
  match read? s.toList with
  | some (c, []) => some c
  | _ => none

namespace Condition

/-- A literal as it stands in the text. -/
inductive Spelling
  /-- A run of digits. -/
  | digits (ds : List Char)
  /-- The text between quotes. -/
  | quoted (s : List Char)
  deriving DecidableEq

/-- The digits of a number or the text between quotes. -/
def Spelling.content : Spelling → List Char
  | digits ds => ds
  | quoted s => s

/-- The text up to the next quote `q`, unless it is empty, and the rest behind the quote. -/
def quoted? (q : Char) (s : List Char) : Option (Spelling × List Char) :=
  match s.takeWhile (· ≠ q), s.dropWhile (· ≠ q) with
  | [], _ => none
  | _, [] => none
  | content, _ :: r => some (.quoted content, r)

/-- The literal at the front of the text, and the rest. -/
def spelling? : List Char → Option (Spelling × List Char)
  | '\'' :: r => quoted? '\'' r
  | '"' :: r => quoted? '"' r
  | s =>
    match s.takeWhile Text.isDigit with
    | [] => none
    | ds => some (.digits ds, s.dropWhile Text.isDigit)

/-- A sign and a literal that fill the text, with blanks around them. -/
def tail? (s : List Char) : Option (Comparison × Spelling) := do
  let (comparison, r) ← Comparison.read? (Text.trimStart s)
  let (literal, r) ← spelling? (Text.trimStart r)
  if r.all Text.isBlank then some (comparison, literal) else none

/-- The attribute, the comparison and the literal of a condition as they stand in its text. The
attribute is the longest beginning of the text, made of word characters, with a sign and a literal
behind it. -/
def parts? : List Char → Option (List Char × Comparison × Spelling)
  | [] => none
  | c :: r =>
    if Text.isWord c then
      match parts? r with
      | some (word, found) => some (c :: word, found)
      | none => (tail? r).map fun found => ([c], found)
    else none

/-- What a literal means under a comparison: the items of a list for membership, else a string
or an integer. An integer may be too large. -/
def meaning? (comparison : Comparison) (literal : Spelling) : Option Literal :=
  match comparison, literal with
  | .member, _ =>
    some (.list ((Text.pieces ',' literal.content).map fun p => String.ofList (Text.trim p)))
  | _, .quoted s => some (.str (String.ofList s))
  | _, .digits ds => (int64? (Text.decimalValue ds)).map .int

/-- The condition in a text. The attribute's name is lowercased. -/
def parse (text : String) : Except RuleError Condition :=
  match parts? text.toList with
  | none => .error (.invalidCondition (.malformed text))
  | some (word, comparison, literal) =>
    match meaning? comparison literal with
    | none => .error (.invalidCondition (.outOfRange text))
    | some literal => .ok ⟨Text.lowercase (String.ofList word), comparison, literal⟩

/-! ## Comparing values -/

/-- The answer if there is no value: it equals nothing, and is in no list; it has no order. -/
def testAbsent (c : Condition) : Except RuleError Bool :=
  match c.comparison with
  | .equal | .member => .ok false
  | .notEqual => .ok true
  | _ => .error (.invalidCondition (.noValue c))

/-- The string as it is compared: lowercased if `fold` asks for it. -/
def folded (fold : Bool) (s : String) : String :=
  if fold then Text.lowercase s else s

/-- The answer for a value. A string is in a list if it is one of the items, whatever the
comparison. A value of another sort than the literal is an error. -/
def testValue (c : Condition) (actual : Value) (fold : Bool) : Except RuleError Bool :=
  match c.literal, actual with
  | .list items, .str s => .ok (items.contains (folded fold s))
  | .int expected, .int n => .ok (c.comparison.holds (compare n expected))
  | .str expected, .str s => .ok (c.comparison.holds (compare (folded fold s) expected))
  | _, _ => .error (.invalidCondition (.incomparable actual c))

/-- The answer for a value, or for the lack of one. -/
def test (c : Condition) (actual : Option Value) (fold : Bool) : Except RuleError Bool :=
  match actual with
  | none => c.testAbsent
  | some v => c.testValue v fold

end Condition

end AttributeRules
