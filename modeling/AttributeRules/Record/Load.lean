import AttributeRules.Json.Document
import AttributeRules.Record
import AttributeRules.RuleError

/-!
# Loading records

A record is written as a JSON object whose members are strings and integers of
64 bits. Where a name is there twice, its last value counts.
-/

namespace AttributeRules

/-- The integer of 64 bits that a number is; a negative zero is none. -/
def Json.Number.int64? : Json.Number → Option Int64
  | .integer false n => AttributeRules.int64? n
  | .integer true 0 => none
  | .integer true n => AttributeRules.int64? (-n)
  | .real => none

/-- The value that a JSON string or integer stands for. -/
def Value.ofJson? : Json → Option Value
  | .number n => n.int64?.map .int
  | .text s => s.map .str
  | _ => none

namespace Record

/-- The name and the value that a member of a JSON object stands for. -/
def member? (member : Option String × Json) : Option (String × Value) := do
  return (← member.1, ← Value.ofJson? member.2)

/-- The record that a JSON object stands for. -/
def ofJson? : Json → Option Record
  | .object members =>
    (members.mapM member?).map ofList
  | _ => none

/-- The record in a JSON text. -/
def load (text : String) : Except RuleError Record :=
  match (Json.ofText? text).bind ofJson? with
  | some record => .ok record
  | none => .error (.config .malformed)

end Record

end AttributeRules
