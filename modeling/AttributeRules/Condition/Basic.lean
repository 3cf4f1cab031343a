import AttributeRules.Record

/-!
# Conditions

A condition compares the value of one attribute with a literal: `age >= 30`,
`department == 'sales'`, `department in 'sales,marketing'`.
-/

namespace AttributeRules

/-- How a value is compared with a literal. -/
inductive Comparison
  | equal
  | notEqual
  | greater
  | less
  | greaterEqual
  | lessEqual
  /-- Membership in a list. -/
  | member
  deriving DecidableEq

namespace Comparison

/-- The sign of a comparison. -/
def symbol : Comparison → String
  | equal => "=="
  | notEqual => "!="
  | greater => ">"
  | less => "<"
  | greaterEqual => ">="
  | lessEqual => "<="
  | member => "in"

/-- Whether the comparison holds between two things in this order; no order makes a member. -/
def holds : Comparison → Ordering → Bool
  | equal, o => o = .eq
  | notEqual, o => o ≠ .eq
  | greater, o => o = .gt
  | less, o => o = .lt
  | greaterEqual, o => o ≠ .lt
  | lessEqual, o => o ≠ .gt
  | member, _ => false

end Comparison

/-- What a value is compared with. -/
inductive Literal
  /-- An integer of 64 bits. -/
  | int (n : Int64)
  /-- A string. -/
  | str (s : String)
  /-- Strings of which the value is to be one. -/
  | list (items : List String)
  deriving DecidableEq

/-- The written form: an integer in decimal, a string and the items of a list, with commas
between them, in single quotes. -/
def Literal.render : Literal → String
  | int n => String.ofList (Text.integer n.toInt)
  | str s => "'" ++ s ++ "'"
  | list items => "'" ++ ",".intercalate items ++ "'"

/-- A comparison of an attribute with a literal. -/
structure Condition where
  /-- The name of the attribute. -/
  field : String
  /-- How its value is compared. -/
  comparison : Comparison
  /-- What its value is compared with. -/
  literal : Literal
  deriving DecidableEq

/-- The written form: the attribute, the sign and the literal, one space apart. -/
def Condition.render (c : Condition) : String :=
  c.field ++ " " ++ c.comparison.symbol ++ " " ++ c.literal.render

end AttributeRules
