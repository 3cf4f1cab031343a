import AttributeRules.Condition.Basic
import AttributeRules.Tree

/-!
# Errors

Why a rule cannot be read or evaluated, or settings or a record not be loaded.
An error is kept as its cause; `RuleError.message` puts it into words.
-/

namespace AttributeRules

/-- What stands in a rule where a connective is due. -/
inductive Misplacement
  /-- A group that follows a condition. -/
  | group (group : Tree) (condition : String)
  /-- A condition that follows another. -/
  | condition (new old : String)
  /-- Something that the reader of a rule describes in its own words. -/
  | described (text : String)
  deriving DecidableEq

/-- The misplacement in words. -/
def Misplacement.message : Misplacement → String
  | group g c => "group " ++ g.render ++ " follows condition '" ++ c ++ "' without an operator"
  | condition new old => "'" ++ new ++ "' follows '" ++ old ++ "' without an operator"
  | described text => text

/-- What is wrong with a condition, or with the value it is compared with. -/
inductive ConditionFault
  /-- The text is not a condition. -/
  | malformed (text : String)
  /-- The integer in the text does not fit into 64 bits. -/
  | outOfRange (text : String)
  /-- The value is of another sort than the literal. -/
  | incomparable (actual : Value) (condition : Condition)
  /-- There is no value, and the comparison needs one. -/
  | noValue (condition : Condition)
  deriving DecidableEq

/-- The fault in words. -/
def ConditionFault.message : ConditionFault → String
  | malformed text => text
  | outOfRange text => "integer out of range in: " ++ text
  | incomparable v c =>
    "cannot compare " ++ v.sort ++ " value " ++ v.render ++ " of '" ++ c.field ++ "' with " ++
      c.render
  | noValue c => "no value for '" ++ c.field ++ "' to compare in: " ++ c.render

/-- Why settings or a record cannot be loaded. -/
inductive LoadFault
  /-- The text is not a document of the form that is asked for. -/
  | malformed
  /-- The settings admit no attribute at all. -/
  | emptyWhitelist
  deriving DecidableEq

/-- The fault in words. -/
def LoadFault.message : LoadFault → String
  | malformed => "malformed document"
  | emptyWhitelist => "attribute whitelist is empty"

/-- Why something fails. -/
inductive RuleError
  /-- The rule holds no condition and no connective. -/
  | emptyRule
  /-- A parenthesis has no partner. -/
  | unbalancedParentheses
  /-- A condition or a group stands where a connective is due. -/
  | misplacedCondition (cause : Misplacement)
  /-- A condition cannot be read or compared. -/
  | invalidCondition (cause : ConditionFault)
  /-- A condition names an attribute that is not admitted. -/
  | invalidAttribute (name : String)
  /-- An operand is needed and missing. -/
  | incompleteTree (op : Connective) (side : Side)
  /-- Settings or a record cannot be loaded. -/
  | config (cause : LoadFault)
  deriving DecidableEq

namespace RuleError

/-- The class of an error, without its details. -/
inductive Kind
  | emptyRule
  | unbalancedParentheses
  | misplacedCondition
  | invalidCondition
  | invalidAttribute
  | incompleteTree
  | config
  deriving DecidableEq

/-- The class of an error. -/
def kind : RuleError → Kind
  | emptyRule => .emptyRule
  | unbalancedParentheses => .unbalancedParentheses
  | misplacedCondition _ => .misplacedCondition
  | invalidCondition _ => .invalidCondition
  | invalidAttribute _ => .invalidAttribute
  | incompleteTree .. => .incompleteTree
  | config _ => .config

/-- The error in words. -/
def message : RuleError → String
  | emptyRule => "Rule string cannot be empty"
  | unbalancedParentheses => "Unbalanced parentheses"
  | misplacedCondition cause => "Misplaced condition: " ++ cause.message
  | invalidCondition cause => "Invalid condition: " ++ cause.message
  | invalidAttribute name => "Invalid attribute: " ++ name
  | incompleteTree op side =>
    "Incomplete tree: '" ++ op.word ++ "' operator has no " ++ side.word ++ " operand"
  | config cause => "Configuration error: " ++ cause.message

end RuleError

end AttributeRules
