import AttributeRules.Assembly
import AttributeRules.Condition
import AttributeRules.Evaluation
import Std.Data.ExtTreeSet

/-!
# Settings

Which attributes are admitted and what becomes of letter case. Under given
settings rules are read, combined, and evaluated on records.
-/

namespace AttributeRules

/-! ## Whitelists -/

/-- A set of admitted attributes. -/
structure Whitelist where
  /-- Their lowercased names. -/
  names : Std.ExtTreeSet String
  deriving DecidableEq

namespace Whitelist

/-- The whitelist of these names. -/
def ofList (names : List String) : Whitelist :=
  ⟨names.foldl (fun set name => set.insert (Text.lowercase name)) ∅⟩

/-- The attributes that are admitted unless others are chosen. -/
def standard : Whitelist := ofList ["age", "department", "salary", "experience"]

/-- Whether a name is admitted. -/
def contains (w : Whitelist) (name : String) : Bool :=
  w.names.contains name || w.names.contains (Text.lowercase name)

/-- The number of names, apart from their case. -/
def size (w : Whitelist) : Nat := w.names.size

/-- Whether no name is admitted. -/
def isEmpty (w : Whitelist) : Bool := w.names.isEmpty

end Whitelist

/-! ## Rules under settings -/

/-- How rules are read and evaluated. -/
structure Settings where
  /-- The attributes that conditions may name. -/
  whitelist : Whitelist := Whitelist.standard
  /-- What becomes of letter case. -/
  caseMode : CaseMode := .verbatim
  deriving DecidableEq

namespace Settings

/-- The tree of a rule. -/
def parse (s : Settings) (rule : String) : Traced Tree := Tree.ofRule s.caseMode rule

/-- The result of the condition in a text. Its attribute must be admitted, whether or not the
record has a value for it. -/
def evaluateCondition (s : Settings) (record : Record) (text : String) : Except RuleError Bool := do
  let condition ← Condition.parse text
  if s.whitelist.contains condition.field then
    condition.test (record.lookup condition.field) s.caseMode.foldsValues
  else throw (.invalidAttribute condition.field)

/-- The result of a tree on a record. -/
def evaluate (s : Settings) (tree : Tree) (record : Record) : Traced Bool :=
  tree.evaluate (s.evaluateCondition record)

/-- The result of a rule on a record. -/
def check (s : Settings) (rule : String) (record : Record) : Traced Bool := do
  s.evaluate (← s.parse rule) record

/-- The tree of several rules joined by `or`; none if there are no rules. -/
def combine (s : Settings) (rules : List String) : Traced (Option Tree) :=
  Id.run (Tree.combine (fun rule => pure (s.parse rule)) rules)

/-- The tree of a rule; if it cannot be read, that is reported and there is none. -/
def create (s : Settings) (rule : String) : Traced (Option Tree) :=
  match s.parse rule with
  | ⟨.ok tree, events⟩ => ⟨.ok (some tree), events⟩
  | ⟨.error e, events⟩ => ⟨.ok none, events ++ [.rejected rule e]⟩

end Settings

end AttributeRules
