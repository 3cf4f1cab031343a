import AttributeRules.Settings
import Std.Data.HashMap

/-!
# A cache of trees

Rules that have been read are kept, by their text and the case mode they were
read in. A rule that cannot be read is not kept, and is read again each time.
-/

namespace AttributeRules

/-- The trees of rules read before. -/
structure ParseCache where
  /-- The trees by case mode and text. -/
  trees : Std.HashMap (CaseMode × String) Tree

namespace ParseCache

/-- The cache without any tree. -/
def empty : ParseCache := ⟨∅⟩

/-- The number of trees. -/
def size (c : ParseCache) : Nat := c.trees.size

/-- The tree of a rule, from the cache if it is there; otherwise it is read, and kept if that
succeeds. -/
def parse (c : ParseCache) (mode : CaseMode) (rule : String) : Traced Tree × ParseCache :=
  match c.trees[(mode, rule)]? with
  | some tree => (⟨.ok tree, [.cacheHit rule]⟩, c)
  | none =>
    let read := Tree.ofRule mode rule
    match read.outcome with
    | .ok tree => (read, ⟨c.trees.insert (mode, rule) tree⟩)
    | .error _ => (read, c)

/-- The result of a rule on a record, with the tree from the cache. The tree is kept even if its
evaluation fails. -/
def check (c : ParseCache) (s : Settings) (rule : String) (record : Record) :
    Traced Bool × ParseCache :=
  let (read, c) := c.parse s.caseMode rule
  (do s.evaluate (← read) record, c)

end ParseCache

end AttributeRules
