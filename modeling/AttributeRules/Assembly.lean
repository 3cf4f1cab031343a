import AttributeRules.Token

/-!
# Putting a tree together

The tokens of a rule are taken one by one. A keyword makes the tree so far the
left operand of a new connective, whatever the keywords before it were, and a
condition becomes the right operand. An opening parenthesis sets the tree so
far aside; the closing one puts the tree in between back into it as an operand.

Keywords without operands are no error here: they leave an operand missing.
The trees of several rules are joined by `or` from left to right.
-/

namespace AttributeRules

/-- A tree under construction. -/
structure Assembly where
  /-- The tree so far, since the last parenthesis that is still open. -/
  current : Option Tree
  /-- The trees set aside at the open parentheses, the innermost first. -/
  suspended : List (Option Tree)
  deriving DecidableEq

namespace Assembly

/-- Nothing taken yet. -/
def empty : Assembly := ⟨none, []⟩

/-- Puts a closed group into the tree that was set aside for it: on the left if there is room,
else on the right. A group without a tree still takes the place, and leaves it empty. -/
def attachGroup (group : Option Tree) : Tree → Except RuleError Tree
  | .join op none right => .ok (.join op group right)
  | .join op left _ => .ok (.join op left group)
  | .leaf text =>
    match group with
    | none => .ok (.leaf text)
    | some group => .error (.misplacedCondition (.group group text))

/-- Puts a condition on the right of the tree so far. -/
def attachCondition (text : String) : Option Tree → Except RuleError Tree
  | none => .ok (.leaf text)
  | some (.join op left _) => .ok (.join op left (some (.leaf text)))
  | some (.leaf old) => .error (.misplacedCondition (.condition text old))

/-- Takes one token. -/
def push (a : Assembly) : Token → Except RuleError Assembly
  | .opening => .ok ⟨none, a.current :: a.suspended⟩
  | .closing =>
    match a.suspended with
    | [] => .error .unbalancedParentheses
    | none :: outer => .ok ⟨a.current, outer⟩
    | some tree :: outer => do return ⟨some (← attachGroup a.current tree), outer⟩
  | .keyword op => .ok ⟨some (.join op a.current none), a.suspended⟩
  | .condition text => do return ⟨some (← attachCondition text a.current), a.suspended⟩

/-- The tree, once all tokens are taken. -/
def finish (a : Assembly) : Except RuleError Tree :=
  match a.suspended, a.current with
  | _ :: _, _ => .error .unbalancedParentheses
  | [], none => .error .emptyRule
  | [], some tree => .ok tree

end Assembly

namespace Tree

/-- The tree of a list of tokens. -/
def ofTokens (tokens : List Token) : Except RuleError Tree := do
  (← tokens.foldlM Assembly.push Assembly.empty).finish

/-- The tree of a rule. -/
def ofRule (mode : CaseMode) (rule : String) : Traced Tree := do
  Traced.ofExcept (ofTokens (← Token.ofRule mode rule))

/-! ## Combining rules -/

/-- The tree so far, if there is one, or the next. -/
def orElse : Option Tree → Tree → Tree
  | none, next => next
  | some tree, next => join .or (some tree) (some next)

/-- Reads the rules that follow those already combined, of which there are `index`. -/
def combineAfter {m : Type → Type} [Monad m] (read : String → m (Traced Tree)) (index : Nat)
    (combined : Option Tree) : List String → m (Traced (Option Tree))
  | [] => pure (Traced.ok combined)
  | rule :: rules => do
    let tree ← read rule
    match tree.outcome with
    | .error e => pure ⟨.error e, tree.events ++ [.notCombined index rule e]⟩
    | .ok next =>
      let all ← combineAfter read (index + 1) (some (orElse combined next)) rules
      pure ⟨all.outcome, tree.events ++ all.events⟩

/-- The rules joined by `or`; no tree if there are no rules. -/
def combine {m : Type → Type} [Monad m] (read : String → m (Traced Tree)) (rules : List String) :
    m (Traced (Option Tree)) :=
  combineAfter read 0 none rules

end Tree

end AttributeRules
