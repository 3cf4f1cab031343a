import AttributeRules.Event

/-!
# Evaluating trees

A tree is evaluated from its lower left end. From the root one goes down the
left operands, keeping what is still to be done at each connective; then one
comes up again, evaluating the right operands on the way. `and` evaluates its
right operand in any case, `or` only if the left one is false.

A missing left operand is met on the way down, before any condition is
evaluated; a missing right operand on the way up, where it is needed.
-/

namespace AttributeRules

/-- The result of a connective whose operands have these results. -/
def Connective.apply : Connective → Bool → Bool → Bool
  | .and, a, b => a && b
  | .or, a, b => a || b

namespace Tree

/-- The connectives whose left operands are being evaluated, the innermost first, with their
right operands. -/
abbrev Spine := List (Connective × Option Tree)

/-- A bound for the steps that a spine still takes. -/
def Spine.weight : Spine → Nat
  | [] => 0
  | (_, right) :: outer => 1 + 2 * operandSize right + Spine.weight outer

mutual

/-- Goes down to the lower left end of a tree, evaluates its condition and comes up. -/
def descend (leaf : String → Except RuleError Bool) (spine : Spine) : Tree → Traced Bool
  | .leaf text => do
    let result ← Traced.ofExcept (leaf text)
    Traced.report (.operand text result)
    ascend leaf spine result
  | .join op none _ => Traced.fail (.incompleteTree op .left)
  | .join op (some left) right => descend leaf ((op, right) :: spine) left
termination_by t => Spine.weight spine + 2 * t.size
decreasing_by
  all_goals simp only [Spine.weight, size, operandSize]; omega

/-- Comes up from a left operand with this result. -/
def ascend (leaf : String → Except RuleError Bool) : Spine → Bool → Traced Bool
  | [], result => pure result
  | (op, right) :: outer, result => do
    Traced.report (.leftSide op result)
    if op = .or ∧ result then ascend leaf outer true
    else
      match right with
      | none => Traced.fail (.incompleteTree op .right)
      | some tree => do
        let other ← descend leaf [] tree
        Traced.report (.rightSide op other)
        ascend leaf outer (op.apply result other)
termination_by spine => Spine.weight spine
decreasing_by
  all_goals simp only [Spine.weight, operandSize]; omega

end

/-- The result of a tree whose conditions are evaluated by `leaf`. -/
def evaluate (leaf : String → Except RuleError Bool) (tree : Tree) : Traced Bool :=
  descend leaf [] tree

end Tree

end AttributeRules
