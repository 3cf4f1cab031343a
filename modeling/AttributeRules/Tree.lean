/-!
# Trees of conditions

A rule is a tree: conditions at the leaves, joined by connectives. An operand
of a connective may be missing, since a rule such as `a and` is read into a
tree and only fails when its missing side is needed.

Main statements: a tree can be taken apart by induction (`Tree.induct`), and
equality of trees is decidable.
-/

namespace AttributeRules

/-- What joins two conditions. -/
inductive Connective
  | and
  | or
  deriving DecidableEq

/-- The word for a connective. -/
def Connective.word : Connective → String
  | .and => "and"
  | .or => "or"

/-- An operand's side. -/
inductive Side
  | left
  | right
  deriving DecidableEq

/-- The word for a side. -/
def Side.word : Side → String
  | .left => "left"
  | .right => "right"

/-- A rule's conditions and how they are joined. -/
inductive Tree
  /-- A condition, as its text. -/
  | leaf (text : String)
  /-- Two operands under a connective; either may be missing. -/
  | join (op : Connective) (left right : Option Tree)

namespace Tree

/-- Induction on trees: the hypotheses speak of the operands that are there. -/
@[induction_eliminator]
theorem induct {motive : Tree → Prop} (leaf : ∀ text, motive (leaf text))
    (join : ∀ op left right, (∀ t ∈ left, motive t) → (∀ t ∈ right, motive t) →
      motive (join op left right)) (t : Tree) : motive t :=
  @Tree.rec motive (fun o => ∀ t ∈ o, motive t) leaf join
    (fun _ h => nomatch h) (fun _ ih _ h => Option.mem_some.1 h ▸ ih) t

/-! ## Equality -/

mutual

/-- Whether two trees are the same. -/
def decEq : (a b : Tree) → Decidable (a = b)
  | leaf s, leaf t => decidable_of_iff (s = t) (by simp)
  | leaf _, join .. => isFalse (by simp)
  | join .., leaf _ => isFalse (by simp)
  | join op l r, join op' l' r' =>
    have := decEqOperand l l'
    have := decEqOperand r r'
    decidable_of_iff (op = op' ∧ l = l' ∧ r = r') (by simp)

/-- Whether two operands are the same. -/
def decEqOperand : (a b : Option Tree) → Decidable (a = b)
  | none, none => isTrue rfl
  | none, some _ => isFalse (by simp)
  | some _, none => isFalse (by simp)
  | some a, some b =>
    have := decEq a b
    decidable_of_iff (a = b) (by simp)

end

instance : DecidableEq Tree := decEq

/-! ## Parts -/

/-- The connective at the root, if there is one. -/
def op? : Tree → Option Connective
  | leaf _ => none
  | join op _ _ => some op

/-- The left operand of the root. -/
def left? : Tree → Option Tree
  | leaf _ => none
  | join _ l _ => l

/-- The right operand of the root. -/
def right? : Tree → Option Tree
  | leaf _ => none
  | join _ _ r => r

/-- Whether the tree is a single condition. -/
def isLeaf : Tree → Bool
  | leaf _ => true
  | join .. => false

mutual

/-- Whether no operand is missing. -/
def isComplete : Tree → Bool
  | leaf _ => true
  | join _ l r => isFilled l && isFilled r

/-- Whether an operand is there and misses nothing. -/
def isFilled : Option Tree → Bool
  | none => false
  | some t => t.isComplete

end

mutual

/-- The texts of the conditions from left to right. -/
def conditions : Tree → List String
  | leaf text => [text]
  | join _ l r => operandConditions l ++ operandConditions r

/-- The texts of the conditions of an operand; none if it is missing. -/
def operandConditions : Option Tree → List String
  | none => []
  | some t => t.conditions

end

mutual

/-- The number of conditions and connectives. -/
def size : Tree → Nat
  | leaf _ => 1
  | join _ l r => 1 + operandSize l + operandSize r

/-- The number of conditions and connectives of an operand. -/
def operandSize : Option Tree → Nat
  | none => 0
  | some t => t.size

end

mutual

/-- The written form: a connective's operands in parentheses, a question mark for a missing one. -/
def render : Tree → String
  | leaf text => text
  | join op l r => "(" ++ renderOperand l ++ " " ++ op.word ++ " " ++ renderOperand r ++ ")"

/-- The written form of an operand. -/
def renderOperand : Option Tree → String
  | none => "?"
  | some t => t.render

end

end Tree

end AttributeRules
