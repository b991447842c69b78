import PmmlExport.Source.DataType
import PmmlExport.Source.Operator
import PmmlExport.Literal

/-!
# Source expressions

The expression trees that the analytics pipeline hands over: field references and literals at
the leaves; aliases, operators, conditionals, membership tests, negations, null checks, casts,
unary minus and other named functions above them. Every node lists its children in evaluation
order, and `fold` combines results bottom-up along that order, so that the measures of a tree
(height, node count) and its declared types are one-line instances of it.

Depths are measured by walks over an explicit stack of pending nodes, each with its level, the
root being at level one: a turn pops the top entry and pushes the node's children one level
further down, the last child on top. The depth of a tree is the deepest level such a walk pops;
a tree exceeds a depth bound when the walk pops an entry below it, and the check stops there.
Each turn pops one node, so a walk from the root ends after as many turns as the tree has nodes.
-/

namespace PmmlExport.Source

/-- A node of a source expression tree. -/
inductive Expr where
  /-- A named wrapper, which the translator looks through. -/
  | aliased (child : Expr) (name : String)
  /-- A reference to an input field of a declared type. -/
  | field (name : String) (dataType : DataType)
  /-- A logical, arithmetic, comparison or bitwise operation. -/
  | binary (op : BinaryOperator) (left right : Expr)
  /-- `if (predicate) onTrue else onFalse`. -/
  | cond (predicate onTrue onFalse : Expr)
  /-- `value IN (candidates)`. -/
  | isIn (value : Expr) (candidates : List Expr)
  /-- A constant of a declared type. -/
  | literal (value : Literal) (dataType : DataType)
  /-- Logical negation. -/
  | negation (child : Expr)
  /-- `IS NULL` or `IS NOT NULL`. -/
  | nullCheck (kind : NullCheck) (child : Expr)
  /-- A conversion to a declared type. -/
  | cast (child : Expr) (dataType : DataType)
  /-- Arithmetic negation. -/
  | minus (child : Expr)
  /-- Any other named function of the pipeline, with its declared result type. -/
  | call (name : String) (arguments : List Expr) (dataType : DataType)

namespace Expr

/-- The direct children of a node, in evaluation order. -/
def children : Expr → List Expr
  | aliased c _ => [c]
  | field .. => []
  | binary _ l r => [l, r]
  | cond p t f => [p, t, f]
  | isIn v cs => v :: cs
  | literal .. => []
  | negation c => [c]
  | nullCheck _ c => [c]
  | cast c _ => [c]
  | minus c => [c]
  | call _ args _ => args

/-- The class name of a node, as diagnostics report it. -/
def nodeName : Expr → String
  | aliased .. => "Alias"
  | field .. => "AttributeReference"
  | binary op .. => op.nodeName
  | cond .. => "If"
  | isIn .. => "In"
  | literal .. => "Literal"
  | negation _ => "Not"
  | nullCheck k _ => k.nodeName
  | cast .. => "Cast"
  | minus _ => "UnaryMinus"
  | call .. => "ScalarFunction"

section Fold

variable {β : Type}

mutual

/-- Combine each node with the results for its children, bottom-up and in child order. -/
def fold (f : Expr → List β → β) : Expr → β
  | e@(aliased c _) => f e [fold f c]
  | e@(field ..) => f e []
  | e@(binary _ l r) => f e [fold f l, fold f r]
  | e@(cond p t u) => f e [fold f p, fold f t, fold f u]
  | e@(isIn v cs) => f e (fold f v :: foldList f cs)
  | e@(literal ..) => f e []
  | e@(negation c) => f e [fold f c]
  | e@(nullCheck _ c) => f e [fold f c]
  | e@(cast c _) => f e [fold f c]
  | e@(minus c) => f e [fold f c]
  | e@(call _ args _) => f e (foldList f args)

/-- `fold` over each expression of a list. -/
def foldList (f : Expr → List β → β) : List Expr → List β
  | [] => []
  | e :: es => fold f e :: foldList f es

end

theorem foldList_eq_map (f : Expr → List β → β) (es : List Expr) :
    foldList f es = es.map (fold f) := by
  induction es with
  | nil => rfl
  | cons e es ih => simp [foldList, ih]

/-- Folding a node applies the combining function to the folds of its children. -/
theorem fold_eq (f : Expr → List β → β) (e : Expr) :
    fold f e = f e (e.children.map (fold f)) := by
  cases e <;> simp [fold, children, foldList_eq_map]

end Fold

/-- The number of nodes on the longest root-to-leaf path. -/
def height : Expr → Nat :=
  fold fun _ hs => hs.foldr max 0 + 1

/-- The number of nodes of a tree. -/
def size : Expr → Nat :=
  fold fun _ ns => ns.foldr (· + ·) 0 + 1

/-! ## Depth walks -/

/-- The stack after popping a node at a level: its children one level further down on top of
the rest, the last child topmost. -/
def pushChildren (e : Expr) (level : Nat) (stack : List (Expr × Nat)) : List (Expr × Nat) :=
  e.children.reverse.map (fun c => (c, level + 1)) ++ stack

/-- The deepest level popped by a walk of at most `turns` turns over a stack of pending nodes
(top first), starting from the deepest level seen so far. -/
def deepestLevel : Nat → List (Expr × Nat) → Nat → Nat
  | 0, _, deepest => deepest
  | _ + 1, [], deepest => deepest
  | turns + 1, (e, level) :: stack, deepest =>
    deepestLevel turns (pushChildren e level stack) (max deepest level)

/-- Whether a walk of at most `turns` turns over a stack of pending nodes pops an entry deeper
than `maxDepth`; the walk stops at the first one. -/
def popsBelow (maxDepth : Nat) : Nat → List (Expr × Nat) → Bool
  | 0, _ => false
  | _ + 1, [] => false
  | turns + 1, (e, level) :: stack =>
    if maxDepth < level then true else popsBelow maxDepth turns (pushChildren e level stack)

/-- The number of nodes on the longest root-to-leaf path: the deepest level popped by a walk
from the root at level one. -/
def depth (e : Expr) : Nat :=
  deepestLevel e.size [(e, 1)] 0

/-- Whether some node lies on a level deeper than `maxDepth`: a walk from the root at level one
that stops at the first such node. -/
def exceedsDepth (e : Expr) (maxDepth : Nat) : Bool :=
  popsBelow maxDepth e.size [(e, 1)]

/-! ## Builders -/

/-- A literal of a declared type. -/
def lit (value : Literal) (dataType : DataType) : Expr := literal value dataType

/-- The null literal of a declared type. -/
def nullOf (dataType : DataType) : Expr := literal .null dataType

/-- `left AND right`. -/
def and (l r : Expr) : Expr := binary .and l r
/-- `left OR right`. -/
def or (l r : Expr) : Expr := binary .or l r
/-- `left + right`. -/
def add (l r : Expr) : Expr := binary .add l r
/-- `left - right`. -/
def subtract (l r : Expr) : Expr := binary .subtract l r
/-- `left * right`. -/
def multiply (l r : Expr) : Expr := binary .multiply l r
/-- `left / right`. -/
def divide (l r : Expr) : Expr := binary .divide l r
/-- `left = right`. -/
def eq (l r : Expr) : Expr := binary .equalTo l r
/-- `left > right`. -/
def gt (l r : Expr) : Expr := binary .greaterThan l r
/-- `left >= right`. -/
def ge (l r : Expr) : Expr := binary .greaterThanOrEqual l r
/-- `left < right`. -/
def lt (l r : Expr) : Expr := binary .lessThan l r
/-- `left <= right`. -/
def le (l r : Expr) : Expr := binary .lessThanOrEqual l r
/-- `child IS NULL`. -/
def isNull (c : Expr) : Expr := nullCheck .isNull c
/-- `child IS NOT NULL`. -/
def isNotNull (c : Expr) : Expr := nullCheck .isNotNull c

end Expr

end PmmlExport.Source
