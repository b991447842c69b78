import PmmlExport.Source.Expr

/-!
# Declared types

Every node of a source tree has a declared type. Leaves, casts and named functions carry their
own; membership tests, negations, null checks, logical operators and comparisons are boolean;
an arithmetic or bitwise operation takes its left operand's type unless only the right operand's
type accepts the other; aliases and unary minus pass their child's type through, and a
conditional takes its true branch's type.

`declaredType` states the rule as a bottom-up fold. `TypeTable.infer` computes the types of all
nodes of a tree in one loop over an explicit work stack: a node is first pushed back under its
children, marked as waiting, and finished once they are, taking their types off a result stack.
It records each node's type by the node's path from the root.
-/

namespace PmmlExport.Source

/-- The declared type of a node, given the declared types of its children in order. -/
def Expr.localType : Expr → List DataType → DataType
  | .field _ t, _ | .literal _ t, _ | .cast _ t, _ | .call _ _ t, _ => t
  | .isIn .., _ | .negation _, _ | .nullCheck .., _ => .boolean
  | .binary op .., [l, r] =>
    match op.kind with
    | .logical | .comparison => .boolean
    | .arithmetic | .bitwise => if !l.accepts r && r.accepts l then r else l
  | .aliased .., [c] | .minus _, [c] => c
  | .cond .., [_, t, _] => t
  | _, _ => .null

/-- The declared type of an expression. -/
def Expr.declaredType : Expr → DataType :=
  Expr.fold Expr.localType

/-- A position in a tree: the child indices on the way down from the root. -/
abbrev Path := List Nat

/-- The nodes of a tree with their paths, children before their parent, in child order. -/
def Expr.postorder (e : Expr) : List (Path × Expr) :=
  let visit : Expr → List (Path → List (Path × Expr)) → Path → List (Path × Expr) :=
    fun node subs p => (subs.zipIdx.flatMap fun (sub, i) => sub (p ++ [i])) ++ [(p, node)]
  Expr.fold visit e []

/-- The nodes of a tree with their paths, each parent before its children, in child order. -/
def Expr.preorder (e : Expr) : List (Path × Expr) :=
  let visit : Expr → List (Path → List (Path × Expr)) → Path → List (Path × Expr) :=
    fun node subs p => (p, node) :: subs.zipIdx.flatMap fun (sub, i) => sub (p ++ [i])
  Expr.fold visit e []

/-- The declared types of the nodes of one tree, by path, with the root's type. -/
structure TypeTable where
  entries : List (Path × DataType)
  root : DataType

/-- The state of the postorder pass: the types recorded so far, and the types of finished
subtrees whose parent is not finished yet, the latest last. -/
structure TypeTable.Pass where
  entries : List (Path × DataType)
  results : List DataType

/-- Finish one node: take its children's types off the result stack, record its type and push
it. -/
def TypeTable.Pass.step (s : TypeTable.Pass) (node : Path × Expr) : TypeTable.Pass :=
  let k := node.2.children.length
  let below := s.results.take (s.results.length - k)
  let own := s.results.drop (s.results.length - k)
  let t := node.2.localType own
  { entries := (node.1, t) :: s.entries, results := below ++ [t] }

/-- The turns of the inference loop that a subtree takes from its start: one for a leaf; for
any other node, one to put it under its children, their turns, and one to finish it. -/
def Expr.loopTurns : Expr → Nat :=
  Expr.fold fun _ ts => if ts.isEmpty then 1 else ts.foldr (· + ·) 0 + 2

theorem Expr.loopTurns_eq (e : Expr) :
    e.loopTurns =
      if e.children.isEmpty then 1 else (e.children.map loopTurns).foldr (· + ·) 0 + 2 := by
  rw [loopTurns, fold_eq]
  simp only [List.isEmpty_map]

/-- A total of counts over two lists is the sum of their totals. -/
theorem foldr_add_append (l₁ l₂ : List Nat) :
    (l₁ ++ l₂).foldr (· + ·) 0 = l₁.foldr (· + ·) 0 + l₂.foldr (· + ·) 0 := by
  induction l₁ with
  | nil => simp
  | cons n l ih => simp only [List.cons_append, List.foldr_cons, ih, Nat.add_assoc]

namespace TypeTable

/-- A node on the work stack of the inference loop, and whether its children are finished. -/
structure Task where
  path : Path
  node : Expr
  childrenDone : Bool

namespace Task

/-- Tasks for the children of a task's node, none of them started, the first child first. -/
def childTasks (t : Task) : List Task :=
  t.node.children.zipIdx.map fun (c, i) => ⟨t.path ++ [i], c, false⟩

/-- Whether taking the task finishes its node: its children are finished, or it has none. -/
def finishes (t : Task) : Bool := t.childrenDone || t.node.children.isEmpty

/-- The turns the task still costs the loop: one for a node that only waits to be finished, and
all of its subtree's for a node not started. -/
def weight (t : Task) : Nat := if t.childrenDone then 1 else t.node.loopTurns

theorem weight_pos (t : Task) : 0 < t.weight := by
  have hturns : 0 < t.node.loopTurns := by
    rw [Expr.loopTurns_eq]
    split <;> omega
  unfold weight
  split <;> omega

theorem sum_weight_childTasks (t : Task) :
    (t.childTasks.map weight).foldr (· + ·) 0 =
      (t.node.children.map Expr.loopTurns).foldr (· + ·) 0 := by
  have hmap : t.childTasks.map weight = t.node.children.map Expr.loopTurns := by
    calc t.childTasks.map weight
        _ = t.node.children.zipIdx.map fun x => x.1.loopTurns := by simp [childTasks, weight]
        _ = _ := by
          have h := congrArg (List.map Expr.loopTurns) (List.zipIdx_map_fst 0 t.node.children)
          rwa [List.map_map] at h
  rw [hmap]

end Task

/-- The state of the inference loop: the work stack, its top first, and the pass. -/
structure Walk where
  work : List Task
  pass : Pass

namespace Walk

/-- One turn of the loop, `none` once the work stack is empty. The top task either finishes its
node, or goes back under the tasks of its children, marked as waiting for them. -/
def next : Walk → Option Walk
  | ⟨[], _⟩ => none
  | ⟨t :: rest, s⟩ =>
    if t.finishes then some ⟨rest, s.step (t.path, t.node)⟩
    else some ⟨t.childTasks ++ { t with childrenDone := true } :: rest, s⟩

/-- The turns the work stack still costs. -/
def weight (w : Walk) : Nat := (w.work.map Task.weight).foldr (· + ·) 0

/-- Every turn of the loop lowers the cost of the work stack: a finished task leaves it, and a
node with children, not started, trades its subtree's turns for its children's. -/
theorem weight_next_lt {w w' : Walk} (h : w.next = some w') : w'.weight < w.weight := by
  rcases w with ⟨_ | ⟨t, rest⟩, s⟩
  · cases h
  · have ht := t.weight_pos
    simp only [next] at h
    split at h
    · cases h
      simp only [weight, List.map_cons, List.foldr_cons]
      omega
    · next hfin =>
      cases h
      have hdone : t.childrenDone = false := by
        cases hc : t.childrenDone <;> simp_all [Task.finishes]
      have hchildren : t.node.children.isEmpty = false := by
        cases hc : t.node.children.isEmpty <;> simp_all [Task.finishes]
      have hturns := t.node.loopTurns_eq
      simp only [weight, List.map_append, List.map_cons, foldr_add_append, List.foldr_cons,
        Task.sum_weight_childTasks]
      simp only [Task.weight, hdone, hchildren, Bool.false_eq_true, ↓reduceIte] at hturns ⊢
      omega

/-- Turn the loop until the work stack is empty, and give the pass it leaves. -/
def run (w : Walk) : Pass :=
  match h : w.next with
  | none => w.pass
  | some w' =>
    have := weight_next_lt h
    w'.run
termination_by w.weight

/-- The loop's start on a tree: the root, not started, over an empty pass. -/
def start (e : Expr) : Walk := ⟨[⟨[], e, false⟩], ⟨[], []⟩⟩

end Walk

/-- The declared types of all nodes of a tree, from the pass of the inference loop. -/
def infer (e : Expr) : TypeTable :=
  let pass := (Walk.start e).run
  { entries := pass.entries, root := pass.results.getLastD .null }

end TypeTable

/-- The declared type of an expression: the root type of its own type table. -/
def Expr.dataType (e : Expr) : DataType := (TypeTable.infer e).root

namespace TypeTable

/-- The recorded type of the node at a path. -/
def get (t : TypeTable) (p : Path) : Option DataType :=
  (t.entries.find? (·.1 == p)).map (·.2)

/-- The recorded type of the node at a path, or else the type of the given expression from a
table of its own. -/
def typeOf (t : TypeTable) (p : Path) (e : Expr) : DataType :=
  (t.get p).getD e.dataType

/-- The number of recorded nodes. -/
def size (t : TypeTable) : Nat := t.entries.length

end TypeTable

end PmmlExport.Source
