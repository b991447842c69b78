import Mathlib
import PmmlExport.Source.Typing

/-!
# Positions and traversals of expression trees

A node of a tree is named by its path, the child indices on the way down from the root, and
`Expr.subtree?` descends along one. Induction over a tree follows `Expr.children`, so one
principle covers all eleven node kinds. The postorder and preorder of the type table list
exactly the nodes at the paths of the tree, and the depth check of the translator rejects a tree
exactly when its height, the number of nodes on its longest root-to-leaf path, passes the bound.
-/

namespace PmmlExport.Source

namespace Expr

/-- Every child is smaller than its parent. -/
theorem sizeOf_lt_of_mem_children {c e : Expr} (h : c ∈ e.children) : sizeOf c < sizeOf e := by
  cases e with
  | isIn v cs =>
    have hsize := Expr.isIn.sizeOf_spec v cs
    rcases List.mem_cons.mp h with rfl | h
    · omega
    · have := List.sizeOf_lt_of_mem h
      omega
  | call n args t =>
    have hsize := Expr.call.sizeOf_spec n args t
    have := List.sizeOf_lt_of_mem (show c ∈ args from h)
    omega
  | binary op l r =>
    have hsize := Expr.binary.sizeOf_spec op l r
    simp only [children, List.mem_cons, List.not_mem_nil, or_false] at h
    rcases h with rfl | rfl <;> omega
  | cond p t f =>
    have hsize := Expr.cond.sizeOf_spec p t f
    simp only [children, List.mem_cons, List.not_mem_nil, or_false] at h
    rcases h with rfl | rfl | rfl <;> omega
  | field | literal => simp [children] at h
  | aliased | negation | nullCheck | cast | minus =>
    simp only [children, List.mem_singleton] at h
    subst h
    simp only [Expr.aliased.sizeOf_spec, Expr.negation.sizeOf_spec, Expr.nullCheck.sizeOf_spec,
      Expr.cast.sizeOf_spec, Expr.minus.sizeOf_spec]
    omega

/-- Induction over a tree through the children of each node. -/
@[elab_as_elim]
theorem childInduction {motive : Expr → Prop}
    (step : ∀ e, (∀ c ∈ e.children, motive c) → motive e) (e : Expr) : motive e :=
  step e fun c _ => childInduction step c
termination_by sizeOf e
decreasing_by exact sizeOf_lt_of_mem_children ‹_›

/-! ### Descending along a path -/

/-- The node at a path, `none` if the path leaves the tree. -/
def subtree? (e : Expr) : Path → Option Expr
  | [] => some e
  | i :: p => e.children[i]?.bind (·.subtree? p)

@[simp] theorem subtree?_nil (e : Expr) : e.subtree? [] = some e := rfl

@[simp] theorem subtree?_cons (e : Expr) (i : Nat) (p : Path) :
    e.subtree? (i :: p) = e.children[i]?.bind (·.subtree? p) := rfl

theorem subtree?_cons_eq_some_iff {e s : Expr} {i : Nat} {p : Path} :
    e.subtree? (i :: p) = some s ↔ ∃ c, e.children[i]? = some c ∧ c.subtree? p = some s := by
  simp [Option.bind_eq_some_iff]

/-- Descending along `p ++ q` is descending along `p`, then along `q` from there. -/
theorem subtree?_append (e : Expr) (p q : Path) :
    e.subtree? (p ++ q) = (e.subtree? p).bind (·.subtree? q) := by
  induction p generalizing e with
  | nil => rfl
  | cons i p ih =>
    rw [List.cons_append, subtree?_cons, subtree?_cons]
    rcases e.children[i]? with _ | c
    · rfl
    · exact ih c

/-- One step below a node of the tree is one of its children. -/
theorem subtree?_append_singleton {e s : Expr} {p : Path} (h : e.subtree? p = some s) (i : Nat) :
    e.subtree? (p ++ [i]) = s.children[i]? := by
  rw [subtree?_append, h, Option.bind_some, subtree?_cons]
  rcases s.children[i]? with _ | c <;> rfl

/-! ### The two traversal orders -/

/-- The postorder of a subtree whose root sits at path `p`. -/
def postorderAt (e : Expr) : Path → List (Path × Expr) :=
  fold (fun node subs p => (subs.zipIdx.flatMap fun (sub, i) => sub (p ++ [i])) ++ [(p, node)]) e

/-- The preorder of a subtree whose root sits at path `p`. -/
def preorderAt (e : Expr) : Path → List (Path × Expr) :=
  fold (fun node subs p => (p, node) :: subs.zipIdx.flatMap fun (sub, i) => sub (p ++ [i])) e

theorem preorder_eq (e : Expr) : e.preorder = e.preorderAt [] := rfl

/-- The postorder lists the children's subtrees left to right, then the node itself. -/
theorem postorderAt_eq (e : Expr) (p : Path) : e.postorderAt p =
    (e.children.zipIdx.flatMap fun (c, i) => c.postorderAt (p ++ [i])) ++ [(p, e)] := by
  rw [postorderAt, fold_eq]
  simp [List.zipIdx_map, List.flatMap_map, postorderAt]

/-- The preorder lists the node itself, then the children's subtrees left to right. -/
theorem preorderAt_eq (e : Expr) (p : Path) : e.preorderAt p =
    (p, e) :: e.children.zipIdx.flatMap fun (c, i) => c.preorderAt (p ++ [i]) := by
  rw [preorderAt, fold_eq]
  simp [List.zipIdx_map, List.flatMap_map, preorderAt]

/-- The postorder holds exactly the nodes of the tree, each with its own path. -/
theorem mem_postorderAt {e : Expr} {p q : Path} {n : Expr} :
    (q, n) ∈ e.postorderAt p ↔ ∃ r, q = p ++ r ∧ e.subtree? r = some n := by
  induction e using childInduction generalizing p q with
  | step e ih =>
    rw [postorderAt_eq]
    simp only [List.mem_append, List.mem_flatMap, List.mem_singleton, Prod.mk.injEq, Prod.exists]
    constructor
    · rintro (⟨c, i, hci, hmem⟩ | ⟨rfl, rfl⟩)
      · rw [List.mk_mem_zipIdx_iff_getElem?] at hci
        obtain ⟨r, rfl, hr⟩ := (ih c (List.mem_of_getElem? hci)).mp hmem
        exact ⟨i :: r, by simp, by simp [hci, hr]⟩
      · exact ⟨[], by simp, rfl⟩
    · rintro ⟨_ | ⟨i, r⟩, rfl, hr⟩
      · simp only [subtree?_nil, Option.some.injEq] at hr
        exact Or.inr ⟨by simp, hr.symm⟩
      · obtain ⟨c, hci, hc⟩ := subtree?_cons_eq_some_iff.mp hr
        refine Or.inl ⟨c, i, List.mk_mem_zipIdx_iff_getElem?.mpr hci, ?_⟩
        exact (ih c (List.mem_of_getElem? hci)).mpr ⟨r, by simp, hc⟩

/-- Forgetting the paths, the preorder is the node followed by the preorders of its children,
wherever the subtree sits. -/
theorem map_snd_preorderAt (e : Expr) (p : Path) : (e.preorderAt p).map Prod.snd =
    e :: e.children.flatMap fun c => (c.preorderAt []).map Prod.snd := by
  induction e using childInduction generalizing p with
  | step e ih =>
    have hsub : ∀ x ∈ e.children.zipIdx,
        (x.1.preorderAt (p ++ [x.2])).map Prod.snd = (x.1.preorderAt []).map Prod.snd := by
      intro x hx
      have hc := List.mem_of_getElem? (List.mem_zipIdx_iff_getElem?.mp hx)
      rw [ih x.1 hc, ih x.1 hc]
    have hfst : (e.children.flatMap fun c => (c.preorderAt []).map Prod.snd) =
        e.children.zipIdx.flatMap fun x => (x.1.preorderAt []).map Prod.snd := by
      calc (e.children.flatMap fun c => (c.preorderAt []).map Prod.snd)
          _ = ((e.children.zipIdx.map Prod.fst).flatMap fun c => (c.preorderAt []).map Prod.snd) :=
            by rw [List.zipIdx_map_fst]
          _ = _ := List.flatMap_map ..
    rw [preorderAt_eq, List.map_cons, List.map_flatMap, List.flatMap_congr hsub, hfst]

/-! ### Height and the depth walks -/

/-- A leaf has height one, any other node one more than its highest child. -/
theorem height_eq (e : Expr) : e.height = (e.children.map height).foldr max 0 + 1 :=
  fold_eq _ e

theorem height_pos (e : Expr) : 0 < e.height := by
  rw [height_eq]
  omega

/-- A tree has one node more than its children's subtrees together. -/
theorem size_eq (e : Expr) : e.size = (e.children.map size).sum + 1 :=
  fold_eq _ e

theorem size_pos (e : Expr) : 0 < e.size := by
  rw [size_eq]
  omega

private theorem lt_foldr_max_iff {k : Nat} {hs : List Nat} :
    k < hs.foldr max 0 ↔ ∃ h ∈ hs, k < h := by
  induction hs with
  | nil => simp
  | cons h hs ih =>
    simp only [List.foldr_cons, List.mem_cons, exists_eq_or_imp, ← ih]
    omega

/-- A tree is at most `m + 1` high exactly when each of its children is at most `m` high. -/
theorem height_le_succ_iff {e : Expr} {m : Nat} :
    e.height ≤ m + 1 ↔ ∀ c ∈ e.children, c.height ≤ m := by
  rw [height_eq, Nat.add_le_add_iff_right, ← Nat.not_lt, lt_foldr_max_iff]
  simp

/-- A node at level `l` has no node of its subtree below level `m` exactly when it is itself
not below `m` and neither is any node under its children, one level further down. -/
theorem level_add_height_le_iff {e : Expr} {l m : Nat} :
    l + e.height ≤ m + 1 ↔ l ≤ m ∧ ∀ c ∈ e.children, l + 1 + c.height ≤ m + 1 := by
  by_cases hlm : l ≤ m
  · have hsplit : l + e.height ≤ m + 1 ↔ e.height ≤ m - l + 1 := by omega
    rw [hsplit, height_le_succ_iff]
    exact ⟨fun h => ⟨hlm, fun c hc => by have := h c hc; omega⟩,
      fun h c hc => by have := h.2 c hc; omega⟩
  · have := height_pos e
    constructor
    · intro h
      omega
    · exact fun h => absurd h.1 hlm

/-- The nodes still to be popped from a stack: every node under each of its entries. -/
def stackNodes (stack : List (Expr × Nat)) : Nat :=
  (stack.map fun x => x.1.size).sum

@[simp] theorem stackNodes_nil : stackNodes [] = 0 := rfl

@[simp] theorem stackNodes_cons (x : Expr × Nat) (stack : List (Expr × Nat)) :
    stackNodes (x :: stack) = x.1.size + stackNodes stack := by
  simp [stackNodes]

theorem eq_nil_of_stackNodes_eq_zero {stack : List (Expr × Nat)} (h : stackNodes stack = 0) :
    stack = [] := by
  cases stack with
  | nil => rfl
  | cons x stack =>
    have := size_pos x.1
    simp only [stackNodes_cons] at h
    omega

/-- A turn removes exactly one node from what a stack holds: the popped one. -/
theorem stackNodes_pushChildren (e : Expr) (l : Nat) (stack : List (Expr × Nat)) :
    stackNodes (pushChildren e l stack) + 1 = e.size + stackNodes stack := by
  have hchildren : stackNodes (e.children.reverse.map fun c => (c, l + 1)) =
      (e.children.map size).sum := by
    simp [stackNodes, Function.comp_def, List.sum_reverse]
  rw [pushChildren, stackNodes, List.map_append, List.sum_append, ← stackNodes, ← stackNodes,
    hchildren, size_eq e]
  omega

/-- With turns enough for a stack, the stack after the next turn fits in the turns left. -/
theorem stackNodes_pushChildren_le {e : Expr} {l turns : Nat} {stack : List (Expr × Nat)}
    (h : stackNodes ((e, l) :: stack) ≤ turns + 1) :
    stackNodes (pushChildren e l stack) ≤ turns := by
  have := stackNodes_pushChildren e l stack
  simp only [stackNodes_cons] at h
  omega

theorem forall_mem_pushChildren {P : Expr × Nat → Prop} {e : Expr} {l : Nat}
    {stack : List (Expr × Nat)} :
    (∀ x ∈ pushChildren e l stack, P x) ↔
      (∀ c ∈ e.children, P (c, l + 1)) ∧ ∀ x ∈ stack, P x := by
  simp [pushChildren, or_imp, forall_and]

/-- The walk's invariant, for the deepest level: with turns enough for the nodes on the stack,
the walk ends at most at level `m` exactly when the level seen so far and every node under the
pending entries are at most at level `m`. -/
theorem deepestLevel_le_iff {turns : Nat} {stack : List (Expr × Nat)} {deepest m : Nat}
    (hturns : stackNodes stack ≤ turns) :
    deepestLevel turns stack deepest ≤ m ↔
      deepest ≤ m ∧ ∀ x ∈ stack, x.2 + x.1.height ≤ m + 1 := by
  induction turns generalizing stack deepest with
  | zero =>
    rw [eq_nil_of_stackNodes_eq_zero (Nat.le_zero.mp hturns)]
    simp [deepestLevel]
  | succ turns ih =>
    cases stack with
    | nil => simp [deepestLevel]
    | cons x stack =>
      obtain ⟨e, l⟩ := x
      rw [deepestLevel, ih (stackNodes_pushChildren_le hturns), forall_mem_pushChildren, List.forall_mem_cons,
        level_add_height_le_iff, Nat.max_le]
      tauto

/-- The walk's invariant, for the early exit: with turns enough for the nodes on the stack, the
walk pops no entry below level `m` exactly when no node under the pending entries lies there.
Where the popped entry itself is too deep, the walk stops at once. -/
theorem popsBelow_eq_false_iff {turns m : Nat} {stack : List (Expr × Nat)}
    (hturns : stackNodes stack ≤ turns) :
    popsBelow m turns stack = false ↔ ∀ x ∈ stack, x.2 + x.1.height ≤ m + 1 := by
  induction turns generalizing stack with
  | zero =>
    rw [eq_nil_of_stackNodes_eq_zero (Nat.le_zero.mp hturns)]
    simp [popsBelow]
  | succ turns ih =>
    cases stack with
    | nil => simp [popsBelow]
    | cons x stack =>
      obtain ⟨e, l⟩ := x
      rw [List.forall_mem_cons, level_add_height_le_iff]
      by_cases hml : m < l
      · simp only [popsBelow, hml, if_true, Bool.true_eq_false, false_iff]
        omega
      · rw [popsBelow, if_neg hml, ih (stackNodes_pushChildren_le hturns),
          forall_mem_pushChildren]
        have hlm : l ≤ m := Nat.le_of_not_lt hml
        tauto

/-- The depth check fails exactly on trees higher than the bound. -/
theorem exceedsDepth_iff {e : Expr} {m : Nat} : e.exceedsDepth m = true ↔ m < e.height := by
  rw [← Bool.not_eq_false, exceedsDepth, popsBelow_eq_false_iff (by simp)]
  simp only [List.forall_mem_cons, List.not_mem_nil, IsEmpty.forall_iff, implies_true, and_true]
  omega

/-- The depth check passes exactly on trees at most as high as the bound. -/
theorem exceedsDepth_eq_false_iff {e : Expr} {m : Nat} :
    e.exceedsDepth m = false ↔ e.height ≤ m := by
  rw [← Bool.not_eq_true, exceedsDepth_iff, Nat.not_lt]

/-- The depth of a tree, its deepest level, is its height: both are bounded by the same
numbers. -/
theorem depth_eq_height (e : Expr) : e.depth = e.height := by
  have hle : ∀ m, e.depth ≤ m ↔ e.height ≤ m := by
    intro m
    rw [depth, deepestLevel_le_iff (by simp)]
    simp only [List.forall_mem_cons, List.not_mem_nil, IsEmpty.forall_iff, implies_true,
      and_true]
    omega
  exact eq_of_forall_ge_iff hle

end Expr

end PmmlExport.Source
