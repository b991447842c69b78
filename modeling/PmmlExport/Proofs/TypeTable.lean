import Mathlib
import PmmlExport.Proofs.Traversal

/-!
# The type table holds the declared types

The declared type is a fold: each node's type follows from its children's. The type table is
built by one postorder pass that keeps the finished subtrees' types on a result stack. Running
the pass over the postorder of any subtree leaves the stack below untouched and pushes exactly
that subtree's declared type, so the finished table records the declared type of the node at
every path of the tree, nothing at other paths, and the root's declared type as its root.
-/

namespace PmmlExport.Source

namespace Expr

/-- The declared type of a node follows from its children's declared types. -/
theorem declaredType_eq (e : Expr) : e.declaredType = e.localType (e.children.map declaredType) :=
  fold_eq _ e

@[simp] theorem declaredType_aliased (c : Expr) (n : String) :
    (aliased c n).declaredType = c.declaredType := by
  rw [declaredType_eq]
  rfl

@[simp] theorem declaredType_binary (op : BinaryOperator) (l r : Expr) :
    (binary op l r).declaredType =
      match op.kind with
      | .logical | .comparison => .boolean
      | .arithmetic | .bitwise =>
        if !l.declaredType.accepts r.declaredType && r.declaredType.accepts l.declaredType then
          r.declaredType
        else l.declaredType := by
  rw [declaredType_eq]
  rfl

@[simp] theorem declaredType_cond (p t f : Expr) :
    (cond p t f).declaredType = t.declaredType := by
  rw [declaredType_eq]
  rfl

@[simp] theorem declaredType_isIn (v : Expr) (cs : List Expr) :
    (isIn v cs).declaredType = .boolean := by
  rw [declaredType_eq]
  rfl

@[simp] theorem declaredType_negation (c : Expr) : (negation c).declaredType = .boolean := by
  rw [declaredType_eq]
  rfl

@[simp] theorem declaredType_nullCheck (k : NullCheck) (c : Expr) :
    (nullCheck k c).declaredType = .boolean := by
  rw [declaredType_eq]
  rfl

@[simp] theorem declaredType_minus (c : Expr) : (minus c).declaredType = c.declaredType := by
  rw [declaredType_eq]
  rfl

end Expr

namespace TypeTable

/-- The nodes of a traversal with their declared types, as the pass records them. -/
def typedEntries (xs : List (Path × Expr)) : List (Path × DataType) :=
  xs.map fun x => (x.1, x.2.declaredType)

/-- Finishing a node whose children's declared types are on top of the result stack records its
own declared type and leaves it in their place. -/
theorem Pass.step_push (entries : List (Path × DataType)) (below : List DataType) (p : Path)
    (e : Expr) :
    Pass.step ⟨entries, below ++ e.children.map Expr.declaredType⟩ (p, e) =
      ⟨(p, e.declaredType) :: entries, below ++ [e.declaredType]⟩ := by
  have hk : (below ++ e.children.map Expr.declaredType).length - e.children.length =
      below.length := by simp
  simp only [Pass.step, hk, List.take_left', List.drop_left', Expr.declaredType_eq e]

/-- The pass over the postorders of consecutive children, each of which records its nodes and
pushes its own declared type, records all their nodes and pushes their types in order. -/
theorem foldl_step_flatMap_postorderAt (p : Path) (cs : List (Expr × Nat))
    (hcs : ∀ x ∈ cs, ∀ s : Pass, (x.1.postorderAt (p ++ [x.2])).foldl Pass.step s =
      ⟨(typedEntries (x.1.postorderAt (p ++ [x.2]))).reverse ++ s.entries,
        s.results ++ [x.1.declaredType]⟩)
    (s : Pass) :
    (cs.flatMap fun (c, i) => c.postorderAt (p ++ [i])).foldl Pass.step s =
      ⟨(typedEntries (cs.flatMap fun (c, i) => c.postorderAt (p ++ [i]))).reverse ++ s.entries,
        s.results ++ cs.map (·.1.declaredType)⟩ := by
  induction cs generalizing s with
  | nil => simp [typedEntries]
  | cons x cs ih =>
    simp only [List.flatMap_cons, List.foldl_append]
    rw [hcs x List.mem_cons_self, ih fun y hy => hcs y (List.mem_cons_of_mem _ hy)]
    simp [typedEntries]

/-- The children of a node, paired with their indices, are its children. -/
theorem mem_children_of_mem_zipIdx {e : Expr} {x : Expr × Nat} (hx : x ∈ e.children.zipIdx) :
    x.1 ∈ e.children :=
  List.mem_of_getElem? (List.mem_zipIdx_iff_getElem?.mp hx)

/-- Their declared types, read off the children paired with their indices. -/
theorem map_declaredType_zipIdx (e : Expr) :
    (e.children.zipIdx.map fun x => x.1.declaredType) = e.children.map Expr.declaredType := by
  have h := congrArg (List.map Expr.declaredType) (List.zipIdx_map_fst 0 e.children)
  rw [List.map_map] at h
  exact h

/-- The pass over the postorder of a subtree records its nodes and pushes its declared type,
whatever the state it starts from: the children's subtrees, left to right, push their declared
types in order. -/
theorem foldl_step_postorderAt (e : Expr) (p : Path) (s : Pass) :
    (e.postorderAt p).foldl Pass.step s =
      ⟨(typedEntries (e.postorderAt p)).reverse ++ s.entries, s.results ++ [e.declaredType]⟩ := by
  induction e using Expr.childInduction generalizing p s with
  | step e ih =>
    have hsubs := foldl_step_flatMap_postorderAt p e.children.zipIdx
      (fun x hx => ih x.1 (mem_children_of_mem_zipIdx hx) _) s
    rw [Expr.postorderAt_eq, List.foldl_append, hsubs]
    simp only [map_declaredType_zipIdx, List.foldl_cons, List.foldl_nil, Pass.step_push]
    simp [typedEntries]

/-! ### The inference loop -/

namespace Walk

/-- The nodes a work stack has still to finish, in the order the loop finishes them: the whole
postorder of a subtree not started, and the node alone for a task waiting on its children. -/
def pending (work : List Task) : List (Path × Expr) :=
  work.flatMap fun t => if t.childrenDone then [(t.path, t.node)] else t.node.postorderAt t.path

theorem pending_cons (t : Task) (rest : List Task) :
    pending (t :: rest) =
      (if t.childrenDone then [(t.path, t.node)] else t.node.postorderAt t.path) ++
        pending rest :=
  List.flatMap_cons

/-- A task that finishes when taken has its own node first among the nodes still to finish: a
leaf not started is its own postorder. -/
theorem pending_cons_of_finishes {t : Task} (h : t.finishes = true) (rest : List Task) :
    pending (t :: rest) = (t.path, t.node) :: pending rest := by
  rw [pending_cons]
  cases hd : t.childrenDone with
  | true => rfl
  | false =>
    have hleaf : t.node.children = [] := by simpa [Task.finishes, hd] using h
    rw [Expr.postorderAt_eq, hleaf]
    rfl

/-- Putting a node back under the tasks of its children leaves the nodes still to finish as they
were: its children's postorders, then the node. -/
theorem pending_expand {t : Task} (hd : t.childrenDone = false) (rest : List Task) :
    pending (t.childTasks ++ { t with childrenDone := true } :: rest) = pending (t :: rest) := by
  rw [pending_cons, hd, Expr.postorderAt_eq]
  simp [pending, Task.childTasks, List.flatMap_map]

/-- A task that does not finish when taken is not started. -/
theorem childrenDone_of_finishes_false {t : Task} (h : t.finishes = false) :
    t.childrenDone = false := by
  cases hd : t.childrenDone <;> simp_all [Task.finishes]

/-- One turn of the loop is either one step of the pass over the nodes still to finish, or
leaves both the pass and those nodes as they are. -/
theorem next_cases {w w' : Walk} (h : w.next = some w') :
    (∃ x, pending w.work = x :: pending w'.work ∧ w'.pass = w.pass.step x) ∨
      (pending w'.work = pending w.work ∧ w'.pass = w.pass) := by
  rcases w with ⟨_ | ⟨t, rest⟩, s⟩
  · cases h
  · simp only [next] at h
    split at h
    · next hfin =>
      cases h
      exact .inl ⟨(t.path, t.node), pending_cons_of_finishes hfin rest, rfl⟩
    · next hfin =>
      cases h
      exact .inr ⟨pending_expand (childrenDone_of_finishes_false (by simpa using hfin)) rest, rfl⟩

/-- A turn of the loop keeps the pass over the nodes still to finish. -/
theorem foldl_pending_next {w w' : Walk} (h : w.next = some w') :
    (pending w'.work).foldl Pass.step w'.pass = (pending w.work).foldl Pass.step w.pass := by
  rcases next_cases h with ⟨x, hx, hs⟩ | ⟨hx, hs⟩
  · rw [hx, List.foldl_cons, hs]
  · rw [hx, hs]

/-- The loop stops exactly when the work stack is empty. -/
theorem next_eq_none_iff {w : Walk} : w.next = none ↔ w.work = [] := by
  rcases w with ⟨_ | ⟨t, rest⟩, s⟩
  · simp [next]
  · simp only [next]
    split <;> simp

/-- The loop's pass is the pass over the nodes its work stack has still to finish. -/
theorem run_eq_foldl (w : Walk) : w.run = (pending w.work).foldl Pass.step w.pass := by
  fun_induction run w with
  | case1 w h =>
    rw [next_eq_none_iff.mp h]
    rfl
  | case2 w w' h _ ih => rw [ih, foldl_pending_next h]

/-- At the start nothing is finished: the whole postorder of the tree lies ahead. -/
theorem pending_start (e : Expr) : pending (start e).work = e.postorderAt [] := by
  simp [start, pending]

end Walk

/-- The type table of a tree: every node of the postorder with its declared type, the last
first, and the root's declared type. -/
theorem infer_eq (e : Expr) :
    infer e = ⟨(typedEntries (e.postorderAt [])).reverse, e.declaredType⟩ := by
  simp only [infer, Walk.run_eq_foldl, Walk.pending_start, foldl_step_postorderAt]
  simp [Walk.start]

/-- The root type of the table is the declared type of the tree. -/
theorem infer_root (e : Expr) : (infer e).root = e.declaredType := by
  rw [infer_eq]

/-- The table records the declared type of the node at every path of the tree, and nothing
at a path outside it. -/
theorem get_infer (e : Expr) (p : Path) :
    (infer e).get p = (e.subtree? p).map Expr.declaredType := by
  rw [get, infer_eq]
  cases hf : (typedEntries (e.postorderAt [])).reverse.find? (·.1 == p) with
  | none =>
    rw [List.find?_eq_none] at hf
    cases hs : e.subtree? p with
    | none => rfl
    | some n =>
      have hmem : (p, n) ∈ e.postorderAt [] := Expr.mem_postorderAt.mpr ⟨p, rfl, hs⟩
      have hentry : (p, n.declaredType) ∈ (typedEntries (e.postorderAt [])).reverse := by
        rw [List.mem_reverse, typedEntries, List.mem_map]
        exact ⟨(p, n), hmem, rfl⟩
      exact absurd (by simp) (hf _ hentry)
  | some x =>
    have hx : x.1 = p := by simpa using List.find?_some hf
    obtain ⟨⟨q, n⟩, hmem, rfl⟩ : ∃ y ∈ e.postorderAt [], (y.1, y.2.declaredType) = x := by
      simpa [typedEntries] using List.mem_of_find?_eq_some hf
    obtain ⟨r, rfl, hs⟩ := Expr.mem_postorderAt.mp hmem
    subst hx
    simp [hs]

/-- Looking a node of the tree up in its table gives the node's declared type. -/
theorem typeOf_infer {e s : Expr} {p : Path} (h : e.subtree? p = some s) (x : Expr) :
    (infer e).typeOf p x = s.declaredType := by
  simp [typeOf, get_infer, h]

/-- Looking up a path outside the tree gives the declared type of the expression asked about,
from its own table. -/
theorem typeOf_infer_of_subtree?_eq_none {e : Expr} {p : Path} (h : e.subtree? p = none)
    (x : Expr) : (infer e).typeOf p x = x.declaredType := by
  simp [typeOf, get_infer, h, Expr.dataType, infer_root]

/-! ### Nothing is taken from an empty result stack -/

/-- Finishing the given nodes in order from a pass, each finds at least as many results on the
stack as it has children. -/
def Pass.Fits : Pass → List (Path × Expr) → Prop
  | _, [] => True
  | s, x :: xs => x.2.children.length ≤ s.results.length ∧ Pass.Fits (s.step x) xs

theorem Pass.fits_append {s : Pass} {xs ys : List (Path × Expr)} :
    s.Fits (xs ++ ys) ↔ s.Fits xs ∧ (xs.foldl Pass.step s).Fits ys := by
  induction xs generalizing s with
  | nil => simp [Fits]
  | cons x xs ih => simp [Fits, ih, and_assoc]

/-- The postorder of a subtree can be finished from any pass: each node comes right after its
children's subtrees, which leave their types on the stack. -/
theorem fits_postorderAt (e : Expr) (p : Path) (s : Pass) : s.Fits (e.postorderAt p) := by
  induction e using Expr.childInduction generalizing p s with
  | step e ih =>
    have hsubs : ∀ cs : List (Expr × Nat), (∀ x ∈ cs, x.1 ∈ e.children) → ∀ s : Pass,
        s.Fits (cs.flatMap fun (c, i) => c.postorderAt (p ++ [i])) := by
      intro cs hcs
      induction cs with
      | nil => intro s; trivial
      | cons x cs ihcs =>
        intro s
        rw [List.flatMap_cons, Pass.fits_append]
        exact ⟨ih x.1 (hcs x List.mem_cons_self) _ s,
          ihcs (fun y hy => hcs y (List.mem_cons_of_mem _ hy)) _⟩
    have hpush := foldl_step_flatMap_postorderAt p e.children.zipIdx
      (fun x _ => foldl_step_postorderAt x.1 _) s
    rw [Expr.postorderAt_eq, Pass.fits_append, hpush]
    refine ⟨hsubs _ (fun x hx => mem_children_of_mem_zipIdx hx) s, ?_, trivial⟩
    simp

namespace Walk

/-- The states the loop reaches from a state, in any number of turns. -/
def Reaches : Walk → Walk → Prop := Relation.ReflTransGen fun w w' => w.next = some w'

/-- A turn of the loop keeps the nodes still to finish finishable. -/
theorem fits_pending_next {w w' : Walk} (h : w.next = some w')
    (hfits : w.pass.Fits (pending w.work)) : w'.pass.Fits (pending w'.work) := by
  rcases next_cases h with ⟨x, hx, hs⟩ | ⟨hx, hs⟩
  · rw [hx] at hfits
    rw [hs]
    exact hfits.2
  · rwa [hx, hs]

/-- Every state the loop reaches from the start can finish the nodes it has still to finish. -/
theorem fits_pending_of_reaches {e : Expr} {w : Walk} (h : (start e).Reaches w) :
    w.pass.Fits (pending w.work) := by
  induction h with
  | refl =>
    rw [pending_start]
    exact fits_postorderAt e [] _
  | tail _ hstep ih => exact fits_pending_next hstep ih

/-- Whenever the loop finishes a node, the result stack holds at least one result for each of
the node's children. -/
theorem children_length_le_of_reaches {e : Expr} {w : Walk} (h : (start e).Reaches w)
    {t : Task} {rest : List Task} (hw : w.work = t :: rest) (hfin : t.finishes = true) :
    t.node.children.length ≤ w.pass.results.length := by
  have hfits := fits_pending_of_reaches h
  rw [hw, pending_cons_of_finishes hfin] at hfits
  exact hfits.1

/-- From any state the loop reaches a state where it stops, holding the pass it gives. -/
theorem exists_reaches_stop (w : Walk) :
    ∃ w', w.Reaches w' ∧ w'.next = none ∧ w'.pass = w.run := by
  fun_induction run w with
  | case1 w h => exact ⟨w, Relation.ReflTransGen.refl, h, rfl⟩
  | case2 w w' h _ ih =>
    obtain ⟨w'', hreach, hstop, hpass⟩ := ih
    exact ⟨w'', Relation.ReflTransGen.head h hreach, hstop, hpass⟩

/-- The loop on a tree ends with the root's declared type alone on the result stack. -/
theorem run_start_results (e : Expr) : (start e).run.results = [e.declaredType] := by
  rw [run_eq_foldl, pending_start, foldl_step_postorderAt]
  rfl

end Walk

/-! ### One entry for each node -/

/-- A subtree has as many nodes in its postorder as it has nodes. -/
theorem length_postorderAt (e : Expr) (p : Path) : (e.postorderAt p).length = e.size := by
  induction e using Expr.childInduction generalizing p with
  | step e ih =>
    have hsizes : (e.children.zipIdx.map fun x => (x.1.postorderAt (p ++ [x.2])).length) =
        e.children.map Expr.size := by
      rw [List.map_congr_left fun x hx => ih x.1 (mem_children_of_mem_zipIdx hx) _]
      have h := congrArg (List.map Expr.size) (List.zipIdx_map_fst 0 e.children)
      rwa [List.map_map] at h
    rw [Expr.postorderAt_eq, List.length_append, List.length_flatMap, Expr.size_eq]
    simp only [List.length_singleton]
    rw [← hsizes]

/-- The paths of a postorder are pairwise distinct: the subtrees of different children lie
below different first steps, so paths below different children part at the step after the
parent's, and each lies strictly below its parent. -/
theorem nodup_paths_postorderAt (e : Expr) (p : Path) :
    ((e.postorderAt p).map Prod.fst).Nodup := by
  induction e using Expr.childInduction generalizing p with
  | step e ih =>
    have hbelow : ∀ (c : Expr) (i : Nat) (q : Path), q ∈ (c.postorderAt (p ++ [i])).map Prod.fst →
        ∃ r, q = p ++ i :: r := by
      intro c i q hq
      obtain ⟨⟨q', n⟩, hmem, rfl⟩ := List.mem_map.mp hq
      obtain ⟨r, rfl, -⟩ := Expr.mem_postorderAt.mp hmem
      exact ⟨r, by simp⟩
    have hindices : (e.children.zipIdx.map Prod.snd).Nodup := by
      rw [List.zipIdx_map_snd]
      exact List.nodup_range' ..
    rw [Expr.postorderAt_eq, List.map_append, List.map_flatMap, List.nodup_append]
    refine ⟨?_, List.nodup_singleton _, ?_⟩
    · rw [List.nodup_flatMap]
      refine ⟨fun x hx => ih x.1 (mem_children_of_mem_zipIdx hx) _, ?_⟩
      refine (List.pairwise_map.mp hindices).imp fun {x y} hxy => ?_
      rw [Function.onFun, List.disjoint_left]
      intro q hqx hqy
      obtain ⟨r, rfl⟩ := hbelow x.1 x.2 q hqx
      obtain ⟨r', hr'⟩ := hbelow y.1 y.2 _ hqy
      simp only [List.append_cancel_left_eq, List.cons.injEq] at hr'
      exact hxy hr'.1
    · intro q hq q' hq'
      obtain ⟨x, -, hqx⟩ := List.mem_flatMap.mp hq
      obtain ⟨r, rfl⟩ := hbelow x.1 x.2 q hqx
      simp only [List.map_cons, List.map_nil, List.mem_singleton] at hq'
      subst hq'
      simp

/-- The table holds one entry for each node of the tree, under distinct paths. -/
theorem size_infer (e : Expr) :
    (infer e).size = e.size ∧ ((infer e).entries.map Prod.fst).Nodup := by
  rw [size, infer_eq]
  refine ⟨by simp [typedEntries, length_postorderAt], ?_⟩
  have hpaths : (typedEntries (e.postorderAt [])).map Prod.fst = (e.postorderAt []).map Prod.fst :=
    by simp [typedEntries]
  rw [List.map_reverse, List.nodup_reverse, hpaths]
  exact nodup_paths_postorderAt e []

/-- The inference loop on any tree. Each turn that finishes a node finds the node's children's
results on the result stack, so none is taken from an empty stack; the loop stops, with the
root's declared type alone on the stack. The table then holds one entry for each node, under
distinct paths, with the node's declared type; its root is the tree's declared type, and looking
up a node of the tree, or any expression at a path outside it, gives that expression's declared
type, which is also the root type of the expression's own table. -/
theorem infer_loop_spec (e : Expr) :
    (∀ w, (Walk.start e).Reaches w → ∀ t rest, w.work = t :: rest → t.finishes = true →
        t.node.children.length ≤ w.pass.results.length) ∧
    (∃ w, (Walk.start e).Reaches w ∧ w.next = none ∧ w.pass.results = [e.declaredType] ∧
        w.pass = (Walk.start e).run) ∧
    ((infer e).size = e.size ∧ ((infer e).entries.map Prod.fst).Nodup) ∧
    (∀ p n, e.subtree? p = some n → (infer e).get p = some n.declaredType) ∧
    (infer e).root = e.declaredType ∧
    (∀ p x, e.subtree? p = some x ∨ e.subtree? p = none →
        (infer e).typeOf p x = x.declaredType ∧ x.dataType = x.declaredType) := by
  refine ⟨fun w hw t rest hwork hfin => Walk.children_length_le_of_reaches hw hwork hfin, ?_,
    size_infer e, fun p n hn => by rw [get_infer, hn]; rfl, infer_root e, ?_⟩
  · obtain ⟨w, hreach, hstop, hpass⟩ := Walk.exists_reaches_stop (Walk.start e)
    exact ⟨w, hreach, hstop, by rw [hpass, Walk.run_start_results], hpass⟩
  · rintro p x (hx | hx)
    · exact ⟨typeOf_infer hx x, infer_root x⟩
    · exact ⟨typeOf_infer_of_subtree?_eq_none hx x, infer_root x⟩

end TypeTable

end PmmlExport.Source
