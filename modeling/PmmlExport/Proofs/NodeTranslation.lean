import Mathlib
import PmmlExport.Proofs.FirstFault

/-!
# The translation node by node

Each kind of node is translated from its children's translations: a field reference or literal
from its type, a binary operation from its signature and then its operands, a conditional from
its branch check and branch type and then its condition and branches, a membership test from
its value and then its candidates, a negation or null check from its operand. So a node fails
as soon as one of its children fails, and a node that translates has children that translate.

The markup mirrors the tree: every node other than an alias becomes an application whose
arguments are its children's markup in order, and an alias leaves no node of its own. So
following `Expr.targetPath p` from the root of the markup reaches the markup of the node at path
`p` (`target_subtree?_targetPath`).
-/

namespace PmmlExport

namespace Source.Expr

/-- The path in the markup of a tree to the markup of the node at path `p`: aliases leave no
node of their own, every other node keeps its children in order as arguments. -/
def targetPath : Expr → Path → Path
  | _, [] => []
  | aliased c _, _ :: p => c.targetPath p
  | e, i :: p =>
    match e.children[i]? with
    | some c => i :: c.targetPath p
    | none => i :: p

/-- Below a node other than an alias, the markup path goes through the same argument index. -/
theorem targetPath_cons {e c : Expr} {i : Nat} {p : Path} (he : ∀ d a, e ≠ aliased d a)
    (hc : e.children[i]? = some c) : e.targetPath (i :: p) = i :: c.targetPath p := by
  cases e
  case aliased d a => exact absurd rfl (he d a)
  all_goals simp only [targetPath, hc]

end Source.Expr

/-- The markup node reached from a markup tree by following argument indices. -/
def Markup.Node.subtree? (n : Markup.Node) : Source.Path → Option Markup.Node
  | [] => some n
  | i :: p => n.arguments[i]?.bind (·.subtree? p)

namespace Translate

open Source Markup

/-! ### Failures spread upwards -/

/-- A node one of whose children fails fails too. -/
theorem reference_error_of_mem_children {c e : Expr} (hc : c ∈ e.children) {r : Rejection}
    (h : reference c = .error r) : ∃ r', reference e = .error r' := by
  have hfault : firstFault c = some r := by rw [← errorOf_reference, h, errorOf_error]
  have hchildren : e.children.findSome? firstFault ≠ none := by
    rw [ne_eq, List.findSome?_eq_none_iff]
    intro hnone
    rw [hnone c hc] at hfault
    cases hfault
  cases hre : reference e with
  | error r' => exact ⟨r', rfl⟩
  | ok m =>
    have he := errorOf_reference e
    rw [hre, errorOf_ok, firstFault_eq, eq_comm, Option.or_eq_none_iff] at he
    exact absurd he.2 hchildren

/-- A node whose translation succeeds has children whose translations succeed. -/
theorem reference_ok_of_mem_children {c e : Expr} (hc : c ∈ e.children) {m : Mapping}
    (he : reference e = .ok m) : ∃ mc, reference c = .ok mc := by
  cases hrc : reference c with
  | ok mc => exact ⟨mc, rfl⟩
  | error r =>
    obtain ⟨r', he'⟩ := reference_error_of_mem_children hc hrc
    rw [he] at he'
    cases he'

/-- A list of expressions translates exactly when each member does, to their markups in order. -/
theorem referenceList_eq_ok_iff {cs : List Expr} {ts : List Node} :
    referenceList cs = .ok ts ↔
      List.Forall₂ (fun c t => ∃ m, reference c = .ok m ∧ m.target = t) cs ts := by
  induction cs generalizing ts with
  | nil =>
    rw [List.forall₂_nil_left_iff, referenceList]
    exact ⟨fun h => (Except.ok.inj h).symm, fun h => h ▸ rfl⟩
  | cons c cs ih =>
    cases ts with
    | nil =>
      rw [List.forall₂_nil_right_iff, referenceList]
      refine ⟨fun h => ?_, fun h => by cases h⟩
      obtain ⟨m, -, hrest⟩ := except_bind_eq_ok.mp h
      obtain ⟨ts', -, hpure⟩ := except_bind_eq_ok.mp hrest
      cases hpure
    | cons t ts =>
      rw [List.forall₂_cons, ← ih, referenceList]
      constructor
      · intro h
        obtain ⟨m, hm, hrest⟩ := except_bind_eq_ok.mp h
        obtain ⟨ts', hts', hpure⟩ := except_bind_eq_ok.mp hrest
        cases hpure
        exact ⟨⟨m, hm, rfl⟩, hts'⟩
      · rintro ⟨⟨m, hm, rfl⟩, hts⟩
        rw [hm, except_ok_bind, hts]
        rfl

/-- A list of expressions fails to translate exactly when one of its members does. -/
theorem referenceList_error_iff {cs : List Expr} :
    (∃ r, referenceList cs = .error r) ↔ ∃ c ∈ cs, ∃ r, reference c = .error r := by
  induction cs with
  | nil => exact ⟨fun ⟨_, h⟩ => (nomatch h), fun ⟨_, h, _⟩ => (nomatch h)⟩
  | cons c cs ih =>
    simp only [referenceList, List.mem_cons, exists_eq_or_imp]
    cases hc : reference c with
    | error r => simp
    | ok m =>
      rw [← ih]
      cases hcs : referenceList cs <;> simp

/-! ### Each kind of node -/

/-- A binary operation whose signature fails fails. -/
theorem reference_binary_of_error {op : BinaryOperator} {l r : Expr} {x : Rejection}
    (hs : referenceSignature (.binary op l r) op l.declaredType r.declaredType = .error x) :
    reference (.binary op l r) = .error x := by
  rw [reference, hs]
  rfl

/-- A binary operation whose signature and operands translate applies the signature's function
to the operands' markup. -/
theorem reference_binary_of_ok {op : BinaryOperator} {l r : Expr} {s : String × ValueType}
    {ml mr : Mapping}
    (hs : referenceSignature (.binary op l r) op l.declaredType r.declaredType = .ok s)
    (hl : reference l = .ok ml) (hr : reference r = .ok mr) :
    reference (.binary op l r) =
      .ok ⟨.binary op l r, .apply s.1 [ml.target, mr.target], s.2⟩ := by
  simp only [reference, hs, hl, hr, except_ok_bind]
  rfl

/-- A conditional whose branches are not of the same type fails, naming both branch types. -/
theorem reference_cond_of_sameType_false {c t u : Expr}
    (hs : t.declaredType.sameType u.declaredType = false) :
    reference (.cond c t u) = .error (unsupportedNode (.cond c t u)
      ((Expr.cond c t u).summary ++ " (branch types " ++ t.declaredType.typeName ++ " and " ++
        u.declaredType.typeName ++ " differ)")) := by
  rw [reference]
  simp only [hs, Bool.not_false, ite_true]
  rfl

/-- A conditional whose branch type has no markup type fails with the mapping's error. -/
theorem reference_cond_of_mapType_error {c t u : Expr} {x : Rejection}
    (hs : t.declaredType.sameType u.declaredType = true) (hv : mapType t.declaredType = .error x) :
    reference (.cond c t u) = .error x := by
  rw [reference]
  simp only [hs, Bool.not_true, Bool.false_eq_true, ite_false, hv]
  rfl

/-- A conditional whose branches translate to one markup type applies "if" to the markup of its
condition and branches. -/
theorem reference_cond_of_ok {c t u : Expr} {v : ValueType} {mc mt mu : Mapping}
    (hs : t.declaredType.sameType u.declaredType = true) (hv : mapType t.declaredType = .ok v)
    (hc : reference c = .ok mc) (ht : reference t = .ok mt) (hu : reference u = .ok mu) :
    reference (.cond c t u) =
      .ok ⟨.cond c t u, .apply "if" [mc.target, mt.target, mu.target], v⟩ := by
  rw [reference]
  simp only [hs, Bool.not_true, Bool.false_eq_true, ite_false, hv, hc, ht, hu, except_ok_bind]
  rfl

/-- A membership test whose value and candidates translate applies "isIn" to their markup. -/
theorem reference_isIn_of_ok {x : Expr} {cs : List Expr} {mx : Mapping} {ts : List Node}
    (hx : reference x = .ok mx) (hcs : referenceList cs = .ok ts) :
    reference (.isIn x cs) = .ok ⟨.isIn x cs, .apply "isIn" (mx.target :: ts), .boolean⟩ := by
  rw [reference, hx, except_ok_bind, hcs, except_ok_bind]
  rfl

/-- A negation of a translated expression applies "not" to its markup. -/
theorem reference_negation_of_ok {c : Expr} {mc : Mapping} (hc : reference c = .ok mc) :
    reference (.negation c) = .ok ⟨.negation c, .apply "not" [mc.target], .boolean⟩ := by
  rw [reference, hc, except_ok_bind]
  rfl

/-- A null check of a translated expression applies its check's function to its markup. -/
theorem reference_nullCheck_of_ok {k : NullCheck} {c : Expr} {mc : Mapping}
    (hc : reference c = .ok mc) :
    reference (.nullCheck k c) =
      .ok ⟨.nullCheck k c, .apply (nullCheckFunction k) [mc.target], .boolean⟩ := by
  rw [reference, hc, except_ok_bind]
  rfl

/-! ### Where the markup of a node sits -/

/-- The markup of a translated list holds each member's markup at the member's index. -/
theorem referenceList_getElem? {cs : List Expr} {ts : List Node} (h : referenceList cs = .ok ts)
    {j : Nat} {c : Expr} (hc : cs[j]? = some c) :
    ∃ mc, reference c = .ok mc ∧ ts[j]? = some mc.target := by
  induction cs generalizing ts j with
  | nil => cases hc
  | cons d ds ih =>
    obtain ⟨md, hd, hrest⟩ := except_bind_eq_ok.mp h
    obtain ⟨ts', hts', hpure⟩ := except_bind_eq_ok.mp hrest
    cases hpure
    cases j with
    | zero =>
      obtain rfl : d = c := Option.some.inj hc
      exact ⟨md, hd, rfl⟩
    | succ j => exact ih hts' hc

/-- The markup of a translated node other than an alias has, at each child's index, the
child's markup as its argument. A translated conditional passed its branch check and the mapping
of its branch type. -/
theorem reference_arguments {e c : Expr} {i : Nat} {m : Mapping} (he : reference e = .ok m)
    (ha : ∀ d a, e ≠ .aliased d a) (hc : e.children[i]? = some c) :
    ∃ mc, reference c = .ok mc ∧ m.target.arguments[i]? = some mc.target := by
  cases e with
  | aliased d a => exact absurd rfl (ha d a)
  | field | literal => cases hc
  | binary op l r =>
    obtain ⟨ml, hl⟩ := reference_ok_of_mem_children
      (show l ∈ (Expr.binary op l r).children by simp [Expr.children]) he
    obtain ⟨mr, hr⟩ := reference_ok_of_mem_children
      (show r ∈ (Expr.binary op l r).children by simp [Expr.children]) he
    obtain ⟨s, hs, -⟩ := except_bind_eq_ok.mp he
    rw [reference_binary_of_ok hs hl hr, Except.ok.injEq] at he
    subst he
    rcases i with _ | _ | i
    · obtain rfl : l = c := Option.some.inj hc
      exact ⟨ml, hl, rfl⟩
    · obtain rfl : r = c := Option.some.inj hc
      exact ⟨mr, hr, rfl⟩
    · simp [Expr.children] at hc
  | cond d t u =>
    obtain ⟨md, hd⟩ := reference_ok_of_mem_children
      (show d ∈ (Expr.cond d t u).children by simp [Expr.children]) he
    obtain ⟨mt, ht⟩ := reference_ok_of_mem_children
      (show t ∈ (Expr.cond d t u).children by simp [Expr.children]) he
    obtain ⟨mu, hu⟩ := reference_ok_of_mem_children
      (show u ∈ (Expr.cond d t u).children by simp [Expr.children]) he
    cases hs : t.declaredType.sameType u.declaredType with
    | false => rw [reference_cond_of_sameType_false hs] at he; cases he
    | true =>
      cases hv : mapType t.declaredType with
      | error x => rw [reference_cond_of_mapType_error hs hv] at he; cases he
      | ok v =>
        rw [reference_cond_of_ok hs hv hd ht hu, Except.ok.injEq] at he
        subst he
        rcases i with _ | _ | _ | i
        · obtain rfl : d = c := Option.some.inj hc
          exact ⟨md, hd, rfl⟩
        · obtain rfl : t = c := Option.some.inj hc
          exact ⟨mt, ht, rfl⟩
        · obtain rfl : u = c := Option.some.inj hc
          exact ⟨mu, hu, rfl⟩
        · simp [Expr.children] at hc
  | isIn x cs =>
    obtain ⟨mx, hx⟩ := reference_ok_of_mem_children
      (show x ∈ (Expr.isIn x cs).children by simp [Expr.children]) he
    obtain ⟨_, -, hrest⟩ := except_bind_eq_ok.mp he
    obtain ⟨ts, hts, -⟩ := except_bind_eq_ok.mp hrest
    rw [reference_isIn_of_ok hx hts, Except.ok.injEq] at he
    subst he
    rcases i with _ | j
    · obtain rfl : x = c := Option.some.inj hc
      exact ⟨mx, hx, rfl⟩
    · exact referenceList_getElem? hts hc
  | negation d =>
    rcases i with _ | i
    · obtain rfl : d = c := Option.some.inj hc
      obtain ⟨md, hd⟩ := reference_ok_of_mem_children
        (show d ∈ (Expr.negation d).children by simp [Expr.children]) he
      rw [reference_negation_of_ok hd, Except.ok.injEq] at he
      subst he
      exact ⟨md, hd, rfl⟩
    · simp [Expr.children] at hc
  | nullCheck k d =>
    rcases i with _ | i
    · obtain rfl : d = c := Option.some.inj hc
      obtain ⟨md, hd⟩ := reference_ok_of_mem_children
        (show d ∈ (Expr.nullCheck k d).children by simp [Expr.children]) he
      rw [reference_nullCheck_of_ok hd, Except.ok.injEq] at he
      subst he
      exact ⟨md, hd, rfl⟩
    · simp [Expr.children] at hc
  | cast | minus | call => cases he

/-- In the markup of a translated tree, the markup path of any node leads to that node's own
markup. An alias is translated as its expression and leaves no node of its own. -/
theorem target_subtree?_targetPath {e n : Expr} {p : Path} {m : Mapping}
    (he : reference e = .ok m) (hn : e.subtree? p = some n) :
    ∃ mn, reference n = .ok mn ∧ m.target.subtree? (e.targetPath p) = some mn.target := by
  induction p generalizing e m with
  | nil =>
    obtain rfl : e = n := Option.some.inj hn
    exact ⟨m, he, rfl⟩
  | cons i p ih =>
    obtain ⟨c, hc, hcn⟩ := Expr.subtree?_cons_eq_some_iff.mp hn
    by_cases ha : ∃ d a, e = .aliased d a
    · obtain ⟨d, a, rfl⟩ := ha
      rcases i with _ | i
      · obtain rfl : d = c := Option.some.inj hc
        exact ih he hcn
      · simp [Expr.children] at hc
    · have ha' : ∀ d a, e ≠ .aliased d a := fun d a h => ha ⟨d, a, h⟩
      obtain ⟨mc, hmc, hargs⟩ := reference_arguments he ha' hc
      obtain ⟨mn, hmn, hsub⟩ := ih hmc hcn
      refine ⟨mn, hmn, ?_⟩
      rw [Expr.targetPath_cons ha' hc, Markup.Node.subtree?, hargs, Option.bind_some]
      exact hsub

end Translate

end PmmlExport
