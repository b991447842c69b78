import Mathlib
import PmmlExport.Proofs.Compatibility
import PmmlExport.Proofs.NodeTranslation

/-!
# Operand order does not matter to success

Reorder the children of one node of a tree: swap the operands of a binary operation, swap the
branches of a conditional, or permute the candidates of a membership test. The depth bound does
not see the change, and neither does any check: widening accepts either order and gives the same
type up to nullability, a conditional compares its branches symmetrically, and every rule of
every enclosing node respects `sameType`. So the reordered tree translates exactly when the tree
does, to the same markup type, and its markup is the tree's with the arguments of the
corresponding application reordered the same way (`translate_reorderAt`).

The argument is a congruence over whole trees. `Agree g a b` says that `a` and `b` both fail, or
both succeed with the same markup type, declared types that are the same, and the markup of `b`
the image of `a`'s under `g`. Agreement of children gives agreement of their parent, for every
kind of node, and the reordered node agrees with the original at the root of the change.
-/

namespace PmmlExport

/-- The entries of a list at the given positions, in that order; a position past its end is
skipped. -/
def reorder {α : Type} (xs : List α) (π : List Nat) : List α :=
  π.filterMap (xs[·]?)

section Reorder

variable {α β : Type}

/-- All positions in their own order give the list back. -/
theorem reorder_range (xs : List α) : reorder xs (List.range xs.length) = xs := by
  induction xs with
  | nil => rfl
  | cons x xs ih =>
    rw [reorder, List.length_cons, List.range_succ_eq_map, List.filterMap_cons,
      List.filterMap_map]
    simpa [reorder] using ih

/-- Reordering by a permutation of the positions permutes the list. -/
theorem reorder_perm {xs : List α} {π : List Nat} (hπ : π.Perm (List.range xs.length)) :
    (reorder xs π).Perm xs := by
  have h := hπ.filterMap (xs[·]?)
  rwa [← reorder, ← reorder, reorder_range] at h

/-- Keeping the head in front and permuting the rest permutes the tail. -/
theorem reorder_cons_shift (x : α) (xs : List α) (σ : List Nat) :
    reorder (x :: xs) (0 :: σ.map (· + 1)) = x :: reorder xs σ := by
  simp [reorder, List.filterMap_map]

/-- Lists related entrywise stay related entrywise when both are reordered the same way. -/
theorem forall₂_reorder {R : α → β → Prop} {xs : List α} {ys : List β}
    (h : List.Forall₂ R xs ys) (π : List Nat) :
    List.Forall₂ R (reorder xs π) (reorder ys π) := by
  induction π with
  | nil => exact .nil
  | cons i π ih =>
    simp only [reorder, List.filterMap_cons] at ih ⊢
    have hlen := h.length_eq
    by_cases hi : i < xs.length
    · have hi' : i < ys.length := hlen ▸ hi
      rw [List.getElem?_eq_getElem hi, List.getElem?_eq_getElem hi']
      exact .cons (h.get hi hi') ih
    · have hi' : ¬i < ys.length := hlen ▸ hi
      rw [List.getElem?_eq_none (by omega), List.getElem?_eq_none (by omega)]
      exact ih

end Reorder

namespace Source.Expr

/-- A node with its children replaced, keeping its kind and its own fields; a list of the wrong
length leaves the node as it is. -/
def withChildren : Expr → List Expr → Expr
  | aliased _ n, [c] => aliased c n
  | binary op _ _, [l, r] => binary op l r
  | cond .., [p, t, f] => cond p t f
  | isIn .., v :: cs => isIn v cs
  | negation _, [c] => negation c
  | nullCheck k _, [c] => nullCheck k c
  | cast _ t, [c] => cast c t
  | minus _, [c] => minus c
  | call n _ t, args => call n args t
  | e, _ => e

/-- The tree with the children of the node at path `p` put in the order `π`. -/
def reorderAt (e : Expr) : Path → List Nat → Expr
  | [], π => e.withChildren (reorder e.children π)
  | i :: p, π => e.withChildren (e.children.modify i (·.reorderAt p π))

/-- The orders of a node's children that swap the operands of a binary operation, swap the
branches of a conditional, or keep the value of a membership test first and permute its
candidates. -/
def OperandReorder : Expr → List Nat → Prop
  | binary .., π => π = [1, 0]
  | cond .., π => π = [0, 2, 1]
  | isIn _ cs, π => ∃ σ : List Nat, σ.Perm (List.range cs.length) ∧ π = 0 :: σ.map (· + 1)
  | _, _ => False

/-- Replacing the children by a list of the same length gives a node with those children. -/
theorem children_withChildren {e : Expr} {cs : List Expr} (h : cs.length = e.children.length) :
    (e.withChildren cs).children = cs := by
  cases e with
  | aliased | negation | nullCheck | cast | minus =>
    match cs, h with
    | [_], _ => rfl
  | binary =>
    match cs, h with
    | [_, _], _ => rfl
  | cond =>
    match cs, h with
    | [_, _, _], _ => rfl
  | isIn =>
    match cs, h with
    | _ :: _, _ => rfl
  | call => rfl
  | field | literal =>
    match cs, h with
    | [], _ => rfl

/-- A reordering of the operands reorders a permutation of the children. -/
theorem OperandReorder.perm {e : Expr} {π : List Nat} (h : e.OperandReorder π) :
    (reorder e.children π).Perm e.children := by
  cases e with
  | binary op l r =>
    rw [show π = [1, 0] from h]
    exact List.Perm.swap l r []
  | cond c t u =>
    rw [show π = [0, 2, 1] from h]
    exact List.Perm.cons c (List.Perm.swap t u [])
  | isIn x cs =>
    obtain ⟨σ, hσ, rfl⟩ := h
    rw [children, reorder_cons_shift]
    exact (reorder_perm hσ).cons x
  | aliased | field | literal | negation | nullCheck | cast | minus | call => exact h.elim

private theorem foldr_max_perm {hs hs' : List Nat} (h : hs.Perm hs') :
    hs.foldr max 0 = hs'.foldr max 0 :=
  h.foldr_eq' (fun x _ y _ z => by omega) 0

/-- Reordering operands keeps the height of the tree: at the node itself the children are
permuted, and above it only the child on the path changes, at its own height. -/
theorem height_reorderAt {e : Expr} {p : Path} {π : List Nat}
    (h : ∃ n, e.subtree? p = some n ∧ n.OperandReorder π) :
    (e.reorderAt p π).height = e.height := by
  induction p generalizing e with
  | nil =>
    obtain ⟨n, hn, hπ⟩ := h
    cases hn
    have hperm := hπ.perm
    rw [reorderAt, height_eq, height_eq, children_withChildren hperm.length_eq]
    rw [foldr_max_perm (hperm.map height)]
  | cons i p ih =>
    obtain ⟨n, hn, hπ⟩ := h
    obtain ⟨c, hc, hcn⟩ := subtree?_cons_eq_some_iff.mp hn
    have hheight : (c.reorderAt p π).height = c.height := ih ⟨n, hcn, hπ⟩
    have hmap : (e.children.modify i (·.reorderAt p π)).map height = e.children.map height := by
      apply List.ext_getElem?
      intro j
      rw [List.getElem?_map, List.getElem?_map, List.getElem?_modify]
      by_cases hij : i = j
      · subst hij
        simp [hc, hheight]
      · simp [hij]
    rw [reorderAt, height_eq, height_eq, children_withChildren (List.length_modify _ _ _), hmap]

end Source.Expr

/-- The markup with the arguments of the application at path `p` put in the order `π`. -/
def Markup.Node.reorderAt : Markup.Node → Source.Path → List Nat → Markup.Node
  | .apply f args, [], π => .apply f (reorder args π)
  | .apply f args, i :: p, π => .apply f (args.modify i (·.reorderAt p π))
  | n, _, _ => n

namespace Translate

open Source Markup

/-! ### The type rules respect same types -/

/-- The markup type of a type sees it only through its erasure. -/
theorem mapType_erase (a : DataType) : mapType a.erase = mapType a := by
  have hname := DataType.typeName_erase a
  cases a <;> simp_all [mapType, DataType.erase]

/-- Types that are the same map alike. -/
theorem mapType_congr {a b : DataType} (h : a.sameType b = true) : mapType a = mapType b := by
  rw [← mapType_erase a, ← mapType_erase b, (DataType.sameType_iff_erase a b).mp h]

/-- Widening operands that are the same up to nullability succeeds alike, to the same markup
type. -/
theorem widen_mapType_congr {e e' : Expr} {a a' b b' : DataType} (ha : a.sameType a' = true)
    (hb : b.sameType b' = true) :
    (widen e a b >>= mapType).toOption = (widen e' a' b' >>= mapType).toOption := by
  unfold widen
  rw [DataType.accepts_congr ha hb, DataType.accepts_congr hb ha]
  by_cases hab : a'.accepts b' = true
  · simp [hab, mapType_congr ha]
  · by_cases hba : b'.accepts a' = true
    · simp [hab, hba, mapType_congr hb]
    · simp [hab, hba]

/-- Widening the operands in either order succeeds alike, to the same markup type: types that
accept each other are the same, and map alike. -/
theorem widen_mapType_swap (e e' : Expr) (a b : DataType) :
    (widen e a b >>= mapType).toOption = (widen e' b a >>= mapType).toOption := by
  unfold widen
  by_cases hab : a.accepts b = true
  · by_cases hba : b.accepts a = true
    · have hsame := DataType.sameType_of_accepts_of_accepts hab hba
      simp [hab, hba, mapType_congr hsame]
    · simp [hab, hba]
  · by_cases hba : b.accepts a = true
    · simp [hab, hba]
    · simp [hab, hba]

private theorem toOption_bind_pair {ε α β γ : Type} (x : Except ε α) (f : α → Except ε β)
    (s : γ) :
    (x >>= fun t => f t >>= fun v => pure (s, v)).toOption = (x >>= f).toOption.map (s, ·) := by
  cases x with
  | error r => rfl
  | ok a => cases h : f a <;> simp [h]

/-- The signature of a binary operation sees its operand types only through whether widening
them succeeds, and to which markup type: only the widening arithmetic operators look at them. -/
theorem signature_toOption_eq {e e' : Expr} (op : BinaryOperator) {a b a' b' : DataType}
    (hw : (widen e a b >>= mapType).toOption = (widen e' a' b' >>= mapType).toOption) :
    (signature e op a b).toOption = (signature e' op a' b').toOption := by
  unfold signature
  split
  · rfl
  · split
    · rw [toOption_bind_pair, toOption_bind_pair, hw]
    · rfl
  · split <;> rfl
  · rfl

/-- The signature of a binary operation depends on its operand types only up to sameness. -/
theorem signature_congr {e e' : Expr} (op : BinaryOperator) {a a' b b' : DataType}
    (ha : a.sameType a' = true) (hb : b.sameType b' = true) :
    (signature e op a b).toOption = (signature e' op a' b').toOption :=
  signature_toOption_eq op (widen_mapType_congr ha hb)

/-- The signature of a binary operation succeeds alike with its operands swapped. -/
theorem signature_swap (e e' : Expr) (op : BinaryOperator) (a b : DataType) :
    (signature e op a b).toOption = (signature e' op b a).toOption :=
  signature_toOption_eq op (widen_mapType_swap e e' a b)

/-- The declared type of a binary operation depends on its operands' only up to sameness. -/
theorem declaredType_binary_congr (op : BinaryOperator) {l l' r r' : Expr}
    (hl : l.declaredType.sameType l'.declaredType = true)
    (hr : r.declaredType.sameType r'.declaredType = true) :
    (Expr.binary op l r).declaredType.sameType (Expr.binary op l' r').declaredType = true := by
  simp only [Expr.declaredType_binary]
  cases hk : op.kind with
  | logical | comparison => simp
  | arithmetic | bitwise =>
    simp only
    rw [DataType.accepts_congr hl hr, DataType.accepts_congr hr hl]
    split <;> assumption

/-- An arithmetic or bitwise operation whose signature succeeds has one operand type accepting
the other. -/
theorem accepts_or_of_signature {e : Expr} {op : BinaryOperator} {a b : DataType}
    {s : String × ValueType} (h : signature e op a b = .ok s)
    (hk : op.kind = .arithmetic ∨ op.kind = .bitwise) :
    a.accepts b = true ∨ b.accepts a = true := by
  unfold signature at h
  rcases hk with hk | hk <;> simp only [hk] at h
  · split at h
    · obtain ⟨t, ht, -⟩ := except_bind_eq_ok.mp h
      unfold widen at ht
      by_cases hab : a.accepts b = true
      · exact Or.inl hab
      · by_cases hba : b.accepts a = true
        · exact Or.inr hba
        · simp [hab, hba] at ht
    · cases h
  · cases h

/-- Swapping the operands of a binary operation whose signature succeeds keeps its declared type
up to sameness: where each operand type accepts the other, the two are the same. -/
theorem declaredType_binary_swap {e : Expr} {op : BinaryOperator} {l r : Expr}
    {s : String × ValueType} (h : signature e op l.declaredType r.declaredType = .ok s) :
    (Expr.binary op l r).declaredType.sameType (Expr.binary op r l).declaredType = true := by
  simp only [Expr.declaredType_binary]
  cases hk : op.kind with
  | logical | comparison => simp
  | arithmetic | bitwise =>
    simp only
    have hacc := accepts_or_of_signature h (by simp [hk])
    cases hlr : l.declaredType.accepts r.declaredType <;>
      cases hrl : r.declaredType.accepts l.declaredType
    · simp [hlr, hrl] at hacc
    · simp
    · simp
    · simp [DataType.sameType_of_accepts_of_accepts hlr hrl]

/-! ### Agreement of translations -/

/-- The translations of `a` and `b` agree under `g`: both fail, or both succeed with the same
markup type, declared types that are the same, and the markup of `b` the image under `g` of the
markup of `a`. -/
def Agree (g : Node → Node) (a b : Expr) : Prop :=
  (∃ r r', reference a = .error r ∧ reference b = .error r') ∨
    ∃ m m', reference a = .ok m ∧ reference b = .ok m' ∧ m'.dataType = m.dataType ∧
      m'.target = g m.target ∧ a.declaredType.sameType b.declaredType = true

/-- The translations of two lists agree under `G`: both fail, or both succeed and the markup of
the second is the image under `G` of the first's. -/
def AgreeList (G : List Node → List Node) (cs cs' : List Expr) : Prop :=
  (∃ r r', referenceList cs = .error r ∧ referenceList cs' = .error r') ∨
    ∃ ts ts', referenceList cs = .ok ts ∧ referenceList cs' = .ok ts' ∧ ts' = G ts

/-- Every tree agrees with itself. -/
theorem Agree.refl (a : Expr) : Agree id a a := by
  cases h : reference a with
  | error r => exact Or.inl ⟨r, r, h, h⟩
  | ok m => exact Or.inr ⟨m, m, h, h, rfl, rfl, DataType.sameType_refl _⟩

/-- Every list agrees with itself. -/
theorem AgreeList.refl (cs : List Expr) : AgreeList id cs cs := by
  cases h : referenceList cs with
  | error r => exact Or.inl ⟨r, r, h, h⟩
  | ok ts => exact Or.inr ⟨ts, ts, h, h, rfl⟩

/-- Two nodes that both have a failing child agree under anything. -/
theorem Agree.of_children_error {g : Node → Node} {a b c c' : Expr} (hc : c ∈ a.children)
    (hc' : c' ∈ b.children) {r r' : Rejection} (h : reference c = .error r)
    (h' : reference c' = .error r') : Agree g a b := by
  obtain ⟨r₁, h₁⟩ := reference_error_of_mem_children hc h
  obtain ⟨r₂, h₂⟩ := reference_error_of_mem_children hc' h'
  exact Or.inl ⟨r₁, r₂, h₁, h₂⟩

/-! ### Agreement node by node -/

/-- Computations that succeed alike: one fails where the other does. -/
theorem error_of_toOption_eq {ε α : Type} {x y : Except ε α} (h : x.toOption = y.toOption)
    {r : ε} (hx : x = .error r) : ∃ r', y = .error r' := by
  cases y with
  | error r' => exact ⟨r', rfl⟩
  | ok b => rw [hx] at h; cases h

/-- Computations that succeed alike: one succeeds with what the other does. -/
theorem ok_of_toOption_eq {ε α : Type} {x y : Except ε α} (h : x.toOption = y.toOption) {a : α}
    (hx : x = .ok a) : y = .ok a := by
  cases y with
  | error r' => rw [hx] at h; cases h
  | ok b => rw [hx] at h; cases h; rfl

/-- Binary operations of one operator whose operands translate agree when their signatures
succeed alike, their markups correspond, and a signature that succeeds makes their declared
types the same. -/
theorem Agree.binary_of_signature {g : Node → Node} {op : BinaryOperator} {l r l' r' : Expr}
    {ml mr ml' mr' : Mapping} (hl : reference l = .ok ml) (hr : reference r = .ok mr)
    (hl' : reference l' = .ok ml') (hr' : reference r' = .ok mr')
    (hsig : (signature (.binary op l r) op l.declaredType r.declaredType).toOption =
      (signature (.binary op l' r') op l'.declaredType r'.declaredType).toOption)
    (hg : ∀ f, g (.apply f [ml.target, mr.target]) = .apply f [ml'.target, mr'.target])
    (hD : ∀ s, signature (.binary op l r) op l.declaredType r.declaredType = .ok s →
      (Expr.binary op l r).declaredType.sameType (Expr.binary op l' r').declaredType = true) :
    Agree g (.binary op l r) (.binary op l' r') := by
  rw [signature_eq_referenceSignature, signature_eq_referenceSignature] at hsig
  cases hs : referenceSignature (.binary op l r) op l.declaredType r.declaredType with
  | error x =>
    obtain ⟨x', hs'⟩ := error_of_toOption_eq hsig hs
    exact Or.inl ⟨x, x', reference_binary_of_error hs, reference_binary_of_error hs'⟩
  | ok s =>
    have hs' := ok_of_toOption_eq hsig hs
    have hsame := hD s (by rw [signature_eq_referenceSignature]; exact hs)
    exact Or.inr ⟨_, _, reference_binary_of_ok hs hl hr, reference_binary_of_ok hs' hl' hr', rfl,
      (hg s.1).symm, hsame⟩

/-- Conditionals whose condition and branches translate agree when their branch checks answer
alike, their markups correspond, and passing the check makes their first branches of the same
type. Branches of different types are rejected by both; branches of one type map both first
branches to one markup type. -/
theorem Agree.cond_of_branches {g : Node → Node} {c t u c' t' u' : Expr}
    {mc mt mu mc' mt' mu' : Mapping} (hc : reference c = .ok mc) (ht : reference t = .ok mt)
    (hu : reference u = .ok mu) (hc' : reference c' = .ok mc') (ht' : reference t' = .ok mt')
    (hu' : reference u' = .ok mu')
    (hsame : t'.declaredType.sameType u'.declaredType = t.declaredType.sameType u.declaredType)
    (hD : t.declaredType.sameType u.declaredType = true →
      t.declaredType.sameType t'.declaredType = true)
    (hg : g (.apply "if" [mc.target, mt.target, mu.target]) =
      .apply "if" [mc'.target, mt'.target, mu'.target]) :
    Agree g (.cond c t u) (.cond c' t' u') := by
  cases hs : t.declaredType.sameType u.declaredType with
  | false =>
    exact Or.inl ⟨_, _, reference_cond_of_sameType_false hs,
      reference_cond_of_sameType_false (hsame.trans hs)⟩
  | true =>
    have hmapFirst := mapType_congr (hD hs)
    cases hv : mapType t.declaredType with
    | error x =>
      exact Or.inl ⟨x, x, reference_cond_of_mapType_error hs hv,
        reference_cond_of_mapType_error (hsame.trans hs) (hmapFirst ▸ hv)⟩
    | ok v =>
      refine Or.inr ⟨_, _, reference_cond_of_ok hs hv hc ht hu,
        reference_cond_of_ok (hsame.trans hs) (hmapFirst ▸ hv) hc' ht' hu', rfl, hg.symm, ?_⟩
      simpa only [Expr.declaredType_cond] using hD hs

/-- An alias agrees where its expression does. -/
theorem Agree.aliased {g : Node → Node} {c c' : Expr} (h : Agree g c c') (n : String) :
    Agree g (.aliased c n) (.aliased c' n) := by
  unfold Agree at h ⊢
  simpa only [reference, Expr.declaredType_aliased] using h

/-- A binary operation agrees where its operands do, under a map acting on each argument: the
signatures see operand types that are the same up to nullability. -/
theorem Agree.binary {g gl gr : Node → Node}
    (hg : ∀ f x y, g (.apply f [x, y]) = .apply f [gl x, gr y]) (op : BinaryOperator)
    {l l' r r' : Expr} (hl : Agree gl l l') (hr : Agree gr r r') :
    Agree g (.binary op l r) (.binary op l' r') := by
  rcases hl with ⟨_, _, hl, hl'⟩ | ⟨ml, ml', hl, hl', -, htl, hDl⟩
  · exact Agree.of_children_error (by simp [Expr.children]) (by simp [Expr.children]) hl hl'
  rcases hr with ⟨_, _, hr, hr'⟩ | ⟨mr, mr', hr, hr', -, htr, hDr⟩
  · exact Agree.of_children_error (by simp [Expr.children]) (by simp [Expr.children]) hr hr'
  exact Agree.binary_of_signature hl hr hl' hr' (signature_congr op hDl hDr)
    (fun f => by rw [hg, htl, htr]) (fun _ _ => declaredType_binary_congr op hDl hDr)

/-- A conditional agrees where its condition and branches do, under a map acting on each
argument. -/
theorem Agree.cond {g gc gt gu : Node → Node}
    (hg : ∀ x y z, g (.apply "if" [x, y, z]) = .apply "if" [gc x, gt y, gu z])
    {c c' t t' u u' : Expr} (hc : Agree gc c c') (ht : Agree gt t t') (hu : Agree gu u u') :
    Agree g (.cond c t u) (.cond c' t' u') := by
  rcases hc with ⟨_, _, hc, hc'⟩ | ⟨mc, mc', hc, hc', -, htc, -⟩
  · exact Agree.of_children_error (by simp [Expr.children]) (by simp [Expr.children]) hc hc'
  rcases ht with ⟨_, _, ht, ht'⟩ | ⟨mt, mt', ht, ht', -, htt, hDt⟩
  · exact Agree.of_children_error (by simp [Expr.children]) (by simp [Expr.children]) ht ht'
  rcases hu with ⟨_, _, hu, hu'⟩ | ⟨mu, mu', hu, hu', -, htu, hDu⟩
  · exact Agree.of_children_error (by simp [Expr.children]) (by simp [Expr.children]) hu hu'
  exact Agree.cond_of_branches hc ht hu hc' ht' hu' (DataType.sameType_congr hDt hDu).symm
    (fun _ => hDt) (by rw [hg, htc, htt, htu])

/-- A membership test agrees where its value and its candidates do. -/
theorem Agree.isIn {g gx : Node → Node} {G : List Node → List Node}
    (hg : ∀ x ts, g (.apply "isIn" (x :: ts)) = .apply "isIn" (gx x :: G ts))
    {x x' : Expr} {cs cs' : List Expr} (hx : Agree gx x x') (hcs : AgreeList G cs cs') :
    Agree g (.isIn x cs) (.isIn x' cs') := by
  rcases hx with ⟨_, _, hx, hx'⟩ | ⟨mx, mx', hx, hx', -, htx, -⟩
  · exact Agree.of_children_error (by simp [Expr.children]) (by simp [Expr.children]) hx hx'
  rcases hcs with ⟨_, _, hcs, hcs'⟩ | ⟨ts, ts', hcs, hcs', rfl⟩
  · obtain ⟨c, hmem, _, hc⟩ := referenceList_error_iff.mp ⟨_, hcs⟩
    obtain ⟨c', hmem', _, hc'⟩ := referenceList_error_iff.mp ⟨_, hcs'⟩
    exact Agree.of_children_error (by simp [Expr.children, hmem])
      (by simp [Expr.children, hmem']) hc hc'
  refine Or.inr ⟨_, _, reference_isIn_of_ok hx hcs, reference_isIn_of_ok hx' hcs', rfl, ?_, ?_⟩
  · simp only [hg, htx]
  · simp

/-- A node with one child that is translated by wrapping its markup in a function agrees where
its child does. -/
theorem Agree.unary {g g' : Node → Node} {f : String} {a b c c' : Expr}
    (hg : ∀ x, g (.apply f [x]) = .apply f [g' x]) (hc : Agree g' c c')
    (ha : ∀ mc, reference c = .ok mc →
      reference a = .ok ⟨a, .apply f [mc.target], .boolean⟩)
    (hb : ∀ mc, reference c' = .ok mc →
      reference b = .ok ⟨b, .apply f [mc.target], .boolean⟩)
    (hac : c ∈ a.children) (hbc : c' ∈ b.children) (hD : a.declaredType = b.declaredType) :
    Agree g a b := by
  rcases hc with ⟨_, _, hc, hc'⟩ | ⟨mc, mc', hc, hc', -, htc, -⟩
  · exact Agree.of_children_error hac hbc hc hc'
  refine Or.inr ⟨_, _, ha mc hc, hb mc' hc', rfl, ?_,
    by rw [hD]; exact DataType.sameType_refl _⟩
  simp only [hg, htc]

/-! ### Agreement of candidate lists -/

/-- Lists agree where their heads and their tails do. -/
theorem AgreeList.cons {g : Node → Node} {G H : List Node → List Node}
    (hH : ∀ t ts, H (t :: ts) = g t :: G ts) {c c' : Expr} {cs cs' : List Expr}
    (hc : Agree g c c') (hcs : AgreeList G cs cs') : AgreeList H (c :: cs) (c' :: cs') := by
  rcases hc with ⟨x, x', hc, hc'⟩ | ⟨m, m', hc, hc', -, ht, -⟩
  · refine Or.inl ⟨x, x', ?_, ?_⟩
    · rw [referenceList, hc]
      rfl
    · rw [referenceList, hc']
      rfl
  rcases hcs with ⟨x, x', hcs, hcs'⟩ | ⟨ts, ts', hcs, hcs', rfl⟩
  · refine Or.inl ⟨x, x', ?_, ?_⟩
    · rw [referenceList, hc, except_ok_bind, hcs]
      rfl
    · rw [referenceList, hc', except_ok_bind, hcs']
      rfl
  · refine Or.inr ⟨m.target :: ts, m'.target :: G ts, ?_, ?_, by rw [hH, ht]⟩
    · rw [referenceList, hc, except_ok_bind, hcs]
      rfl
    · rw [referenceList, hc', except_ok_bind, hcs']
      rfl

/-- Changing one candidate changes the list's markup at that candidate alone. -/
theorem AgreeList.modify {g : Node → Node} {F : Expr → Expr} :
    ∀ {cs : List Expr} {j : Nat} {c : Expr}, cs[j]? = some c → Agree g c (F c) →
      AgreeList (·.modify j g) cs (cs.modify j F)
  | [], _, _, hj, _ => nomatch hj
  | d :: ds, 0, c, hj, hc => by
    obtain rfl : d = c := Option.some.inj hj
    exact AgreeList.cons (fun _ _ => rfl) hc (AgreeList.refl ds)
  | d :: ds, j + 1, c, hj, hc =>
    AgreeList.cons (fun _ _ => rfl) (Agree.refl d)
      (AgreeList.modify (List.getElem?_cons_succ ▸ hj) hc)

/-- Permuting the candidates permutes their markup, and fails alike: a failing candidate is still
among the permuted ones. -/
theorem AgreeList.reorder {cs : List Expr} {σ : List Nat} (hσ : σ.Perm (List.range cs.length)) :
    AgreeList (PmmlExport.reorder · σ) cs (PmmlExport.reorder cs σ) := by
  cases h : referenceList cs with
  | error x =>
    obtain ⟨c, hc, y, hy⟩ := referenceList_error_iff.mp ⟨x, h⟩
    have hc' : c ∈ PmmlExport.reorder cs σ := (reorder_perm hσ).mem_iff.mpr hc
    obtain ⟨x', h'⟩ := referenceList_error_iff.mpr ⟨c, hc', y, hy⟩
    exact Or.inl ⟨x, x', h, h'⟩
  | ok ts =>
    have h' := referenceList_eq_ok_iff.mpr (forall₂_reorder (referenceList_eq_ok_iff.mp h) σ)
    exact Or.inr ⟨ts, _, h, h', rfl⟩

/-! ### Reordering at the root -/

/-- Swapping the operands of a binary operation swaps the arguments of its markup: the signature
succeeds alike for both orders of the operand types. -/
theorem Agree.swap_binary (op : BinaryOperator) (l r : Expr) :
    Agree (·.reorderAt [] [1, 0]) (.binary op l r) (.binary op r l) := by
  cases hl : reference l with
  | error x =>
    exact Agree.of_children_error (by simp [Expr.children]) (by simp [Expr.children]) hl hl
  | ok ml =>
  cases hr : reference r with
  | error x =>
    exact Agree.of_children_error (by simp [Expr.children]) (by simp [Expr.children]) hr hr
  | ok mr =>
  exact Agree.binary_of_signature hl hr hr hl (signature_swap _ _ op _ _) (fun _ => rfl)
    (fun _ hs => declaredType_binary_swap hs)

/-- Swapping the branches of a conditional swaps the branches of its markup. -/
theorem Agree.swap_cond (c t u : Expr) :
    Agree (·.reorderAt [] [0, 2, 1]) (.cond c t u) (.cond c u t) := by
  cases hc : reference c with
  | error x =>
    exact Agree.of_children_error (by simp [Expr.children]) (by simp [Expr.children]) hc hc
  | ok mc =>
  cases ht : reference t with
  | error x =>
    exact Agree.of_children_error (by simp [Expr.children]) (by simp [Expr.children]) ht ht
  | ok mt =>
  cases hu : reference u with
  | error x =>
    exact Agree.of_children_error (by simp [Expr.children]) (by simp [Expr.children]) hu hu
  | ok mu =>
  exact Agree.cond_of_branches hc ht hu hc hu ht (DataType.sameType_comm _ _) id rfl

/-- Permuting the candidates of a membership test permutes the candidates of its markup. -/
theorem Agree.reorder_isIn (x : Expr) {cs : List Expr} {σ : List Nat}
    (hσ : σ.Perm (List.range cs.length)) :
    Agree (·.reorderAt [] (0 :: σ.map (· + 1))) (.isIn x cs) (.isIn x (reorder cs σ)) :=
  Agree.isIn (fun _ _ => by rw [Node.reorderAt, reorder_cons_shift]; rfl) (Agree.refl x)
    (AgreeList.reorder hσ)

/-! ### Reordering anywhere in the tree -/

/-- Reordering the operands of the node at path `p` changes the translation alike: both fail or
both succeed, and the markup is reordered at the markup path of that node. By induction on the
path: the child on the path agrees with its reordering, and the node's rule carries that
upwards. -/
theorem agree_reorderAt {π : List Nat} {p : Path} {e : Expr}
    (h : ∃ n, e.subtree? p = some n ∧ n.OperandReorder π) :
    Agree (·.reorderAt (e.targetPath p) π) e (e.reorderAt p π) := by
  induction p generalizing e with
  | nil =>
    obtain ⟨n, hn, hπ⟩ := h
    obtain rfl : e = n := Option.some.inj hn
    cases e with
    | binary op l r =>
      obtain rfl : π = [1, 0] := hπ
      exact Agree.swap_binary op l r
    | cond c t u =>
      obtain rfl : π = [0, 2, 1] := hπ
      exact Agree.swap_cond c t u
    | isIn x cs =>
      obtain ⟨σ, hσ, rfl⟩ := hπ
      have hre :
          (Expr.isIn x cs).reorderAt [] (0 :: σ.map (· + 1)) = .isIn x (reorder cs σ) := by
        rw [Expr.reorderAt, Expr.children, reorder_cons_shift]
        rfl
      rw [hre]
      exact Agree.reorder_isIn x hσ
    | aliased | field | literal | negation | nullCheck | cast | minus | call => exact hπ.elim
  | cons i p ih =>
    obtain ⟨n, hn, hπ⟩ := h
    obtain ⟨c, hc, hcn⟩ := Expr.subtree?_cons_eq_some_iff.mp hn
    have hchild := ih ⟨n, hcn, hπ⟩
    cases e with
    | aliased d a =>
      rcases i with _ | i
      · obtain rfl : d = c := Option.some.inj hc
        exact hchild.aliased a
      · simp [Expr.children] at hc
    | binary op l r =>
      rcases i with _ | _ | i
      · obtain rfl : l = c := Option.some.inj hc
        exact Agree.binary (fun _ _ _ => rfl) op hchild (Agree.refl r)
      · obtain rfl : r = c := Option.some.inj hc
        exact Agree.binary (fun _ _ _ => rfl) op (Agree.refl l) hchild
      · simp [Expr.children] at hc
    | cond d t u =>
      rcases i with _ | _ | _ | i
      · obtain rfl : d = c := Option.some.inj hc
        exact Agree.cond (fun _ _ _ => rfl) hchild (Agree.refl t) (Agree.refl u)
      · obtain rfl : t = c := Option.some.inj hc
        exact Agree.cond (fun _ _ _ => rfl) (Agree.refl d) hchild (Agree.refl u)
      · obtain rfl : u = c := Option.some.inj hc
        exact Agree.cond (fun _ _ _ => rfl) (Agree.refl d) (Agree.refl t) hchild
      · simp [Expr.children] at hc
    | isIn x cs =>
      rcases i with _ | j
      · obtain rfl : x = c := Option.some.inj hc
        exact Agree.isIn (fun _ _ => rfl) hchild (AgreeList.refl cs)
      · rw [Expr.targetPath_cons (fun _ _ h => by cases h) hc]
        exact Agree.isIn (fun _ _ => rfl) (Agree.refl x) (AgreeList.modify hc hchild)
    | negation d =>
      rcases i with _ | i
      · obtain rfl : d = c := Option.some.inj hc
        change Agree _ (.negation d) (.negation (d.reorderAt p π))
        exact Agree.unary (fun _ => rfl) hchild (fun _ => reference_negation_of_ok)
          (fun _ => reference_negation_of_ok) (by simp [Expr.children])
          (by simp [Expr.children]) (by simp)
      · simp [Expr.children] at hc
    | nullCheck k d =>
      rcases i with _ | i
      · obtain rfl : d = c := Option.some.inj hc
        change Agree _ (.nullCheck k d) (.nullCheck k (d.reorderAt p π))
        exact Agree.unary (fun _ => rfl) hchild (fun _ => reference_nullCheck_of_ok)
          (fun _ => reference_nullCheck_of_ok) (by simp [Expr.children])
          (by simp [Expr.children]) (by simp)
      · simp [Expr.children] at hc
    | cast d t =>
      rcases i with _ | i
      · exact Or.inl ⟨_, _, rfl, rfl⟩
      · simp [Expr.children] at hc
    | minus d =>
      rcases i with _ | i
      · exact Or.inl ⟨_, _, rfl, rfl⟩
      · simp [Expr.children] at hc
    | call f args t => exact Or.inl ⟨_, _, rfl, rfl⟩
    | field | literal => simp [Expr.children] at hc

/-- What agreement says of the two translations. -/
theorem Agree.ok_iff {g : Node → Node} {a b : Expr} (h : Agree g a b) :
    ((∃ m, reference a = .ok m) ↔ ∃ m', reference b = .ok m') ∧
      ∀ m m', reference a = .ok m → reference b = .ok m' →
        m'.dataType = m.dataType ∧ m'.target = g m.target := by
  rcases h with ⟨x, x', ha, hb⟩ | ⟨m, m', ha, hb, hd, ht, -⟩
  · rw [ha, hb]
    exact ⟨⟨fun ⟨_, h⟩ => (nomatch h), fun ⟨_, h⟩ => (nomatch h)⟩,
      fun _ _ h => (nomatch h)⟩
  · refine ⟨⟨fun _ => ⟨m', hb⟩, fun _ => ⟨m, ha⟩⟩, ?_⟩
    intro n n' hn hn'
    rw [ha, Except.ok.injEq] at hn
    rw [hb, Except.ok.injEq] at hn'
    subst hn hn'
    exact ⟨hd, ht⟩

/-- Swapping the operands of a binary operation, the branches of a conditional, or permuting
the candidates of a membership test, anywhere in a tree, changes nothing but the order of the
corresponding markup arguments: the tree translates exactly when the reordered one does, to
the same markup type, with the markup reordered at the markup path of that node. The depth check
sees only the height, which reordering keeps. -/
theorem translate_reorderAt (cfg : Config) (e : Expr) (p : Path) (π : List Nat)
    (h : ∃ n, e.subtree? p = some n ∧ n.OperandReorder π) :
    ((∃ m, translate cfg e = .ok m) ↔ ∃ m', translate cfg (e.reorderAt p π) = .ok m') ∧
      ∀ m m', translate cfg e = .ok m → translate cfg (e.reorderAt p π) = .ok m' →
        m'.dataType = m.dataType ∧ m'.target = m.target.reorderAt (e.targetPath p) π := by
  have hdepth : ∀ d ∈ cfg.maxDepth, (e.reorderAt p π).exceedsDepth d = e.exceedsDepth d := by
    intro d _
    rw [Bool.eq_iff_iff, Expr.exceedsDepth_iff, Expr.exceedsDepth_iff, Expr.height_reorderAt h]
  by_cases hok : ∀ d ∈ cfg.maxDepth, e.exceedsDepth d = false
  · have hok' : ∀ d ∈ cfg.maxDepth, (e.reorderAt p π).exceedsDepth d = false :=
      fun d hd => (hdepth d hd).trans (hok d hd)
    rw [translate_eq_reference_of_depth hok, translate_eq_reference_of_depth hok']
    exact (agree_reorderAt h).ok_iff
  · have hfail : ∀ m, translate cfg e ≠ .ok m := fun m hm => hok (depth_of_translate_eq_ok hm)
    have hfail' : ∀ m, translate cfg (e.reorderAt p π) ≠ .ok m := fun m hm =>
      hok fun d hd => (hdepth d hd).symm.trans (depth_of_translate_eq_ok hm d hd)
    exact ⟨⟨fun ⟨m, hm⟩ => absurd hm (hfail m), fun ⟨m, hm⟩ => absurd hm (hfail' m)⟩,
      fun m _ hm _ => absurd hm (hfail m)⟩

/-- Swapping the operands of a subtraction inside a branch of a conditional. -/
theorem translate_reorderAt_subtract_in_branch :
    (∃ n, (Expr.cond (.field "p" .boolean) (.subtract (.field "a" .long) (.field "b" .integer))
        (.field "c" .long)).subtree? [1] = some n ∧ n.OperandReorder [1, 0]) ∧
    ((∃ m, translate .standard (.cond (.field "p" .boolean)
        (.subtract (.field "a" .long) (.field "b" .integer)) (.field "c" .long)) = .ok m) ↔
      ∃ m', translate .standard ((Expr.cond (.field "p" .boolean)
        (.subtract (.field "a" .long) (.field "b" .integer)) (.field "c" .long)).reorderAt [1]
          [1, 0]) = .ok m') ∧
    ∀ m m', translate .standard (.cond (.field "p" .boolean)
        (.subtract (.field "a" .long) (.field "b" .integer)) (.field "c" .long)) = .ok m →
      translate .standard ((Expr.cond (.field "p" .boolean)
        (.subtract (.field "a" .long) (.field "b" .integer)) (.field "c" .long)).reorderAt [1]
          [1, 0]) = .ok m' →
      m'.dataType = m.dataType ∧ m'.target = m.target.reorderAt
        ((Expr.cond (.field "p" .boolean) (.subtract (.field "a" .long) (.field "b" .integer))
          (.field "c" .long)).targetPath [1]) [1, 0] :=
  have h : ∃ n, (Expr.cond (.field "p" .boolean)
      (.subtract (.field "a" .long) (.field "b" .integer)) (.field "c" .long)).subtree? [1] =
        some n ∧ n.OperandReorder [1, 0] := ⟨_, rfl, rfl⟩
  ⟨h, translate_reorderAt .standard _ [1] [1, 0] h⟩

end Translate

end PmmlExport