import PmmlExport.Proofs.TypeTable
import PmmlExport.Translate.Basic

/-!
# The translator refines the recursive specification

The specification translates a tree by plain recursion: each node's own check runs first, with
the declared types of its children computed recursively, then its children are translated left
to right, and the first failure is the result. Binary operators follow the table of the
specification, one row per operator. The translator instead checks the depth bound up front,
builds the type table of the whole tree in one postorder pass and reads the children's types
from it by path.

The two agree on every tree and every configuration (`translate_eq_reference`): the depth check
rejects exactly the trees higher than the bound, the table holds each node's declared type, and
the kind-based operator dispatch is the specification's table. A successful translation has the
markup type of the tree's inferred root type (`mapType_root_of_translate_eq_ok`).
-/

namespace PmmlExport.Translate

open Source Markup

/-- The markup function and result type that the specification gives a binary operation from
its operand types: `and` and `or`; the widened operand type for `+ - * /`; the five named
comparisons; and no counterpart for the remainder, the null-safe equality and the bitwise
operators. -/
def referenceSignature (e : Expr) (op : BinaryOperator) (l r : DataType) :
    Except Rejection (String × ValueType) :=
  match op with
  | .and => .ok ("and", .boolean)
  | .or => .ok ("or", .boolean)
  | .add | .subtract | .multiply | .divide => do
    let t ← widen e l r
    let v ← mapType t
    pure (op.symbol, v)
  | .equalTo => .ok ("equal", .boolean)
  | .greaterThan => .ok ("greaterThan", .boolean)
  | .greaterThanOrEqual => .ok ("greaterOrEqual", .boolean)
  | .lessThan => .ok ("lessThan", .boolean)
  | .lessThanOrEqual => .ok ("lessOrEqual", .boolean)
  | .remainder | .equalNullSafe | .bitwiseAnd | .bitwiseOr | .bitwiseXor =>
    .error (unsupportedNode e e.summary)

/-- The dispatch on operator families and comparison symbols is the specification's table. -/
theorem signature_eq_referenceSignature (e : Expr) (op : BinaryOperator) (l r : DataType) :
    signature e op l r = referenceSignature e op l r := by
  cases op <;> rfl

mutual

/-- The translation of an expression by the recursive specification. -/
def reference : Expr → Except Rejection Mapping
  | .aliased c _ => reference c
  | e@(.field n t) => do
    let v ← mapType t
    pure ⟨e, .fieldRef n, v⟩
  | e@(.binary op l r) => do
    let (f, v) ← referenceSignature e op l.declaredType r.declaredType
    let l' ← reference l
    let r' ← reference r
    pure ⟨e, .apply f [l'.target, r'.target], v⟩
  | e@(.cond c t u) => do
    if !t.declaredType.sameType u.declaredType then
      throw (unsupportedNode e (e.summary ++ " (branch types " ++ t.declaredType.typeName ++
        " and " ++ u.declaredType.typeName ++ " differ)"))
    let v ← mapType t.declaredType
    let c' ← reference c
    let t' ← reference t
    let u' ← reference u
    pure ⟨e, .apply "if" [c'.target, t'.target, u'.target], v⟩
  | e@(.isIn x cs) => do
    let x' ← reference x
    let cs' ← referenceList cs
    pure ⟨e, .apply "isIn" (x'.target :: cs'), .boolean⟩
  | e@(.literal val t) => do
    let v ← mapType t
    pure ⟨e, .constant val v, v⟩
  | e@(.negation c) => do
    let c' ← reference c
    pure ⟨e, .apply "not" [c'.target], .boolean⟩
  | e@(.nullCheck k c) => do
    let c' ← reference c
    pure ⟨e, .apply (nullCheckFunction k) [c'.target], .boolean⟩
  | e@(.cast ..) => throw (unsupportedNode e e.summary)
  | e@(.minus _) => throw (unsupportedNode e e.summary)
  | e@(.call ..) => throw (unsupportedNode e e.summary)

/-- The markup of a list of expressions by the recursive specification, left to right. -/
def referenceList : List Expr → Except Rejection (List Node)
  | [] => pure []
  | c :: cs => do
    let c' ← reference c
    let cs' ← referenceList cs
    pure (c'.target :: cs')

end

/-- Translating any node of a tree with the tree's type table is the specification's
translation of that node. By induction on the node: each child sits one step below, where the
table holds its declared type, and a membership test's candidates are its children from index
one on. -/
theorem translateAt_eq_reference {e s : Expr} {p : Path} (h : e.subtree? p = some s) :
    translateAt (TypeTable.infer e) p s = reference s := by
  induction s using Expr.childInduction generalizing p with
  | step s ih =>
    have hchild : ∀ i c, s.children[i]? = some c →
        translateAt (TypeTable.infer e) (p ++ [i]) c = reference c ∧
          ∀ x, (TypeTable.infer e).typeOf (p ++ [i]) x = c.declaredType := by
      intro i c hc
      have hsub : e.subtree? (p ++ [i]) = some c := (Expr.subtree?_append_singleton h i).trans hc
      exact ⟨ih c (List.mem_of_getElem? hc) hsub, TypeTable.typeOf_infer hsub⟩
    cases s with
    | aliased c n => rw [translateAt, reference, (hchild 0 c rfl).1]
    | field n t => rw [translateAt, reference]
    | binary op l r =>
      obtain ⟨hl, htl⟩ := hchild 0 l rfl
      obtain ⟨hr, htr⟩ := hchild 1 r rfl
      rw [translateAt, reference, hl, hr, htl, htr, signature_eq_referenceSignature]
    | cond c t u =>
      obtain ⟨hc, -⟩ := hchild 0 c rfl
      obtain ⟨ht, htt⟩ := hchild 1 t rfl
      obtain ⟨hu, htu⟩ := hchild 2 u rfl
      rw [translateAt, reference, hc, ht, hu, htt, htu]
    | isIn x cs =>
      obtain ⟨hx, -⟩ := hchild 0 x rfl
      have hlist : ∀ (ds : List Expr) (i : Nat),
          (∀ j d, ds[j]? = some d → (x :: cs)[i + j]? = some d) →
            translateListAt (TypeTable.infer e) p i ds = referenceList ds := by
        intro ds
        induction ds with
        | nil => intro i _; rw [translateListAt, referenceList]
        | cons d ds ihds =>
          intro i hds
          have hd := (hchild i d (by simpa [Expr.children] using hds 0 d rfl)).1
          have hrest := ihds (i + 1) fun j d' hd' => by
            simpa [Nat.add_assoc, Nat.add_comm 1 j] using hds (j + 1) d' hd'
          rw [translateListAt, referenceList, hd, hrest]
      rw [translateAt, reference, hx, hlist cs 1 fun j d hd => by simpa [Nat.add_comm] using hd]
    | literal val t => rw [translateAt, reference]
    | negation c => rw [translateAt, reference, (hchild 0 c rfl).1]
    | nullCheck k c => rw [translateAt, reference, (hchild 0 c rfl).1]
    | cast c t => rw [translateAt, reference]
    | minus c => rw [translateAt, reference]
    | call n args t => rw [translateAt, reference]

/-- Under a depth check that passes, the translator gives the specification's translation. -/
theorem translate_eq_reference_of_depth {cfg : Config} {e : Expr}
    (hdepth : ∀ m ∈ cfg.maxDepth, e.exceedsDepth m = false) :
    translate cfg e = reference e := by
  have hroot := translateAt_eq_reference (Expr.subtree?_nil e)
  cases hm : cfg.maxDepth with
  | none => simp [translate, hm, hroot]
  | some m => simp [translate, hm, hdepth m hm, hroot]

/-- A tree that translates passes the depth check. -/
theorem depth_of_translate_eq_ok {cfg : Config} {e : Expr} {m : Mapping}
    (h : translate cfg e = .ok m) : ∀ d ∈ cfg.maxDepth, e.exceedsDepth d = false := by
  intro d hd
  rw [Option.mem_def] at hd
  cases hx : e.exceedsDepth d with
  | false => rfl
  | true => simp [translate, hd, hx] at h

/-- The translator is the depth check followed by the recursive specification: a tree higher
than the bound is rejected, any other gets the specification's translation. -/
theorem translate_eq_reference (cfg : Config) (e : Expr) :
    translate cfg e =
      match cfg.maxDepth with
      | some m => if m < e.height then .error (.depthLimitExceeded m) else reference e
      | none => reference e := by
  cases hm : cfg.maxDepth with
  | none => exact translate_eq_reference_of_depth (by simp [hm])
  | some m =>
    by_cases hd : m < e.height
    · simp [translate, hm, hd, Expr.exceedsDepth_iff.mpr hd]
    · have hx : e.exceedsDepth m = false :=
        Expr.exceedsDepth_eq_false_iff.mpr (Nat.not_lt.mp hd)
      rw [translate_eq_reference_of_depth (by simp [hm, hx])]
      simp [hd]

/-! ### The markup type follows the declared type -/

@[simp] theorem except_ok_bind {ε α β : Type} (a : α) (f : α → Except ε β) :
    (Except.ok a >>= f) = f a := rfl

@[simp] theorem except_error_bind {ε α β : Type} (r : ε) (f : α → Except ε β) :
    (Except.error r >>= f) = Except.error r := rfl

@[simp] theorem except_toOption_ok {ε α : Type} (a : α) :
    (Except.ok a : Except ε α).toOption = some a := rfl

@[simp] theorem except_toOption_error {ε α : Type} (r : ε) :
    (Except.error r : Except ε α).toOption = none := rfl

/-- A step of the `Except` monad succeeds exactly when both of its parts do. -/
theorem except_bind_eq_ok {ε α β : Type} {x : Except ε α} {f : α → Except ε β} {b : β} :
    x >>= f = .ok b ↔ ∃ a, x = .ok a ∧ f a = .ok b := by
  cases x <;> simp [bind, Except.bind]

/-- A widened type is the left operand type unless only the right one accepts the other, the
rule of the declared type. -/
theorem widen_eq_ok {e : Expr} {a b t : DataType} (h : widen e a b = .ok t) :
    t = if !a.accepts b && b.accepts a then b else a := by
  unfold widen at h
  by_cases hab : a.accepts b
  · simp only [hab, ite_true, Except.ok.injEq] at h
    subst h
    simp [hab]
  · by_cases hba : b.accepts a
    · simp only [hab, hba, ite_true, Bool.false_eq_true, ite_false, Except.ok.injEq] at h
      subst h
      simp [hab, hba]
    · simp [hab, hba] at h

/-- The result type of a binary operation is the markup type of its declared type. -/
theorem mapType_declaredType_of_signature {e : Expr} {op : BinaryOperator} {l r : Expr}
    {f : String} {v : ValueType}
    (h : signature e op l.declaredType r.declaredType = .ok (f, v)) :
    mapType (Expr.binary op l r).declaredType = .ok v := by
  rw [Expr.declaredType_binary]
  unfold signature at h
  cases hk : op.kind with
  | logical =>
    simp only [hk, Except.ok.injEq, Prod.mk.injEq] at h
    simp [mapType, ← h.2]
  | comparison =>
    simp only [hk] at h
    split at h
    · simp only [Except.ok.injEq, Prod.mk.injEq] at h
      simp [mapType, ← h.2]
    · cases h
  | arithmetic =>
    simp only [hk] at h ⊢
    split at h
    · obtain ⟨t, ht, hrest⟩ := except_bind_eq_ok.mp h
      obtain ⟨w, hw, hpure⟩ := except_bind_eq_ok.mp hrest
      cases hpure
      rw [← widen_eq_ok ht]
      exact hw
    · cases h
  | bitwise => simp [hk] at h

/-- A successful specification translation has the markup type of the declared type. -/
theorem mapType_declaredType_of_reference {e : Expr} {m : Mapping} (h : reference e = .ok m) :
    mapType e.declaredType = .ok m.dataType := by
  induction e using Expr.childInduction generalizing m with
  | step e ih =>
    cases e with
    | aliased c n =>
      rw [reference] at h
      simpa using ih c (by simp [Expr.children]) h
    | field n t | literal val t =>
      obtain ⟨v, hv, hm⟩ := except_bind_eq_ok.mp h
      cases hm
      simpa [Expr.declaredType_eq, Expr.localType] using hv
    | binary op l r =>
      obtain ⟨⟨f, v⟩, hs, hrest⟩ := except_bind_eq_ok.mp h
      obtain ⟨l', -, hrest⟩ := except_bind_eq_ok.mp hrest
      obtain ⟨r', -, hm⟩ := except_bind_eq_ok.mp hrest
      cases hm
      exact mapType_declaredType_of_signature (by rwa [signature_eq_referenceSignature])
    | cond c t u =>
      rw [reference] at h
      by_cases hs : t.declaredType.sameType u.declaredType
      · simp only [hs, Bool.not_true, Bool.false_eq_true, ite_false] at h
        obtain ⟨v, hv, hrest⟩ := except_bind_eq_ok.mp h
        obtain ⟨c', -, hrest⟩ := except_bind_eq_ok.mp hrest
        obtain ⟨t', -, hrest⟩ := except_bind_eq_ok.mp hrest
        obtain ⟨u', -, hm⟩ := except_bind_eq_ok.mp hrest
        cases hm
        simpa using hv
      · simp only [hs, Bool.not_false, ite_true] at h
        obtain ⟨_, hthrow, -⟩ := except_bind_eq_ok.mp h
        cases hthrow
    | isIn x cs =>
      obtain ⟨x', -, hrest⟩ := except_bind_eq_ok.mp h
      obtain ⟨cs', -, hm⟩ := except_bind_eq_ok.mp hrest
      cases hm
      simp [mapType]
    | negation c | nullCheck _ c =>
      obtain ⟨c', -, hm⟩ := except_bind_eq_ok.mp h
      cases hm
      simp [mapType]
    | cast _ _ | minus _ | call _ _ _ => cases h

/-- A successful translation has the markup type of the tree's inferred root type. -/
theorem mapType_root_of_translate_eq_ok {cfg : Config} {e : Expr} {m : Mapping}
    (h : translate cfg e = .ok m) : mapType (TypeTable.infer e).root = .ok m.dataType := by
  rw [translate_eq_reference_of_depth (depth_of_translate_eq_ok h)] at h
  rw [TypeTable.infer_root]
  exact mapType_declaredType_of_reference h

/-- A widening addition of an `int` and a `double` field translates to a `double`. -/
theorem mapType_root_of_translate_add_widening :
    translate .standard (.add (.field "a" .integer) (.field "b" .double)) =
        .ok ⟨.add (.field "a" .integer) (.field "b" .double),
          .apply "+" [.fieldRef "a", .fieldRef "b"], .double⟩ ∧
      mapType (TypeTable.infer (.add (.field "a" .integer) (.field "b" .double))).root =
        .ok .double :=
  have h : translate .standard (.add (.field "a" .integer) (.field "b" .double)) =
      .ok ⟨.add (.field "a" .integer) (.field "b" .double),
        .apply "+" [.fieldRef "a", .fieldRef "b"], .double⟩ := by
    rw [translate_eq_reference_of_depth (by decide)]
    rfl
  ⟨h, mapType_root_of_translate_eq_ok h⟩

end PmmlExport.Translate
