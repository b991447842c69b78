import Mathlib
import PmmlExport.Proofs.Reference

/-!
# Which error the translator reports

Every node has a check of its own, made with the declared types of its children: a field
reference or literal needs a type that maps, a binary operation a signature, a conditional
branches of the same type whose type maps; casts, unary minus and other named functions always
fail; aliases, membership tests, negations and null checks never do. A binary operation and a
conditional check themselves before any child is translated, the others only recurse, and
children go left to right.

So the translator, once its depth check passes, succeeds exactly when no node of the tree fails
its own check, and otherwise reports the error of the first failing node in preorder
(`translate_first_fault`): a failing node is reported ahead of any failing descendant, and a
failure in an earlier child ahead of any in a later one.

A batch of named expressions goes the same way one level up (`translateAll_in_order`): it gives
every mapping, in order and under its own name, or the error of the first expression that fails.
-/

namespace PmmlExport.Translate

open Source Markup

/-- The error of a failed computation, `none` for a successful one. -/
def errorOf {ε α : Type} : Except ε α → Option ε
  | .error r => some r
  | .ok _ => none

@[simp] theorem errorOf_ok {ε α : Type} (a : α) : errorOf (.ok a : Except ε α) = none := rfl

@[simp] theorem errorOf_error {ε α : Type} (r : ε) :
    errorOf (.error r : Except ε α) = some r := rfl

@[simp] theorem errorOf_pure {ε α : Type} (a : α) : errorOf (pure a : Except ε α) = none := rfl

@[simp] theorem errorOf_throw {ε α : Type} (r : ε) : errorOf (throw r : Except ε α) = some r :=
  rfl

@[simp] theorem errorOf_throw_bind {ε α β : Type} (r : ε) (f : α → Except ε β) :
    errorOf (throw r >>= f) = some r := rfl

theorem errorOf_eq_none_iff {ε α : Type} {x : Except ε α} :
    errorOf x = none ↔ ∃ a, x = .ok a := by
  cases x <;> simp

/-- A step whose continuation fails the same way on every value fails first where the step
fails, and else as the continuation does. -/
theorem errorOf_bind {ε α β : Type} (x : Except ε α) {f : α → Except ε β} {y : Option ε}
    (hf : ∀ a, errorOf (f a) = y) : errorOf (x >>= f) = (errorOf x).or y := by
  cases x with
  | error r => rfl
  | ok a => exact hf a

/-- The error a node's own check reports, made with the declared types of its children; `none`
when the check passes. -/
def localFault : Expr → Option Rejection
  | .aliased .. | .isIn .. | .negation _ | .nullCheck .. => none
  | .field _ t | .literal _ t => errorOf (mapType t)
  | e@(.binary op l r) => errorOf (signature e op l.declaredType r.declaredType)
  | e@(.cond _ t u) =>
    if !t.declaredType.sameType u.declaredType then
      some (unsupportedNode e (e.summary ++ " (branch types " ++ t.declaredType.typeName ++
        " and " ++ u.declaredType.typeName ++ " differ)"))
    else errorOf (mapType t.declaredType)
  | e@(.cast ..) | e@(.minus _) | e@(.call ..) => some (unsupportedNode e e.summary)

/-- The error of the first node in preorder whose own check fails. -/
def firstFault (e : Expr) : Option Rejection :=
  e.preorder.findSome? fun x => localFault x.2

private theorem findSome?_cons_eq_or {α β : Type} (f : α → Option β) (a : α) (l : List α) :
    (a :: l).findSome? f = (f a).or (l.findSome? f) := by
  rw [List.findSome?_cons]
  cases f a <;> rfl

private theorem findSome?_flatMap {α β γ : Type} (f : β → Option γ) (g : α → List β)
    (l : List α) : (l.flatMap g).findSome? f = l.findSome? fun a => (g a).findSome? f := by
  induction l with
  | nil => rfl
  | cons a l ih => rw [List.flatMap_cons, List.findSome?_append, ih, findSome?_cons_eq_or]

/-- The first fault of a tree is the node's own, else the first among its children's subtrees,
left to right. -/
theorem firstFault_eq (e : Expr) :
    firstFault e = (localFault e).or (e.children.findSome? firstFault) := by
  have horder : firstFault = fun x => ((x.preorderAt []).map Prod.snd).findSome? localFault := by
    funext x
    rw [firstFault, Expr.preorder_eq, List.findSome?_map]
    rfl
  rw [horder]
  dsimp only
  rw [Expr.map_snd_preorderAt, findSome?_cons_eq_or, findSome?_flatMap]

/-- The error of the specification's translation of a list is the first fault among its
members, left to right. -/
theorem errorOf_referenceList (cs : List Expr)
    (ih : ∀ c ∈ cs, errorOf (reference c) = firstFault c) :
    errorOf (referenceList cs) = cs.findSome? firstFault := by
  induction cs with
  | nil => rfl
  | cons c cs ihcs =>
    have hc := ih c List.mem_cons_self
    have hcs := ihcs fun d hd => ih d (List.mem_cons_of_mem c hd)
    rw [referenceList, errorOf_bind _ fun _ => errorOf_bind _ fun _ => errorOf_pure _, hc, hcs,
      Option.or_none, findSome?_cons_eq_or]

/-- The specification's translation fails with exactly the first fault in preorder: at a binary
operation the signature is checked first, then the left operand, then the right one. -/
theorem errorOf_reference (e : Expr) : errorOf (reference e) = firstFault e := by
  induction e using Expr.childInduction with
  | step e ih =>
    rw [firstFault_eq]
    cases e with
    | aliased c n =>
      rw [reference, ih c (by simp [Expr.children])]
      simp [localFault, Expr.children, findSome?_cons_eq_or]
    | field n t | literal val t =>
      rw [reference, errorOf_bind _ fun _ => errorOf_pure _]
      simp [localFault, Expr.children]
    | binary op l r =>
      have hl := ih l (by simp [Expr.children])
      have hr := ih r (by simp [Expr.children])
      have hsub : ∀ a : String × ValueType, errorOf (do
          let l' ← reference l
          let r' ← reference r
          pure (⟨.binary op l r, .apply a.1 [l'.target, r'.target], a.2⟩ : Mapping)) =
          (firstFault l).or (firstFault r) := by
        intro a
        rw [errorOf_bind _ fun _ => errorOf_bind _ fun _ => errorOf_pure _, hl, hr,
          Option.or_none]
      rw [reference, errorOf_bind _ fun a => by obtain ⟨f, v⟩ := a; exact hsub (f, v),
        ← signature_eq_referenceSignature]
      simp [localFault, Expr.children, findSome?_cons_eq_or]
    | cond c t u =>
      have hc := ih c (by simp [Expr.children])
      have ht := ih t (by simp [Expr.children])
      have hu := ih u (by simp [Expr.children])
      rw [reference]
      by_cases hs : t.declaredType.sameType u.declaredType
      · simp only [hs, Bool.not_true, Bool.false_eq_true, ite_false]
        rw [errorOf_bind _ fun _ => errorOf_bind _ fun _ => errorOf_bind _ fun _ =>
          errorOf_bind _ fun _ => errorOf_pure _, hc, ht, hu]
        simp [localFault, hs, Expr.children, findSome?_cons_eq_or]
      · simp only [hs, Bool.not_false, ite_true, errorOf_throw_bind]
        simp [localFault, hs]
    | isIn x cs =>
      have hx := ih x (by simp [Expr.children])
      have hcs := errorOf_referenceList cs fun c hc => ih c (by simp [Expr.children, hc])
      rw [reference, errorOf_bind _ fun _ => errorOf_bind _ fun _ => errorOf_pure _, hx, hcs]
      simp [localFault, Expr.children, findSome?_cons_eq_or]
    | negation c | nullCheck _ c =>
      rw [reference, errorOf_bind _ fun _ => errorOf_pure _, ih c (by simp [Expr.children])]
      simp [localFault, Expr.children, findSome?_cons_eq_or]
    | cast c t | minus c | call n args t =>
      rw [reference]
      simp [localFault]

/-! ### Every fault is an unsupported construct -/

theorem errorOf_eq_some_iff {ε α : Type} {x : Except ε α} {r : ε} :
    errorOf x = some r ↔ x = .error r := by
  cases x <;> simp

theorem mapType_error_isUnsupported {t : DataType} {r : Rejection} (h : mapType t = .error r) :
    r.isUnsupported = true := by
  unfold mapType at h
  split at h <;> cases h
  rfl

theorem widen_error_isUnsupported {e : Expr} {a b : DataType} {r : Rejection}
    (h : widen e a b = .error r) : r.isUnsupported = true := by
  unfold widen at h
  split at h
  · cases h
  · split at h <;> cases h
    rfl

/-- A signature fails only on an unsupported construct: the operand types are widened, then the
result type mapped. -/
theorem signature_error_isUnsupported {e : Expr} {op : BinaryOperator} {a b : DataType}
    {r : Rejection} (h : signature e op a b = .error r) : r.isUnsupported = true := by
  unfold signature at h
  split at h
  · cases h
  · split at h
    · cases hw : widen e a b with
      | error w =>
        rw [hw, except_error_bind] at h
        cases h
        exact widen_error_isUnsupported hw
      | ok t =>
        rw [hw, except_ok_bind] at h
        cases hm : mapType t with
        | error m =>
          rw [hm, except_error_bind] at h
          cases h
          exact mapType_error_isUnsupported hm
        | ok v =>
          rw [hm, except_ok_bind] at h
          cases h
    · cases h
      rfl
  · split at h <;> cases h
    rfl
  · cases h
    rfl

/-- A node's own check fails only on a construct the markup does not support. -/
theorem localFault_isUnsupported {x : Expr} {r : Rejection} (h : localFault x = some r) :
    r.isUnsupported = true := by
  cases x with
  | aliased c _ | isIn c _ | negation c | nullCheck _ c => simp [localFault] at h
  | field _ t | literal _ t =>
    rw [localFault, errorOf_eq_some_iff] at h
    exact mapType_error_isUnsupported h
  | binary op l r =>
    rw [localFault, errorOf_eq_some_iff] at h
    exact signature_error_isUnsupported h
  | cond c t u =>
    rw [localFault] at h
    split at h
    · cases h
      rfl
    · rw [errorOf_eq_some_iff] at h
      exact mapType_error_isUnsupported h
  | cast c t | minus c | call n args t =>
    rw [localFault] at h
    cases h
    rfl

/-- The specification's translation rejects a tree only on an unsupported construct. -/
theorem reference_error_isUnsupported {e : Expr} {r : Rejection} (h : reference e = .error r) :
    r.isUnsupported = true := by
  have hfault : firstFault e = some r := by
    rw [← errorOf_reference, h, errorOf_error]
  obtain ⟨x, -, hx⟩ := List.exists_of_findSome?_eq_some hfault
  exact localFault_isUnsupported hx

/-- Once the depth check passes, a tree translates exactly when no node fails its own check,
and otherwise the translator reports the error of the first failing node in preorder. -/
theorem translate_first_fault (cfg : Config) (e : Expr)
    (hdepth : ∀ m ∈ cfg.maxDepth, e.exceedsDepth m = false) :
    ((∃ m, translate cfg e = .ok m) ↔ ∀ x ∈ e.preorder, localFault x.2 = none) ∧
      ∀ r, translate cfg e = .error r ↔
        e.preorder.findSome? (fun x => localFault x.2) = some r := by
  have herr := errorOf_reference e
  rw [translate_eq_reference_of_depth hdepth]
  constructor
  · rw [← errorOf_eq_none_iff, herr, firstFault, List.findSome?_eq_none_iff]
  · intro r
    rw [← firstFault, ← herr]
    cases reference e <;> simp

/-- Of a cast under the left operand and a unary minus under the right one, the cast is
reported. -/
theorem translate_first_fault_left_cast :
    (∀ m ∈ Config.standard.maxDepth,
      (Expr.and (.cast (.field "a" .integer) .long) (.minus (.field "b" .integer))).exceedsDepth m =
        false) ∧
    ((∃ m, translate .standard
        (.and (.cast (.field "a" .integer) .long) (.minus (.field "b" .integer))) = .ok m) ↔
      ∀ x ∈ (Expr.and (.cast (.field "a" .integer) .long)
        (.minus (.field "b" .integer))).preorder, localFault x.2 = none) ∧
    ∀ r, translate .standard
        (.and (.cast (.field "a" .integer) .long) (.minus (.field "b" .integer))) = .error r ↔
      (Expr.and (.cast (.field "a" .integer) .long)
        (.minus (.field "b" .integer))).preorder.findSome? (fun x => localFault x.2) = some r :=
  have hdepth : ∀ m ∈ Config.standard.maxDepth,
      (Expr.and (.cast (.field "a" .integer) .long) (.minus (.field "b" .integer))).exceedsDepth m =
        false := by decide
  ⟨hdepth, translate_first_fault .standard _ hdepth⟩

/-! ### Several named expressions -/

/-- Translating named expressions succeeds exactly when each expression translates on its own:
the mappings come in the order of the expressions, each under its own expression's name. -/
theorem translateAll_eq_ok_iff {cfg : Config} {xs : List (String × Expr)}
    {ms : List (String × Mapping)} :
    translateAll cfg xs = .ok ms ↔
      List.Forall₂ (fun x m => m.1 = x.1 ∧ translate cfg x.2 = .ok m.2) xs ms := by
  induction xs generalizing ms with
  | nil =>
    rw [List.forall₂_nil_left_iff, translateAll]
    exact ⟨fun h => (Except.ok.inj h).symm, fun h => h ▸ rfl⟩
  | cons x xs ih =>
    obtain ⟨n, e⟩ := x
    cases ms with
    | nil =>
      rw [List.forall₂_nil_right_iff, translateAll]
      refine ⟨fun h => ?_, fun h => by cases h⟩
      obtain ⟨m, -, hrest⟩ := except_bind_eq_ok.mp h
      obtain ⟨ms', -, hpure⟩ := except_bind_eq_ok.mp hrest
      cases hpure
    | cons m ms =>
      rw [List.forall₂_cons, ← ih, translateAll]
      constructor
      · intro h
        obtain ⟨m', hm', hrest⟩ := except_bind_eq_ok.mp h
        obtain ⟨ms', hms', hpure⟩ := except_bind_eq_ok.mp hrest
        cases hpure
        exact ⟨⟨rfl, hm'⟩, hms'⟩
      · obtain ⟨n', m'⟩ := m
        rintro ⟨⟨rfl, hm⟩, hms⟩
        rw [hm, except_ok_bind, hms]
        rfl

/-- A batch fails with the error of its first member that fails. -/
theorem errorOf_translateAll (cfg : Config) (xs : List (String × Expr)) :
    errorOf (translateAll cfg xs) = xs.findSome? fun x => errorOf (translate cfg x.2) := by
  induction xs with
  | nil => rfl
  | cons x xs ih =>
    rw [translateAll, errorOf_bind _ fun _ => errorOf_bind _ fun _ => errorOf_pure _, ih,
      Option.or_none, findSome?_cons_eq_or]

/-- A batch fails with `r` exactly when some member fails with `r` and every member before it
translates; the members after it play no part. -/
theorem translateAll_eq_error_iff {cfg : Config} {xs : List (String × Expr)} {r : Rejection} :
    translateAll cfg xs = .error r ↔
      ∃ pre n e post, xs = pre ++ (n, e) :: post ∧
        (∀ x ∈ pre, ∃ m, translate cfg x.2 = .ok m) ∧ translate cfg e = .error r := by
  rw [← errorOf_eq_some_iff, errorOf_translateAll, List.findSome?_eq_some_iff]
  simp only [errorOf_eq_some_iff, errorOf_eq_none_iff]
  constructor
  · rintro ⟨pre, ⟨n, e⟩, post, rfl, he, hpre⟩
    exact ⟨pre, n, e, post, rfl, hpre, he⟩
  · rintro ⟨pre, n, e, post, rfl, hpre, he⟩
    exact ⟨pre, (n, e), post, rfl, he, hpre⟩

/-- Named expressions are translated in order and each on its own: when every expression
translates, the batch gives each mapping under its own name, in order; otherwise it fails with
the error of the first expression that fails, whatever the expressions after it give. -/
theorem translateAll_in_order (cfg : Config) (xs : List (String × Expr)) :
    (∀ ms, translateAll cfg xs = .ok ms ↔
      List.Forall₂ (fun x m => m.1 = x.1 ∧ translate cfg x.2 = .ok m.2) xs ms) ∧
    ∀ r, translateAll cfg xs = .error r ↔
      ∃ pre n e post, xs = pre ++ (n, e) :: post ∧
        (∀ x ∈ pre, ∃ m, translate cfg x.2 = .ok m) ∧ translate cfg e = .error r :=
  ⟨fun _ => translateAll_eq_ok_iff, fun _ => translateAll_eq_error_iff⟩

example : ((translateAll .standard
    [("sum", .binary .add (.field "a" .integer) (.field "b" .integer)),
      ("flag", .nullCheck .isNull (.field "a" .integer))]).toOption.map
      fun ms => ms.map fun p => (p.1, p.2.dataType)) =
    some [("sum", .integer), ("flag", .boolean)] := by decide +kernel

example : errorOf (translateAll .standard
    [("sum", .binary .add (.field "a" .integer) (.field "b" .integer)),
      ("bad", .field "d" (.decimal 5 1)), ("negated", .minus (.field "a" .integer))]) =
    errorOf (translate .standard (.field "d" (.decimal 5 1))) := by decide +kernel

end PmmlExport.Translate
