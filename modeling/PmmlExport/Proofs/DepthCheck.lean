import PmmlExport.Proofs.NodeTranslation

/-!
# The depth check

Both depth measures of a tree are walks over an explicit stack of pending nodes, and both agree
with the recursive height: the depth of a tree is its height, and the check against a bound
fails exactly on trees higher than the bound (`depth_walks_eq_height`). The height is the number
of nodes on a longest path from the root to a leaf, aliases included, so the translator rejects
a tree for its depth exactly when such a path has more nodes than the bound.

An alias is transparent to the translator, except to its depth check: the alias sits one level
above its expression. So wrapping a tree in an alias changes its translation for exactly one
bound, the depth of the tree, where the alias is rejected while the tree passes
(`translate_aliased`).
-/

namespace PmmlExport

namespace Source.Expr

/-! ### Paths to the leaves -/

theorem height_add_one_le_of_mem_children {c e : Expr} (hc : c ∈ e.children) :
    c.height + 1 ≤ e.height := by
  have hpos := height_pos e
  have hle := height_le_succ_iff.mp (show e.height ≤ e.height - 1 + 1 by omega) c hc
  omega

/-- A node with children has a child exactly one level lower than itself: a highest one. -/
theorem exists_mem_children_height_add_one {e : Expr} (he : e.children ≠ []) :
    ∃ c ∈ e.children, c.height + 1 = e.height := by
  obtain ⟨c, hc, hce⟩ := List.mem_map.mp (List.maximum_mem
    (List.foldr_max_of_ne_nil (l := e.children.map height) (by simpa using he)).symm)
  exact ⟨c, hc, by rw [height_eq e, hce]; rfl⟩

/-- The node at a path lies as many levels down as the path is long. -/
theorem length_add_height_le_of_subtree? {e s : Expr} {p : Path} (h : e.subtree? p = some s) :
    p.length + s.height ≤ e.height := by
  induction p generalizing e with
  | nil =>
    obtain rfl : e = s := Option.some.inj h
    simp
  | cons i p ih =>
    obtain ⟨c, hc, hcs⟩ := subtree?_cons_eq_some_iff.mp h
    have hchild := height_add_one_le_of_mem_children (List.mem_of_getElem? hc)
    have := ih hcs
    simp only [List.length_cons]
    omega

/-- Some path from the root to a leaf has as many nodes as the tree is high: it goes down to a
highest child at each step. -/
theorem exists_leaf_path (e : Expr) :
    ∃ p s, e.subtree? p = some s ∧ s.children = [] ∧ p.length + 1 = e.height := by
  induction e using childInduction with
  | step e ih =>
    by_cases hleaf : e.children = []
    · refine ⟨[], e, rfl, hleaf, ?_⟩
      rw [height_eq, hleaf]
      rfl
    · obtain ⟨c, hc, hheight⟩ := exists_mem_children_height_add_one hleaf
      obtain ⟨i, hi⟩ := List.mem_iff_getElem?.mp hc
      obtain ⟨p, s, hs, hsleaf, hlen⟩ := ih c hc
      refine ⟨i :: p, s, ?_, hsleaf, ?_⟩
      · rw [subtree?_cons, hi, Option.bind_some, hs]
      · simp only [List.length_cons]
        omega

/-- A tree is higher than `m` exactly when some path from its root to a leaf has more than `m`
nodes. -/
theorem lt_height_iff_exists_leaf_path {e : Expr} {m : Nat} :
    m < e.height ↔ ∃ p s, e.subtree? p = some s ∧ s.children = [] ∧ m < p.length + 1 := by
  constructor
  · intro hm
    obtain ⟨p, s, hs, hleaf, hlen⟩ := exists_leaf_path e
    exact ⟨p, s, hs, hleaf, hlen ▸ hm⟩
  · rintro ⟨p, s, hs, -, hm⟩
    have := length_add_height_le_of_subtree? hs
    have := height_pos s
    omega

@[simp] theorem height_aliased (e : Expr) (n : String) : (aliased e n).height = e.height + 1 := by
  rw [height_eq]
  simp [children]

/-- A tree with its leading aliases removed. -/
def unaliased : Expr → Expr
  | aliased c _ => c.unaliased
  | e => e

end Source.Expr

namespace Translate

open Source Markup

/-! ### The translator against a bound -/

theorem translate_withMaxDepth (m : Nat) (e : Expr) :
    translate (.withMaxDepth m) e =
      if m < e.height then .error (.depthLimitExceeded m) else reference e :=
  translate_eq_reference _ e

theorem translate_unbounded (e : Expr) : translate .unbounded e = reference e :=
  translate_eq_reference _ e

/-- The specification never rejects a tree for its depth. -/
theorem reference_ne_depthLimitExceeded (e : Expr) (d : Nat) :
    reference e ≠ .error (.depthLimitExceeded d) := fun h =>
  Bool.false_ne_true (reference_error_isUnsupported h)

/-- The translator reports the depth error of its bound exactly on trees higher than it. -/
theorem translate_eq_depthLimitExceeded_iff {m : Nat} {e : Expr} :
    translate (.withMaxDepth m) e = .error (.depthLimitExceeded m) ↔ m < e.height := by
  rw [translate_withMaxDepth]
  by_cases hm : m < e.height
  · simp [hm]
  · simp only [hm, if_false, iff_false]
    exact reference_ne_depthLimitExceeded e m

/-- The depth walks compute the height: the depth of a tree is its height, the check against a
bound fails exactly on trees higher than the bound, and so the translator rejects a tree for its
depth exactly when some path from the root to a leaf has more nodes than the bound. -/
theorem depth_walks_eq_height (e : Expr) :
    e.depth = e.height ∧ (∀ m, e.exceedsDepth m = true ↔ m < e.height) ∧
      ∀ m, translate (.withMaxDepth m) e = .error (.depthLimitExceeded m) ↔
        ∃ p s, e.subtree? p = some s ∧ s.children = [] ∧ m < p.length + 1 :=
  ⟨Expr.depth_eq_height e, fun _ => Expr.exceedsDepth_iff,
    fun _ => translate_eq_depthLimitExceeded_iff.trans Expr.lt_height_iff_exists_leaf_path⟩

/-! ### Aliases -/

/-- A successful specification translation comes from the tree with its leading aliases
removed. -/
theorem source_of_reference_eq_ok {e : Expr} {m : Mapping} (h : reference e = .ok m) :
    m.source = e.unaliased := by
  induction e using Expr.childInduction generalizing m with
  | step e ih =>
    cases e with
    | aliased c n =>
      rw [reference] at h
      exact ih c (by simp [Expr.children]) h
    | field n t | literal val t =>
      obtain ⟨v, -, hm⟩ := except_bind_eq_ok.mp h
      cases hm
      rfl
    | binary op l r =>
      obtain ⟨s, -, hrest⟩ := except_bind_eq_ok.mp h
      obtain ⟨l', -, hrest⟩ := except_bind_eq_ok.mp hrest
      obtain ⟨r', -, hm⟩ := except_bind_eq_ok.mp hrest
      cases hm
      rfl
    | cond c t u =>
      cases hs : t.declaredType.sameType u.declaredType with
      | false =>
        rw [reference_cond_of_sameType_false hs] at h
        cases h
      | true =>
        rw [reference] at h
        simp only [hs, Bool.not_true, Bool.false_eq_true, ite_false] at h
        obtain ⟨v, -, hrest⟩ := except_bind_eq_ok.mp h
        obtain ⟨c', -, hrest⟩ := except_bind_eq_ok.mp hrest
        obtain ⟨t', -, hrest⟩ := except_bind_eq_ok.mp hrest
        obtain ⟨u', -, hm⟩ := except_bind_eq_ok.mp hrest
        cases hm
        rfl
    | isIn x cs =>
      obtain ⟨x', -, hrest⟩ := except_bind_eq_ok.mp h
      obtain ⟨cs', -, hm⟩ := except_bind_eq_ok.mp hrest
      cases hm
      rfl
    | negation c | nullCheck _ c =>
      obtain ⟨c', -, hm⟩ := except_bind_eq_ok.mp h
      cases hm
      rfl
    | cast _ _ | minus _ | call _ _ _ => cases h

theorem translate_unbounded_aliased (e : Expr) (n : String) :
    translate .unbounded (.aliased e n) = translate .unbounded e := by
  rw [translate_unbounded, translate_unbounded, reference]

/-- Without a bound, a chain of aliases is transparent. -/
theorem translate_unbounded_aliases (e : Expr) (names : List String) :
    translate .unbounded (names.foldl .aliased e) = translate .unbounded e := by
  induction names generalizing e with
  | nil => rfl
  | cons n names ih => rw [List.foldl_cons, ih, translate_unbounded_aliased]

/-- Under a bound, an alias is rejected for its depth as soon as its expression reaches the
bound, and otherwise translates as its expression. -/
theorem translate_withMaxDepth_aliased (m : Nat) (e : Expr) (n : String) :
    translate (.withMaxDepth m) (.aliased e n) =
      if m ≤ e.height then .error (.depthLimitExceeded m) else reference e := by
  rw [translate_withMaxDepth, Expr.height_aliased, reference]
  simp only [Nat.lt_succ_iff]

/-- An alias changes the translation of its expression exactly under the bound equal to the
expression's height: there only the alias is too deep. -/
theorem translate_aliased_eq_iff (cfg : Config) (e : Expr) (n : String) :
    translate cfg (.aliased e n) = translate cfg e ↔ cfg.maxDepth ≠ some e.height := by
  obtain ⟨_ | m⟩ := cfg
  · exact iff_of_true (translate_unbounded_aliased e n) (by simp)
  · change translate (.withMaxDepth m) _ = translate (.withMaxDepth m) _ ↔ _
    rw [translate_withMaxDepth_aliased, translate_withMaxDepth]
    rcases Nat.lt_trichotomy m e.height with hlt | rfl | hgt
    · simp [Nat.le_of_lt hlt, hlt, Nat.ne_of_lt hlt]
    · simp only [Nat.le_refl, if_true, Nat.lt_irrefl, if_false, ne_eq, not_true_eq_false,
        iff_false]
      exact (reference_ne_depthLimitExceeded e _).symm
    · simp [Nat.not_le.mpr hgt, Nat.not_lt.mpr (Nat.le_of_lt hgt), Nat.ne_of_gt hgt]

/-- An alias translates as its expression under every configuration but one: the bound equal to
the expression's depth, where the alias is one level too deep and is rejected while the
expression passes. A successful translation comes from the expression with its leading aliases
removed, and without a bound any chain of aliases is transparent. -/
theorem translate_aliased (cfg : Config) (e : Expr) (n : String) :
    (translate cfg (.aliased e n) = translate cfg e ↔ cfg.maxDepth ≠ some e.depth) ∧
      (translate (.withMaxDepth e.depth) (.aliased e n) =
          .error (.depthLimitExceeded e.depth) ∧ e.exceedsDepth e.depth = false) ∧
      (∀ m, translate cfg (.aliased e n) = .ok m → m.source = e.unaliased) ∧
      ∀ names : List String,
        translate .unbounded (names.foldl .aliased e) = translate .unbounded e := by
  rw [Expr.depth_eq_height]
  refine ⟨translate_aliased_eq_iff cfg e n, ⟨?_, ?_⟩, fun m hm => ?_,
    translate_unbounded_aliases e⟩
  · rw [translate_withMaxDepth_aliased, if_pos (Nat.le_refl _)]
  · exact Expr.exceedsDepth_eq_false_iff.mpr (Nat.le_refl _)
  · rw [translate_eq_reference_of_depth (depth_of_translate_eq_ok hm), reference] at hm
    exact source_of_reference_eq_ok hm

/-- A field under two aliases translates as the field itself, from the field node. -/
theorem translate_aliased_twice_field :
    translate .standard (.aliased (.aliased (.field "a" .integer) "x") "y") =
        .ok ⟨.field "a" .integer, .fieldRef "a", .integer⟩ ∧
      (⟨.field "a" .integer, .fieldRef "a", .integer⟩ : Mapping).source =
        (Expr.aliased (.field "a" .integer) "x").unaliased :=
  have h : translate .standard (.aliased (.aliased (.field "a" .integer) "x") "y") =
      .ok ⟨.field "a" .integer, .fieldRef "a", .integer⟩ := by
    rw [translate_eq_reference_of_depth (by decide)]
    rfl
  ⟨h, (translate_aliased .standard _ "y").2.2.1 _ h⟩

end Translate

end PmmlExport
