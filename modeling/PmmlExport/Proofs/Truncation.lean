import PmmlExport.Proofs.Traversal
import PmmlExport.Source.Render

/-!
# Renderings cut at a level budget

A rendering with a budget of `k` levels is the full rendering of the tree cut below level `k`:
every node at level `k + 1`, the root being at level one, becomes a leaf that shows as `...`,
and the lists of arguments keep their lengths and separators (`render_eq_display_truncate`).
A budget that reaches the tree's height shows the whole tree, so a summary is the full text of
every tree at most sixteen levels deep, and otherwise depends only on the first sixteen levels
and on how many children each node at the sixteenth has.
-/

namespace PmmlExport.Source

namespace Expr

/-- A leaf that shows as `...`, standing for a node cut off by a level budget. -/
def ellipsis : Expr := field "..." .null

/-- The tree cut below `levels` levels: each node at level `levels + 1` is replaced by
`ellipsis`, keeping the number of children of every node above it. -/
def truncate (e : Expr) : Nat → Expr
  | 0 => ellipsis
  | k + 1 =>
    match e with
    | aliased c n => aliased (c.truncate k) n
    | binary op l r => binary op (l.truncate k) (r.truncate k)
    | cond p t f => cond (p.truncate k) (t.truncate k) (f.truncate k)
    | isIn v cs => isIn (v.truncate k) (cs.map (·.truncate k))
    | negation c => negation (c.truncate k)
    | nullCheck kind c => nullCheck kind (c.truncate k)
    | cast c t => cast (c.truncate k) t
    | minus c => minus (c.truncate k)
    | call n args t => call n (args.map (·.truncate k)) t
    | e => e

@[simp] theorem truncate_zero (e : Expr) : e.truncate 0 = ellipsis := rfl

@[simp] theorem render_zero (e : Expr) : e.render 0 = "..." := by
  rw [render]

/-- Below the cut, the children of a truncated node are its children truncated one level
less. -/
theorem children_truncate_succ (e : Expr) (k : Nat) :
    (e.truncate (k + 1)).children = e.children.map (·.truncate k) := by
  cases e <;> simp [truncate, children]

/-- A tree cut below `k` levels is at most `k + 1` high. -/
theorem height_truncate_le (e : Expr) (k : Nat) : (e.truncate k).height ≤ k + 1 := by
  induction k generalizing e with
  | zero => simp [ellipsis, height_eq, children]
  | succ k ih =>
    rw [height_le_succ_iff, children_truncate_succ]
    intro c hc
    obtain ⟨d, -, rfl⟩ := List.mem_map.mp hc
    exact ih d

/-- A list renders alike at two budgets when each member does, after any change of members. -/
theorem renderList_map {f : Expr → Expr} {cs : List Expr} {k m : Nat}
    (h : ∀ c ∈ cs, (f c).render m = c.render k) :
    renderList (cs.map f) m = renderList cs k := by
  induction cs with
  | nil => simp [renderList]
  | cons c cs ih =>
    have hc := h c (List.mem_cons_self ..)
    have hrest := ih fun d hd => h d (List.mem_cons_of_mem c hd)
    cases cs with
    | nil => simp only [List.map_cons, List.map_nil, renderList, hc]
    | cons d ds =>
      simp only [List.map_cons] at hrest ⊢
      rw [renderList, renderList, hc, hrest]

/-- A tree cut below `k` levels renders, at any budget past `k`, as the tree does at budget
`k`: the cut nodes show as `...` either way. -/
theorem render_truncate (e : Expr) {k m : Nat} (h : k < m) :
    (e.truncate k).render m = e.render k := by
  induction k generalizing e m with
  | zero =>
    obtain ⟨m, rfl⟩ : ∃ m', m = m' + 1 := ⟨m - 1, by omega⟩
    rw [truncate_zero, render_zero]
    rfl
  | succ k ih =>
    obtain ⟨m, rfl⟩ : ∃ m', m = m' + 1 := ⟨m - 1, by omega⟩
    have hk : k < m := by omega
    have hlist : ∀ cs : List Expr, renderList (cs.map (·.truncate k)) m = renderList cs k :=
      fun cs => renderList_map fun c _ => ih c hk
    cases e with
    | literal v t => cases v <;> rfl
    | _ => simp only [truncate, render, ih _ hk, hlist]

/-- A budget of at least the tree's height shows the whole tree: any two such budgets give the
same text. By induction on the budget: the children fit in one level less at both budgets. -/
theorem render_eq_of_height_le {e : Expr} {m m' : Nat} (hm : e.height ≤ m)
    (hm' : e.height ≤ m') : e.render m = e.render m' := by
  induction m generalizing e m' with
  | zero => exact absurd hm (Nat.not_le.mpr (height_pos e))
  | succ m ih =>
    obtain ⟨m', rfl⟩ : ∃ k, m' = k + 1 := ⟨m' - 1, by have := height_pos e; omega⟩
    have hc := height_le_succ_iff.mp hm
    have hc' := height_le_succ_iff.mp hm'
    have hchild : ∀ c ∈ e.children, c.render m = c.render m' :=
      fun c hcm => ih (hc c hcm) (hc' c hcm)
    have hlist : ∀ cs : List Expr, (∀ c ∈ cs, c ∈ e.children) →
        renderList cs m = renderList cs m' := fun cs hcs => by
      simpa using renderList_map (f := id) fun c hcm => hchild c (hcs c hcm)
    cases e with
    | aliased c n | negation c | nullCheck _ c | cast c _ | minus c =>
      simp only [render, hchild c (by simp [children])]
    | binary op l r =>
      simp only [render, hchild l (by simp [children]), hchild r (by simp [children])]
    | cond p t f =>
      simp only [render, hchild p (by simp [children]), hchild t (by simp [children]),
        hchild f (by simp [children])]
    | isIn v cs =>
      simp only [render, hchild v (by simp [children]),
        hlist cs fun c hcm => by simp [children, hcm]]
    | call n args t => simp only [render, hlist args fun c hcm => by simpa [children] using hcm]
    | field => rfl
    | literal v t => cases v <;> rfl

/-- A budget of at least the tree's height gives its full text. -/
theorem render_eq_display_of_height_le {e : Expr} {m : Nat} (h : e.height ≤ m) :
    e.render m = e.display :=
  render_eq_of_height_le h (Nat.le_max_right _ _)

/-- The full text is the rendering with the tree's own height as budget. -/
theorem display_eq_render_height (e : Expr) : e.display = e.render e.height :=
  (render_eq_display_of_height_le (Nat.le_refl _)).symm

/-- The full text of a tree at most `usizeMax` levels high is its rendering with a budget of
`usizeMax` levels. -/
theorem display_eq_render_usizeMax {e : Expr} (h : e.height ≤ usizeMax) :
    e.display = e.render usizeMax :=
  (render_eq_display_of_height_le h).symm

/-- Rendering with a budget of `k` levels is the full rendering of the tree cut below level
`k`. So a budget of at least the depth gives the full text, a summary is the full text of every
tree at most sixteen levels deep, and two trees alike down to level sixteen, with as many
children at each node there, have the same summary. The cut tree fits in `k + 1` levels, where it
renders as the tree does at `k`. -/
theorem render_eq_display_truncate :
    (∀ (e : Expr) (k : Nat), e.render k = (e.truncate k).display) ∧
      (∀ (e : Expr) (k : Nat), e.depth ≤ k → e.render k = e.display) ∧
      (∀ e : Expr, e.depth ≤ summaryLevels → e.summary = e.display) ∧
      ∀ e₁ e₂ : Expr, e₁.truncate summaryLevels = e₂.truncate summaryLevels →
        e₁.summary = e₂.summary := by
  have hcut : ∀ (e : Expr) (k : Nat), e.render k = (e.truncate k).display := fun e k => by
    rw [← render_eq_display_of_height_le (height_truncate_le e k),
      render_truncate e (Nat.lt_succ_self k)]
  refine ⟨hcut, fun e k h => ?_, fun e h => ?_, fun e₁ e₂ h => ?_⟩
  · exact render_eq_display_of_height_le (depth_eq_height e ▸ h)
  · exact render_eq_display_of_height_le (depth_eq_height e ▸ h)
  · rw [summary, summary, hcut e₁, hcut e₂, h]

/-- A sum of two fields is summarized in full, and sixteen negations over one field have the
summary of sixteen negations over another: the fields lie at level seventeen. -/
theorem summary_sum_and_negations :
    ((add (field "a" .integer) (field "b" .integer)).depth ≤ summaryLevels ∧
        (add (field "a" .integer) (field "b" .integer)).summary =
          (add (field "a" .integer) (field "b" .integer)).display) ∧
      ((negation^[16] (field "p" .boolean)).truncate summaryLevels =
          (negation^[16] (field "q" .boolean)).truncate summaryLevels ∧
        (negation^[16] (field "p" .boolean)).summary =
          (negation^[16] (field "q" .boolean)).summary) :=
  have hdepth : (add (field "a" .integer) (field "b" .integer)).depth ≤ summaryLevels := by
    decide
  have hcut : (negation^[16] (field "p" .boolean)).truncate summaryLevels =
      (negation^[16] (field "q" .boolean)).truncate summaryLevels := rfl
  ⟨⟨hdepth, render_eq_display_truncate.2.2.1 _ hdepth⟩,
    ⟨hcut, render_eq_display_truncate.2.2.2 _ _ hcut⟩⟩

end Expr

end PmmlExport.Source
