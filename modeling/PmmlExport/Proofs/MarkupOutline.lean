import PmmlExport.Markup.Text

/-!
# Markup text determines the tree up to constant texts

Writing a markup tree loses nothing but how each constant holds its value: two trees have the
same text exactly when their outlines agree (`render_eq_render_iff`). The outline keeps the
shape, every field name, function name and argument order and every constant's type, and of a
constant's value only its markup text.

The text reads back because escaping is injective and never writes a raw `<`, `>`, `"` or `'`:
an attribute value ends at the first quote after it, and a constant's text at the first `<`.
The letters after an element's `<` tell the three kinds apart; an application is self-closing
exactly when it has no arguments, and a constant is marked missing exactly when its value has
no markup text. A child's lines are indented deeper than its parent's closing line, so the
closing line ends the argument list.
-/

namespace PmmlExport.Markup

/-- A markup tree as its text shows it: each constant keeps its markup text, `none` for a
missing one, in place of its value. -/
inductive Outline where
  | fieldRef (field : String)
  | apply (function : String) (arguments : List Outline)
  | constant (text : Option String) (dataType : ValueType)

namespace Node

mutual

/-- The outline of a markup tree. -/
def outline : Node → Outline
  | fieldRef f => .fieldRef f
  | apply f args => .apply f (outlineList args)
  | constant v t => .constant v.markupText t

/-- The outlines of a list of trees, in order. -/
def outlineList : List Node → List Outline
  | [] => []
  | n :: ns => outline n :: outlineList ns

end

/-- Every argument is smaller than its application. -/
theorem sizeOf_lt_of_mem_arguments {a n : Node} (h : a ∈ n.arguments) : sizeOf a < sizeOf n := by
  cases n with
  | apply f args =>
    have hlt := List.sizeOf_lt_of_mem (show a ∈ args from h)
    simp only [Node.apply.sizeOf_spec]
    omega
  | fieldRef _ | constant _ _ => simp [arguments] at h

/-- Induction over a markup tree through the arguments of each application. -/
@[elab_as_elim]
theorem argInduction {motive : Node → Prop}
    (step : ∀ n, (∀ a ∈ n.arguments, motive a) → motive n) (n : Node) : motive n :=
  step n fun a _ => argInduction step a
termination_by sizeOf n
decreasing_by exact sizeOf_lt_of_mem_arguments ‹_›

end Node

/-! ### Escaped text -/

theorem toList_escape (s : String) : (escape s).toList = s.toList.flatMap escapeChar := by
  simp [escape]

theorem toList_indent (d : Nat) : (indent d).toList = List.replicate (2 * d) ' ' := by
  simp [indent]

theorem escapeChar_ne_nil (c : Char) : escapeChar c ≠ [] := by
  unfold escapeChar
  split <;> simp

/-- Escaping never writes a raw `<`, `>`, `"` or `'`. -/
theorem not_mem_escapeChar {c : Char} (hc : c = '<' ∨ c = '>' ∨ c = '"' ∨ c = '\'') (d : Char) :
    c ∉ escapeChar d := by
  unfold escapeChar
  split <;> rcases hc with rfl | rfl | rfl | rfl <;> simp_all [eq_comm]

/-- The escapes of two characters are never one the start of the other: a character written
as itself is not `&`, and the five entities part before the shorter one ends. -/
theorem escapeChar_append_inj {a b : Char} {x y : List Char}
    (h : escapeChar a ++ x = escapeChar b ++ y) : a = b ∧ x = y := by
  unfold escapeChar at h
  split at h <;> split at h <;> simp_all [eq_comm]

theorem cons_ne_escapeChar_append {c d : Char} (hc : c ∉ escapeChar d) (r r' : List Char) :
    c :: r ≠ escapeChar d ++ r' := by
  intro h
  obtain ⟨x, xs, hx⟩ := List.exists_cons_of_ne_nil (escapeChar_ne_nil d)
  rw [hx, List.cons_append, List.cons.injEq] at h
  exact hc (hx ▸ h.1 ▸ List.mem_cons_self)

/-- Escaped text followed by a character that escaping never writes determines both the text
and what follows. -/
theorem flatMap_escapeChar_append_inj {c : Char} (hc : ∀ d, c ∉ escapeChar d)
    {s₁ s₂ r₁ r₂ : List Char}
    (h : s₁.flatMap escapeChar ++ c :: r₁ = s₂.flatMap escapeChar ++ c :: r₂) :
    s₁ = s₂ ∧ r₁ = r₂ := by
  induction s₁ generalizing s₂ with
  | nil =>
    cases s₂ with
    | nil => simpa using h
    | cons d ds =>
      rw [List.flatMap_nil, List.nil_append, List.flatMap_cons, List.append_assoc] at h
      exact absurd h (cons_ne_escapeChar_append (hc d) _ _)
  | cons a as ih =>
    cases s₂ with
    | nil =>
      rw [List.flatMap_nil, List.nil_append, List.flatMap_cons, List.append_assoc] at h
      exact absurd h.symm (cons_ne_escapeChar_append (hc a) _ _)
    | cons d ds =>
      rw [List.flatMap_cons, List.flatMap_cons, List.append_assoc, List.append_assoc] at h
      obtain ⟨rfl, h'⟩ := escapeChar_append_inj h
      obtain ⟨rfl, rfl⟩ := ih h'
      exact ⟨rfl, rfl⟩

/-- An attribute value, escaped, determines the text and what follows its closing quote. -/
theorem escape_quote_inj {s₁ s₂ : String} {r₁ r₂ : List Char}
    (h : s₁.toList.flatMap escapeChar ++ '"' :: r₁ = s₂.toList.flatMap escapeChar ++ '"' :: r₂) :
    s₁ = s₂ ∧ r₁ = r₂ := by
  obtain ⟨hs, hr⟩ := flatMap_escapeChar_append_inj (not_mem_escapeChar (by simp)) h
  exact ⟨String.toList_inj.mp hs, hr⟩

/-- A constant's text, escaped, determines the text and what follows from the closing tag on. -/
theorem escape_lt_inj {s₁ s₂ : String} {r₁ r₂ : List Char}
    (h : s₁.toList.flatMap escapeChar ++ '<' :: r₁ = s₂.toList.flatMap escapeChar ++ '<' :: r₂) :
    s₁ = s₂ ∧ r₁ = r₂ := by
  obtain ⟨hs, hr⟩ := flatMap_escapeChar_append_inj (not_mem_escapeChar (by simp)) h
  exact ⟨String.toList_inj.mp hs, hr⟩

/-- The four type tags are distinct and none holds a quote. -/
theorem name_quote_inj {t₁ t₂ : ValueType} {r₁ r₂ : List Char}
    (h : t₁.name.toList ++ '"' :: r₁ = t₂.name.toList ++ '"' :: r₂) : t₁ = t₂ ∧ r₁ = r₂ := by
  cases t₁ <;> cases t₂ <;> simp_all [ValueType.name]

/-! ### Elements -/

namespace Node

theorem toList_renderListAt_nil (d : Nat) : (renderListAt [] d).toList = [] := rfl

theorem toList_renderListAt_cons (n : Node) (ns : List Node) (d : Nat) :
    (renderListAt (n :: ns) d).toList = (n.renderAt d).toList ++ (renderListAt ns d).toList := by
  rw [renderListAt, String.toList_append]

/-- The characters of an application's element: its indentation and function name, then `/>`
when it has no arguments, or else `>`, its arguments' lines and its closing line. -/
theorem toList_renderAt_apply (f : String) (args : List Node) (d : Nat) :
    ((apply f args).renderAt d).toList =
      (indent d).toList ++ "<Apply function=\"".toList ++ f.toList.flatMap escapeChar ++
        '"' :: (if args.isEmpty then "/>\n".toList
          else '>' :: '\n' :: ((renderListAt args (d + 1)).toList ++
            (indent d ++ "</Apply>\n").toList)) := by
  cases args with
  | nil => simp [renderAt, toList_escape]
  | cons a as => simp [renderAt, toList_escape]

/-- Each line of a node starts with its level's indentation. -/
theorem indent_prefix_renderAt (n : Node) (d : Nat) :
    (indent d).toList <+: (n.renderAt d).toList := by
  cases n with
  | fieldRef f => simp [renderAt]
  | apply f args =>
    cases args with
    | nil => simp [renderAt]
    | cons a as => simp [renderAt]
  | constant v t =>
    simp only [renderAt]
    split <;> simp

/-- The arguments of an application, one level deeper, never start like its closing line. -/
theorem closing_ne_renderAt (d : Nat) (n : Node) (r r' : List Char) :
    (indent d ++ "</Apply>\n").toList ++ r ≠ (n.renderAt (d + 1)).toList ++ r' := by
  intro h
  obtain ⟨body, hbody⟩ := indent_prefix_renderAt n (d + 1)
  rw [← hbody, toList_indent, String.toList_append, toList_indent,
    show 2 * (d + 1) = 2 * d + 2 by omega, ← List.replicate_append_replicate] at h
  simp at h

/-- A field reference's element, followed by anything, is only the element of the same field
reference followed by the same. -/
theorem renderAt_fieldRef_append_inj {f : String} {n : Node} {d : Nat} {r₁ r₂ : List Char}
    (h : ((fieldRef f).renderAt d).toList ++ r₁ = (n.renderAt d).toList ++ r₂) :
    (fieldRef f).outline = n.outline ∧ r₁ = r₂ := by
  rcases n with f' | ⟨f', _ | ⟨a, as⟩⟩ | ⟨v, t⟩
  · simp only [renderAt, String.toList_append, toList_escape, toList_indent,
      String.reduceToList, List.append_assoc, List.cons_append, List.nil_append,
      List.append_cancel_left_eq, List.cons.injEq, true_and] at h
    obtain ⟨rfl, hr⟩ := escape_quote_inj h
    exact ⟨rfl, by simpa using hr⟩
  · simp [renderAt, toList_escape, toList_indent] at h
  · simp [renderAt, toList_escape, toList_indent] at h
  · simp only [renderAt] at h
    split at h <;> simp [toList_escape, toList_indent] at h

/-- A constant's element, followed by anything, is only the element of a constant of the same
type and markup text followed by the same: its type tag comes first, then its text or the
missing mark. -/
theorem renderAt_constant_append_inj {v : Literal} {t : ValueType} {n : Node} {d : Nat}
    {r₁ r₂ : List Char}
    (h : ((constant v t).renderAt d).toList ++ r₁ = (n.renderAt d).toList ++ r₂) :
    (constant v t).outline = n.outline ∧ r₁ = r₂ := by
  rcases n with f' | ⟨f', _ | ⟨a, as⟩⟩ | ⟨v', t'⟩
  · simp only [renderAt] at h
    split at h <;> simp [toList_escape, toList_indent] at h
  · simp only [renderAt] at h
    split at h <;> simp [toList_escape, toList_indent] at h
  · simp only [renderAt] at h
    split at h <;> simp [toList_escape, toList_indent] at h
  · simp only [renderAt, outline, Outline.constant.injEq] at h ⊢
    split at h <;> split at h <;>
      simp only [String.toList_append, toList_escape, toList_indent,
        String.reduceToList, List.append_assoc, List.cons_append, List.nil_append,
        List.append_cancel_left_eq, List.cons.injEq, true_and] at h
    · next _ text hv _ text' hv' =>
      obtain ⟨rfl, h'⟩ := name_quote_inj h
      obtain ⟨rfl, hr⟩ := escape_lt_inj (List.cons.inj h').2
      exact ⟨⟨by rw [hv, hv'], rfl⟩, by simpa using hr⟩
    · obtain ⟨-, h'⟩ := name_quote_inj h
      simp at h'
    · obtain ⟨-, h'⟩ := name_quote_inj h
      simp at h'
    · next _ hv _ hv' =>
      obtain ⟨rfl, hr⟩ := name_quote_inj h
      exact ⟨⟨by rw [hv, hv'], rfl⟩, by simpa using hr⟩

/-- A node's lines, followed by anything, determine the node's outline and what follows. By
induction on the node: an element's function name comes first, then whether it closes itself,
and the lines of its arguments, followed by its closing line, determine their outlines. -/
theorem renderAt_append_inj {n₁ : Node} : ∀ {n₂ : Node} {d : Nat} {r₁ r₂ : List Char},
    (n₁.renderAt d).toList ++ r₁ = (n₂.renderAt d).toList ++ r₂ →
      n₁.outline = n₂.outline ∧ r₁ = r₂ := by
  induction n₁ using argInduction with
  | step n₁ ih =>
    intro n₂ d r₁ r₂ h
    have hargs : ∀ as₁ : List Node, (∀ a ∈ as₁, a ∈ n₁.arguments) → ∀ as₂ r₁ r₂,
        (renderListAt as₁ (d + 1)).toList ++ ((indent d ++ "</Apply>\n").toList ++ r₁) =
          (renderListAt as₂ (d + 1)).toList ++ ((indent d ++ "</Apply>\n").toList ++ r₂) →
        outlineList as₁ = outlineList as₂ ∧ r₁ = r₂ := by
      intro as₁ hmem
      induction as₁ with
      | nil =>
        intro as₂ r₁ r₂ hl
        cases as₂ with
        | nil => simpa [renderListAt, outlineList] using hl
        | cons a as =>
          rw [toList_renderListAt_nil, List.nil_append, toList_renderListAt_cons,
            List.append_assoc] at hl
          exact absurd hl (closing_ne_renderAt d a _ _)
      | cons a as ihas =>
        intro as₂ r₁ r₂ hl
        cases as₂ with
        | nil =>
          rw [toList_renderListAt_nil, List.nil_append, toList_renderListAt_cons,
            List.append_assoc] at hl
          exact absurd hl.symm (closing_ne_renderAt d a _ _)
        | cons a' as' =>
          rw [toList_renderListAt_cons, toList_renderListAt_cons, List.append_assoc,
            List.append_assoc] at hl
          obtain ⟨ha, hrest⟩ := ih a (hmem a List.mem_cons_self) hl
          obtain ⟨has, hr⟩ := ihas (fun b hb => hmem b (List.mem_cons_of_mem _ hb)) as' r₁ r₂ hrest
          exact ⟨by rw [outlineList, outlineList, ha, has], hr⟩
    rcases n₁ with f₁ | ⟨f₁, args₁⟩ | ⟨v₁, t₁⟩
    · exact renderAt_fieldRef_append_inj h
    · rcases n₂ with f₂ | ⟨f₂, args₂⟩ | ⟨v₂, t₂⟩
      · obtain ⟨ho, hr⟩ := renderAt_fieldRef_append_inj h.symm
        exact ⟨ho.symm, hr.symm⟩
      · rw [toList_renderAt_apply, toList_renderAt_apply] at h
        simp only [List.append_assoc, List.append_cancel_left_eq] at h
        obtain ⟨rfl, h'⟩ := escape_quote_inj h
        rcases args₁ with _ | ⟨a₁, as₁⟩ <;> rcases args₂ with _ | ⟨a₂, as₂⟩
        · exact ⟨rfl, by simpa using h'⟩
        · simp at h'
        · simp at h'
        · simp only [List.isEmpty_cons, Bool.false_eq_true, ↓reduceIte, List.append_eq,
            List.cons_append, List.cons.injEq, true_and, List.append_assoc] at h'
          obtain ⟨has, hr⟩ := hargs (a₁ :: as₁) (fun a ha => ha) (a₂ :: as₂) r₁ r₂ h'
          exact ⟨by rw [outline, outline, has], hr⟩
      · obtain ⟨ho, hr⟩ := renderAt_constant_append_inj h.symm
        exact ⟨ho.symm, hr.symm⟩
    · exact renderAt_constant_append_inj h

/-- Nodes of one outline have the same lines at every level. -/
theorem renderAt_eq_of_outline_eq {n₁ : Node} : ∀ {n₂ : Node} {d : Nat},
    n₁.outline = n₂.outline → n₁.renderAt d = n₂.renderAt d := by
  induction n₁ using argInduction with
  | step n₁ ih =>
    intro n₂ d h
    rcases n₁ with f₁ | ⟨f₁, args₁⟩ | ⟨v₁, t₁⟩ <;> rcases n₂ with f₂ | ⟨f₂, args₂⟩ | ⟨v₂, t₂⟩ <;>
      simp only [outline, Outline.fieldRef.injEq, Outline.apply.injEq, Outline.constant.injEq,
        reduceCtorEq] at h
    · rw [h]
    · obtain ⟨rfl, hargs⟩ := h
      have hlist : ∀ as₁ : List Node, (∀ a ∈ as₁, a ∈ args₁) → ∀ as₂ : List Node,
          outlineList as₁ = outlineList as₂ → renderListAt as₁ (d + 1) = renderListAt as₂ (d + 1) := by
        intro as₁ hmem
        induction as₁ with
        | nil =>
          intro as₂ has
          cases as₂ with
          | nil => rfl
          | cons a as => simp [outlineList] at has
        | cons a as ihas =>
          intro as₂ has
          cases as₂ with
          | nil => simp [outlineList] at has
          | cons a' as' =>
            simp only [outlineList, List.cons.injEq] at has
            rw [renderListAt, renderListAt, ih a (hmem a List.mem_cons_self) has.1,
              ihas (fun b hb => hmem b (List.mem_cons_of_mem _ hb)) as' has.2]
      rcases args₁ with _ | ⟨a₁, as₁⟩ <;> rcases args₂ with _ | ⟨a₂, as₂⟩
      · rfl
      · simp [outlineList] at hargs
      · simp [outlineList] at hargs
      · simp only [renderAt]
        rw [hlist (a₁ :: as₁) (fun a ha => ha) (a₂ :: as₂) hargs]
    · obtain ⟨hv, rfl⟩ := h
      simp only [renderAt, hv]

end Node

/-- Two markup trees have the same text exactly when their outlines agree, and the display of a
tree is its markup text. -/
theorem render_eq_render_iff_outline_eq :
    (∀ n₁ n₂ : Node, n₁.render = n₂.render ↔ n₁.outline = n₂.outline) ∧
      ∀ n : Node, n.display = n.render := by
  refine ⟨fun n₁ n₂ => ⟨fun h => ?_, fun h => Node.renderAt_eq_of_outline_eq h⟩, fun n => rfl⟩
  have hchars : (n₁.renderAt 0).toList ++ [] = (n₂.renderAt 0).toList ++ [] := by
    rw [← Node.render, h, Node.render]
  exact (Node.renderAt_append_inj hchars).1

/-- A constant's value is lost where its text is kept: the integer 5 and the string "5". -/
example : (Node.constant (.integer 5) .string).render = (Node.constant (.string "5") .string).render := by
  decide

end PmmlExport.Markup
