import PmmlExport.Proofs.JsonLaws
import PmmlExport.Proofs.FirstFault

/-!
# Expressions read from their JSON text

An expression is exchanged as the JSON text of its datum, written and read by a JSON library.
Every expression without a double literal conforms to the expression format
(`Source.Expr.conforms_toDatum`) and decodes back from its datum (`Source.Expr.ofDatum_toDatum`).
So, through any library that reads back what it writes and stops at the 128th nested container,
its text is read back as the expression itself when the text nests at most 127 containers deep,
and is refused as too deep otherwise (`Source.Expr.readWith_toText`).

Every node of a tree opens one more container of its text, and a leaf two, so whatever a library
that refuses the 128th container reads is at most 126 levels deep: the translator's depth bound,
at 126 or more, never rejects it (`Source.Expr.depth_le_of_readWith`). Negations nested 125 times
around a field reference reach that depth.
-/

namespace PmmlExport

open Interchange Json

/-! ## Double literals -/

/-- Whether a literal value is a double. -/
def Literal.isDouble : Literal → Bool
  | .double _ => true
  | _ => false

namespace Source.Expr

/-- Whether the node is a literal whose value is a double. -/
def isDoubleLiteral : Expr → Bool
  | literal v _ => v.isDouble
  | _ => false

/-- Whether some node of the tree is a double literal. -/
def hasDoubleLiteral : Expr → Bool :=
  fold fun e bs => e.isDoubleLiteral || bs.any id

theorem hasDoubleLiteral_eq (e : Expr) :
    e.hasDoubleLiteral = (e.isDoubleLiteral || e.children.any hasDoubleLiteral) := by
  rw [hasDoubleLiteral, fold_eq, List.any_map]
  rfl

theorem hasDoubleLiteral_child {e c : Expr} (he : e.hasDoubleLiteral = false)
    (hc : c ∈ e.children) : c.hasDoubleLiteral = false := by
  rw [hasDoubleLiteral_eq, Bool.or_eq_false_iff, List.any_eq_false] at he
  simpa using he.2 c hc

end Source.Expr

/-! ## The expression format -/

mutual

/-- Every source type conforms to the format of source types. -/
theorem Source.DataType.conforms_toDatum :
    (t : Source.DataType) → Conforms Form.definition (.named .dataType) t.toDatum
  | .string => .tag rfl rfl
  | .byte => .tag rfl rfl
  | .short => .tag rfl rfl
  | .integer => .tag rfl rfl
  | .long => .tag rfl rfl
  | .float => .tag rfl rfl
  | .double => .tag rfl rfl
  | .boolean => .tag rfl rfl
  | .decimal p s =>
    .fields rfl rfl rfl (by decide)
      (Conforms.zip_cons (.byte p) (Conforms.zip_cons (.byte s) Conforms.zip_nil))
  | .date => .tag rfl rfl
  | .timestamp => .tag rfl rfl
  | .binary => .tag rfl rfl
  | .null => .tag rfl rfl
  | .array e c => .fields rfl rfl rfl (by decide)
      (Conforms.zip_cons (Source.DataType.conforms_toDatum e)
        (Conforms.zip_cons (.bool c) Conforms.zip_nil))
  | .struct fs => .single rfl rfl (.seq (Source.StructField.conforms_listToDatum fs))

/-- The fields of a record type conform to the format of struct fields. -/
theorem Source.StructField.conforms_listToDatum : (fs : List Source.StructField) →
    ∀ d ∈ Source.StructField.listToDatum fs, Conforms Form.definition (.named .structField) d
  | [] => by simp [Source.StructField.listToDatum]
  | .mk n t b :: fs => by
    intro d hd
    rw [Source.StructField.listToDatum, List.mem_cons] at hd
    rcases hd with rfl | hd
    · exact .record rfl rfl (by decide) (Conforms.zip_cons (.string n)
        (Conforms.zip_cons (Source.DataType.conforms_toDatum t)
          (Conforms.zip_cons (.bool b) Conforms.zip_nil)))
    · exact Source.StructField.conforms_listToDatum fs d hd

end

/-- A literal value other than a double conforms to the format of literal values. -/
theorem Literal.conforms_toDatum {v : Literal} (hv : v.isDouble = false) :
    Conforms Form.definition (.named .literal) v.toDatum := by
  cases v with
  | null => exact .tag rfl rfl
  | boolean b => exact .single rfl rfl (.bool b)
  | integer n => exact .single rfl rfl (.int64 n)
  | double x => cases hv
  | string s => exact .single rfl rfl (.string s)

theorem Source.BinaryOperator.conforms_tag (op : Source.BinaryOperator) :
    Conforms Form.definition (.named .binaryOperator) (.tag op.nodeName) := by
  cases op <;> exact .tag rfl rfl

theorem Source.NullCheck.conforms_tag (k : Source.NullCheck) :
    Conforms Form.definition (.named .nullCheck) (.tag k.nodeName) := by
  cases k <;> exact .tag rfl rfl

namespace Source.Expr

theorem listToDatum_eq_map (es : List Expr) : listToDatum es = es.map toDatum := by
  induction es with
  | nil => rfl
  | cons e es ih => rw [listToDatum, ih, List.map_cons]

/-- Every expression without a double literal conforms to the expression format. -/
theorem conforms_toDatum (e : Expr) (he : e.hasDoubleLiteral = false) :
    Conforms Form.definition (.named .expression) e.toDatum := by
  induction e using childInduction with
  | step e ih =>
    have hchild : ∀ c ∈ e.children, Conforms Form.definition (.named .expression) c.toDatum :=
      fun c hc => ih c hc (hasDoubleLiteral_child he hc)
    have hlist : ∀ cs : List Expr, (∀ c ∈ cs, c ∈ e.children) →
        ∀ d ∈ listToDatum cs, Conforms Form.definition (.named .expression) d := by
      intro cs hcs d hd
      rw [listToDatum_eq_map, List.mem_map] at hd
      obtain ⟨c, hc, rfl⟩ := hd
      exact hchild c (hcs c hc)
    cases e with
    | aliased c n =>
      exact .fields rfl rfl rfl (by decide)
        (Conforms.zip_cons (hchild c (by simp [children]))
          (Conforms.zip_cons (.string n) Conforms.zip_nil))
    | field n t =>
      exact .fields rfl rfl rfl (by decide)
        (Conforms.zip_cons (.string n) (Conforms.zip_cons t.conforms_toDatum Conforms.zip_nil))
    | binary op l r =>
      exact .fields rfl rfl rfl (by decide) (Conforms.zip_cons op.conforms_tag
        (Conforms.zip_cons (hchild l (by simp [children]))
          (Conforms.zip_cons (hchild r (by simp [children])) Conforms.zip_nil)))
    | cond p t f =>
      exact .fields rfl rfl rfl (by decide) (Conforms.zip_cons (hchild p (by simp [children]))
        (Conforms.zip_cons (hchild t (by simp [children]))
          (Conforms.zip_cons (hchild f (by simp [children])) Conforms.zip_nil)))
    | isIn v cs =>
      exact .fields rfl rfl rfl (by decide) (Conforms.zip_cons (hchild v (by simp [children]))
        (Conforms.zip_cons (.seq (hlist cs fun c hc => by simp [children, hc])) Conforms.zip_nil))
    | literal v t =>
      have hv : v.isDouble = false := by
        simpa [hasDoubleLiteral_eq, isDoubleLiteral, children] using he
      exact .fields rfl rfl rfl (by decide)
        (Conforms.zip_cons (Literal.conforms_toDatum hv)
          (Conforms.zip_cons t.conforms_toDatum Conforms.zip_nil))
    | negation c => exact .single rfl rfl (hchild c (by simp [children]))
    | nullCheck k c =>
      exact .fields rfl rfl rfl (by decide)
        (Conforms.zip_cons k.conforms_tag
          (Conforms.zip_cons (hchild c (by simp [children])) Conforms.zip_nil))
    | cast c t =>
      exact .fields rfl rfl rfl (by decide)
        (Conforms.zip_cons (hchild c (by simp [children]))
          (Conforms.zip_cons t.conforms_toDatum Conforms.zip_nil))
    | minus c => exact .single rfl rfl (hchild c (by simp [children]))
    | call n args t =>
      exact .fields rfl rfl rfl (by decide) (Conforms.zip_cons (.string n)
        (Conforms.zip_cons (.seq (hlist args fun c hc => by simpa [children] using hc))
          (Conforms.zip_cons t.conforms_toDatum Conforms.zip_nil)))

end Source.Expr

/-! ## Decoding what was encoded -/

theorem Literal.ofDatum_toDatum (v : Literal) : Literal.ofDatum v.toDatum = some v := by
  cases v <;> rfl

theorem Source.BinaryOperator.ofDatum_tag (op : Source.BinaryOperator) :
    Source.BinaryOperator.ofDatum (.tag op.nodeName) = some op := by
  cases op <;> rfl

theorem Source.NullCheck.ofDatum_tag (k : Source.NullCheck) :
    Source.NullCheck.ofDatum (.tag k.nodeName) = some k := by
  cases k <;> rfl

mutual

/-- Every source type decodes back from its datum. The containers are read through the
decoder's own cases, not its equation lemmas, which are slow to build. -/
theorem Source.DataType.ofDatum_toDatum :
    (t : Source.DataType) → Source.DataType.ofDatum t.toDatum = some t
  | .string => rfl
  | .byte => rfl
  | .short => rfl
  | .integer => rfl
  | .long => rfl
  | .float => rfl
  | .double => rfl
  | .boolean => rfl
  | .decimal _ _ => rfl
  | .date => rfl
  | .timestamp => rfl
  | .binary => rfl
  | .null => rfl
  | .array e c => by
    show (Source.DataType.ofDatum e.toDatum).map (Source.DataType.array · c) = _
    rw [Source.DataType.ofDatum_toDatum e]
    rfl
  | .struct fs => by
    show (Source.StructField.listOfDatum (Source.StructField.listToDatum fs)).map
      Source.DataType.struct = _
    rw [Source.StructField.listOfDatum_listToDatum fs]
    rfl

theorem Source.StructField.listOfDatum_listToDatum : (fs : List Source.StructField) →
    Source.StructField.listOfDatum (Source.StructField.listToDatum fs) = some fs
  | [] => rfl
  | .mk n t b :: fs => by
    rw [Source.StructField.listToDatum, Source.StructField.listOfDatum,
      Source.DataType.ofDatum_toDatum t, Source.StructField.listOfDatum_listToDatum fs]

end

namespace Source.Expr

mutual

/-- Every expression decodes back from its datum. -/
theorem ofDatum_toDatum : (e : Expr) → ofDatum e.toDatum = some e
  | .aliased c n => by
    rw [toDatum, ofDatum, ofDatum_toDatum c]
    rfl
  | .field n t => by
    rw [toDatum, ofDatum, DataType.ofDatum_toDatum t]
    rfl
  | .binary op l r => by
    rw [toDatum, ofDatum, BinaryOperator.ofDatum_tag, ofDatum_toDatum l, ofDatum_toDatum r]
  | .cond p t f => by
    rw [toDatum, ofDatum, ofDatum_toDatum p, ofDatum_toDatum t, ofDatum_toDatum f]
  | .isIn v cs => by
    rw [toDatum, ofDatum, ofDatum_toDatum v, listOfDatum_listToDatum cs]
  | .literal v t => by
    rw [toDatum, ofDatum, Literal.ofDatum_toDatum v, DataType.ofDatum_toDatum t]
  | .negation c => by
    rw [toDatum, ofDatum, ofDatum_toDatum c]
    rfl
  | .nullCheck k c => by
    rw [toDatum, ofDatum, NullCheck.ofDatum_tag, ofDatum_toDatum c]
  | .cast c t => by
    rw [toDatum, ofDatum, ofDatum_toDatum c, DataType.ofDatum_toDatum t]
  | .minus c => by
    rw [toDatum, ofDatum, ofDatum_toDatum c]
    rfl
  | .call n args t => by
    rw [toDatum, ofDatum, listOfDatum_listToDatum args, DataType.ofDatum_toDatum t]

theorem listOfDatum_listToDatum : (es : List Expr) → listOfDatum (listToDatum es) = some es
  | [] => rfl
  | e :: es => by
    rw [listToDatum, listOfDatum, ofDatum_toDatum e, listOfDatum_listToDatum es]

end

end Source.Expr

/-! ## Reading an expression's text -/

namespace Source.Expr

variable {lib : JsonLibrary}

/-- The text of an expression without a double literal that nests at most 127 containers is read
back as the expression, through a library that reads back what it writes. -/
theorem readWith_of_nesting_le (hback : lib.ReadsBack) {e : Expr}
    (he : e.hasDoubleLiteral = false) (hn : e.toJson.nesting ≤ 127) :
    readWith lib (e.toText lib).toUTF8 = .ok e := by
  have hread := hback .expression e.toDatum (conforms_toDatum e he) hn
  rw [readWith, toText, Expr.toJson, hread]
  simp only [ofDatum_toDatum]

/-- An expression read through a library that refuses the 128th nested container is at most
126 levels high: each node opens a container of the text, and a leaf two. -/
theorem height_le_of_readWith (hdeep : lib.RefusesDeepNesting) {input : ByteArray} {e : Expr}
    (h : readWith lib input = .ok e) : e.height ≤ 126 := by
  unfold readWith at h
  split at h
  · cases h
  · next d hd =>
    split at h
    · next e' he =>
      cases h
      have hlt := height_lt_nesting_of_ofDatum he
      have hle := hdeep .expression input d hd
      rw [Datum.nesting_toJson] at hle
      omega
    · cases h

/-- An expression read through a library that refuses the 128th nested container, from any
bytes, is at most 126 levels deep. A depth bound of 126 or more is then never exceeded, so the
translator is its recursive specification, and translating fails only on an unsupported
construct. -/
theorem depth_le_of_readWith (lib : JsonLibrary) (hdeep : lib.RefusesDeepNesting)
    {input : ByteArray} {e : Expr} (h : readWith lib input = .ok e) :
    e.depth ≤ 126 ∧ ∀ cfg : Translate.Config, (∀ m ∈ cfg.maxDepth, 126 ≤ m) →
      ∀ r, Translate.translate cfg e = .error r → r.isUnsupported = true := by
  have hheight : e.height ≤ 126 := height_le_of_readWith hdeep h
  refine ⟨depth_eq_height e ▸ hheight, fun cfg hcfg r hr => ?_⟩
  have hwithin : ∀ m ∈ cfg.maxDepth, e.exceedsDepth m = false := fun m hm =>
    exceedsDepth_eq_false_iff.mpr (Nat.le_trans hheight (hcfg m hm))
  rw [Translate.translate_eq_reference_of_depth hwithin] at hr
  exact Translate.reference_error_isUnsupported hr

/-- A tree under `n` negations. -/
def negated : Nat → Expr → Expr
  | 0, e => e
  | n + 1, e => negation (negated n e)

theorem height_negated (n : Nat) (e : Expr) : (negated n e).height = e.height + n := by
  induction n with
  | zero => rfl
  | succ n ih =>
    rw [negated, height_eq, children]
    simp only [List.map_cons, List.map_nil, List.foldr_cons, List.foldr_nil, Nat.max_zero, ih]
    omega

theorem nesting_toJson_negated (n : Nat) (e : Expr) :
    (negated n e).toJson.nesting = e.toJson.nesting + n := by
  induction n with
  | zero => rfl
  | succ n ih =>
    rw [negated, Expr.toJson, Datum.nesting_toJson, toDatum, Datum.nesting,
      ← Datum.nesting_toJson, ← Expr.toJson, ih]
    omega

theorem hasDoubleLiteral_negated (n : Nat) {e : Expr}
    (he : e.hasDoubleLiteral = false) :
    (negated n e).hasDoubleLiteral = false := by
  induction n with
  | zero => exact he
  | succ n ih =>
    rw [negated, hasDoubleLiteral_eq]
    simp [isDoubleLiteral, children, ih]

/-- The bound is reached: a field reference under 125 negations, written and read by the
library's own writer and reader, comes back as itself, and it is 126 levels deep. -/
theorem depth_le_of_readWith_negated :
    readWith .builtin ((negated 125 (field "p" .boolean)).toText .builtin).toUTF8 =
        .ok (negated 125 (field "p" .boolean)) ∧
      (negated 125 (field "p" .boolean)).depth = 126 ∧
      ((negated 125 (field "p" .boolean)).depth ≤ 126 ∧
        ∀ cfg : Translate.Config, (∀ m ∈ cfg.maxDepth, 126 ≤ m) → ∀ r,
          Translate.translate cfg (negated 125 (field "p" .boolean)) = .error r →
            r.isUnsupported = true) := by
  have hfield : (field "p" .boolean).hasDoubleLiteral = false := rfl
  have hread := readWith_of_nesting_le JsonLibrary.builtin_readsBack
    (hasDoubleLiteral_negated 125 hfield) (by rw [nesting_toJson_negated]; decide)
  have hdepth : (negated 125 (field "p" .boolean)).depth = 126 := by
    rw [depth_eq_height, height_negated]
    rfl
  exact ⟨hread, hdepth, depth_le_of_readWith .builtin JsonLibrary.builtin_refusesDeepNesting hread⟩

end Source.Expr

end PmmlExport
