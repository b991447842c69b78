import PmmlExport.Source.DataType

/-!
# Same types and acceptance

Two types are the same when they agree once every nullability flag of their arrays and record
fields is set alike: `sameType` is equality of the erased types (`sameType_iff_erase`). So it is
an equivalence, acceptance and the type names see a type only through its erasure, and both
respect `sameType` in each argument. Acceptance goes one way only, up to the same type: two types
that accept each other are the same.
-/

namespace PmmlExport.Source

namespace DataType

mutual

/-- The type with every nullability flag set, as a representative of its same-type class. -/
def erase : DataType → DataType
  | array e _ => array (erase e) true
  | struct fs => struct (eraseFields fs)
  | t => t

/-- The fields with their types erased and every field nullable. -/
def eraseFields : List StructField → List StructField
  | [] => []
  | .mk n t _ :: fs => .mk n (erase t) true :: eraseFields fs

end

mutual

/-- Erasing twice is erasing once. -/
theorem erase_erase (a : DataType) : a.erase.erase = a.erase := by
  cases a <;> simp [erase, erase_erase, eraseFields_eraseFields]

theorem eraseFields_eraseFields (fs : List StructField) :
    eraseFields (eraseFields fs) = eraseFields fs := by
  cases fs with
  | nil => rfl
  | cons f fs =>
    cases f
    simp [eraseFields, erase_erase, eraseFields_eraseFields]

end

mutual

/-- Two types are the same exactly when their erasures are equal. -/
theorem sameType_iff_erase (a b : DataType) : a.sameType b = true ↔ a.erase = b.erase := by
  cases a <;> cases b <;>
    simp [sameType, beq, erase, sameType_iff_erase, sameFields_iff_eraseFields]

theorem sameFields_iff_eraseFields (fs gs : List StructField) :
    sameFields fs gs = true ↔ eraseFields fs = eraseFields gs := by
  cases fs with
  | nil =>
    cases gs with
    | nil => simp [sameFields, eraseFields]
    | cons g gs =>
      cases g
      simp [sameFields, eraseFields]
  | cons f fs =>
    cases gs with
    | nil =>
      cases f
      simp [sameFields, eraseFields]
    | cons g gs =>
      cases f
      cases g
      simp [sameFields, eraseFields, sameType_iff_erase, sameFields_iff_eraseFields]

end

@[simp] theorem sameType_refl (a : DataType) : a.sameType a = true :=
  (sameType_iff_erase a a).mpr rfl

theorem sameType_comm (a b : DataType) : a.sameType b = b.sameType a := by
  rw [Bool.eq_iff_iff, sameType_iff_erase, sameType_iff_erase, eq_comm]

theorem sameType_trans {a b c : DataType} (hab : a.sameType b = true)
    (hbc : b.sameType c = true) : a.sameType c = true := by
  rw [sameType_iff_erase] at hab hbc ⊢
  exact hab.trans hbc

/-- Erasing both sides keeps the answer of `sameType`. -/
theorem sameType_erase (a b : DataType) : a.erase.sameType b.erase = a.sameType b := by
  rw [Bool.eq_iff_iff, sameType_iff_erase, sameType_iff_erase, erase_erase, erase_erase]

/-- Acceptance sees its arguments only through their erasures: the widening table only names
types whose erasure is themselves. -/
theorem accepts_erase (a b : DataType) : a.erase.accepts b.erase = a.accepts b := by
  unfold accepts
  rw [sameType_erase]
  cases a <;> cases b <;> rfl

/-- `sameType` respects `sameType` in both arguments. -/
theorem sameType_congr {a a' b b' : DataType} (ha : a.sameType a' = true)
    (hb : b.sameType b' = true) : a.sameType b = a'.sameType b' := by
  rw [← sameType_erase a b, ← sameType_erase a' b', (sameType_iff_erase a a').mp ha,
    (sameType_iff_erase b b').mp hb]

/-- Acceptance respects `sameType` in both arguments. -/
theorem accepts_congr {a a' b b' : DataType} (ha : a.sameType a' = true)
    (hb : b.sameType b' = true) : a.accepts b = a'.accepts b' := by
  rw [← accepts_erase a b, ← accepts_erase a' b', (sameType_iff_erase a a').mp ha,
    (sameType_iff_erase b b').mp hb]

/-- Two types that accept each other are the same: the widening table never goes both ways. -/
theorem sameType_of_accepts_of_accepts {a b : DataType} (hab : a.accepts b = true)
    (hba : b.accepts a = true) : a.sameType b = true := by
  by_cases hs : a.sameType b = true
  · exact hs
  · have hs' : b.sameType a = false := by
      rw [sameType_comm]
      simpa using hs
    rw [Bool.not_eq_true] at hs
    unfold accepts at hab hba
    rw [hs, Bool.false_or] at hab
    rw [hs', Bool.false_or] at hba
    cases a <;> cases b <;> simp [isIntegral] at hab hba

/-! ### The widening chain -/

/-- The position of a numeric type on the widening chain
`tinyint < smallint < int < bigint < float < double`; the other types are off it. -/
def wideningRank : DataType → Option Nat
  | byte => some 0
  | short => some 1
  | integer => some 2
  | long => some 3
  | float => some 4
  | double => some 5
  | _ => none

/-- The widening table is the order of the chain: a type accepts another exactly when they are
the same or the other lies strictly lower on the chain. -/
theorem accepts_iff_sameType_or_lower {a b : DataType} :
    a.accepts b = true ↔ a.sameType b = true ∨
      ∃ i j, b.wideningRank = some i ∧ a.wideningRank = some j ∧ i < j := by
  unfold accepts
  rw [Bool.or_eq_true]
  refine or_congr_right ?_
  cases a <;> cases b <;> simp [wideningRank, isIntegral]

theorem accepts_of_sameType {a b : DataType} (h : a.sameType b = true) : a.accepts b = true :=
  accepts_iff_sameType_or_lower.mpr (.inl h)

@[simp] theorem accepts_refl (a : DataType) : a.accepts a = true :=
  accepts_of_sameType (sameType_refl a)

/-- Acceptance is transitive: a same-type step is absorbed by congruence, and two steps down the
chain make one. -/
theorem accepts_trans {a b c : DataType} (hab : a.accepts b = true) (hbc : b.accepts c = true) :
    a.accepts c = true := by
  rcases accepts_iff_sameType_or_lower.mp hab with hsame | ⟨i, j, hb, ha, hij⟩
  · rwa [accepts_congr hsame (sameType_refl c)]
  · rcases accepts_iff_sameType_or_lower.mp hbc with hsame | ⟨k, l, hc, hb', hkl⟩
    · rwa [← accepts_congr (sameType_refl a) hsame]
    · obtain rfl : l = i := Option.some.inj (hb'.symm.trans hb)
      exact accepts_iff_sameType_or_lower.mpr (.inr ⟨k, j, hc, ha, Nat.lt_trans hkl hij⟩)

/-- Acceptance is a preorder on types whose two-way part is `sameType`, an equivalence that
acceptance respects in both arguments: two types accept each other exactly when they are the
same. -/
theorem accepts_preorder_sameType_core :
    (∀ a : DataType, a.sameType a = true) ∧
      (∀ a b : DataType, a.sameType b = b.sameType a) ∧
      (∀ a b c : DataType, a.sameType b = true → b.sameType c = true → a.sameType c = true) ∧
      (∀ a : DataType, a.accepts a = true) ∧
      (∀ a b c : DataType, a.accepts b = true → b.accepts c = true → a.accepts c = true) ∧
      (∀ a b : DataType, a.accepts b = true ∧ b.accepts a = true ↔ a.sameType b = true) ∧
      ∀ a a' b b' : DataType, a.sameType a' = true → b.sameType b' = true →
        a.accepts b = a'.accepts b' := by
  refine ⟨sameType_refl, sameType_comm, fun _ _ _ => sameType_trans, accepts_refl,
    fun _ _ _ => accepts_trans, fun a b => ⟨fun h => sameType_of_accepts_of_accepts h.1 h.2,
      fun h => ⟨accepts_of_sameType h, accepts_of_sameType ?_⟩⟩, fun _ _ _ _ => accepts_congr⟩
  rwa [sameType_comm]

/-- Along the chain `tinyint < bigint < double` acceptance composes; records whose field is an
array of `bigint` are the same whatever their nullability flags, and accept alike; arrays of
`int` that differ in their nullability accept each other, being the same type. -/
theorem accepts_preorder_chain_and_records :
    (long.accepts byte = true ∧ double.accepts long = true ∧ double.accepts byte = true) ∧
      (struct [.mk "x" (arrayOf long) true]).sameType
          (struct [.mk "x" (array long false) true]) = true ∧
      (struct [.mk "x" (arrayOf long) true]).sameType
          (struct [.mk "x" (array long true) false]) = true ∧
      (struct [.mk "x" (arrayOf long) true]).accepts (arrayOf integer) =
        (struct [.mk "x" (array long false) true]).accepts (array integer false) ∧
      ((arrayOf integer).accepts (array integer false) = true ∧
        (array integer false).accepts (arrayOf integer) = true ∧
        (arrayOf integer).sameType (array integer false) = true) :=
  have hlong : long.accepts byte = true := by decide
  have hdouble : double.accepts long = true := by decide
  have hrec : (struct [.mk "x" (arrayOf long) true]).sameType
      (struct [.mk "x" (array long false) true]) = true := by decide
  have hrec' : (struct [.mk "x" (array long false) true]).sameType
      (struct [.mk "x" (array long true) false]) = true := by decide
  have harr : (arrayOf integer).sameType (array integer false) = true := by decide
  have hthere : (arrayOf integer).accepts (array integer false) = true := by decide
  have hback : (array integer false).accepts (arrayOf integer) = true := by decide
  ⟨⟨hlong, hdouble, accepts_preorder_sameType_core.2.2.2.2.1 _ _ _ hdouble hlong⟩, hrec,
    accepts_preorder_sameType_core.2.2.1 _ _ _ hrec hrec',
    accepts_preorder_sameType_core.2.2.2.2.2.2 _ _ _ _ hrec harr,
    ⟨hthere, hback, (accepts_preorder_sameType_core.2.2.2.2.2.1 _ _).mp ⟨hthere, hback⟩⟩⟩

mutual

/-- Type names do not show nullability. -/
theorem typeName_erase (a : DataType) : a.erase.typeName = a.typeName := by
  cases a <;> simp [erase, typeName, typeName_erase, fieldNames_eraseFields]

theorem fieldNames_eraseFields (fs : List StructField) :
    fieldNames (eraseFields fs) = fieldNames fs := by
  match fs with
  | [] => rfl
  | [.mk n t b] => simp [eraseFields, fieldNames, typeName_erase]
  | .mk n t b :: f :: fs =>
    have hrest := fieldNames_eraseFields (f :: fs)
    cases f
    simp only [eraseFields] at hrest ⊢
    simp [fieldNames, typeName_erase, hrest]

end

end DataType

end PmmlExport.Source
