import PmmlExport.Proofs.ReaderSteps
import PmmlExport.Proofs.Traversal
import PmmlExport.Interchange.Exchange

/-!
# How deep read data nest

A datum nests in containers: a sequence, a record and an alternative with a payload each take
one level, as each is one array or object of its text. Reading at budget `b` never returns a
datum nested more than `b - 1` deep (`withinBudget`): a container is entered only with two
levels of budget left and leaves one fewer to its contents, and the object of an alternative
leaves one fewer to its payload. The text reader starts at budget 128, so what it returns nests
at most 127 deep.

Every node of a source expression is an alternative with a payload, and the payload of a leaf
is a record, so an expression decoded from a datum is lower than the datum nests
(`height_lt_nesting_of_ofDatum`), whichever reader gave the datum.
-/

namespace PmmlExport.Interchange

open PmmlExport.Json PmmlExport.Json.Reader

mutual

/-- The number of containers on the deepest path of a datum: sequences, records and
alternatives with a payload. -/
def Datum.nesting : Datum → Nat
  | .seq items => Datum.nestingItems items + 1
  | .tagged _ payload => payload.nesting + 1
  | .record fields => Datum.nestingFields fields + 1
  | _ => 0

/-- The deepest nesting among the items of a sequence. -/
def Datum.nestingItems : List Datum → Nat
  | [] => 0
  | d :: ds => max d.nesting (Datum.nestingItems ds)

/-- The deepest nesting among the values of a record's fields. -/
def Datum.nestingFields : List (String × Datum) → Nat
  | [] => 0
  | (_, d) :: fs => max d.nesting (Datum.nestingFields fs)

end

namespace Datum

theorem nestingItems_le_iff {ds : List Datum} {m : Nat} :
    nestingItems ds ≤ m ↔ ∀ d ∈ ds, d.nesting ≤ m := by
  induction ds with
  | nil => simp [nestingItems]
  | cons d ds ih => simp [nestingItems, ih]

theorem nestingFields_le_iff {fs : List (String × Datum)} {m : Nat} :
    nestingFields fs ≤ m ↔ ∀ x ∈ fs, x.2.nesting ≤ m := by
  induction fs with
  | nil => simp [nestingFields]
  | cons x fs ih =>
    obtain ⟨k, d⟩ := x
    simp [nestingFields, ih]

end Datum

/-! ## Reading within a budget -/

namespace Reader

variable {κ : Type} {schema : κ → Definition κ}

/-- A number read where a number shape is expected is no container. -/
theorem nesting_of_numberDatum {s : Shape κ} {n : Number} {d : Datum}
    (h : numberDatum s n = .ok d) : d.nesting = 0 := by
  unfold numberDatum at h
  split at h <;> (try split at h) <;> cases h <;> rfl

theorem readString_nesting : Ensures readString (·.nesting = 0) := by
  unfold readString
  refine Ensures.fixPosition (Ensures.after fun _ => ?_)
  split
  · exact Ensures.failHere
  · exact Ensures.after fun _ => Ensures.after fun _ => Ensures.pure rfl
  · exact Ensures.wrongKind

theorem readBool_nesting : Ensures readBool (·.nesting = 0) := by
  unfold readBool
  refine Ensures.fixPosition (Ensures.after fun _ => ?_)
  split
  · exact Ensures.failHere
  · exact Ensures.after fun _ => Ensures.after fun _ => Ensures.pure rfl
  · exact Ensures.after fun _ => Ensures.after fun _ => Ensures.pure rfl
  · exact Ensures.wrongKind

theorem readUnit_nesting : Ensures readUnit (·.nesting = 0) := by
  unfold readUnit
  refine Ensures.fixPosition (Ensures.after fun _ => ?_)
  split
  · exact Ensures.failHere
  · exact Ensures.after fun _ => Ensures.after fun _ => Ensures.pure rfl
  · exact Ensures.wrongKind

theorem readNumber_nesting (s : Shape κ) : Ensures (readNumber s) (·.nesting = 0) := by
  unfold readNumber
  refine Ensures.fixPosition (Ensures.after fun _ => ?_)
  split
  · exact Ensures.failHere
  · split
    · refine Ensures.after fun n => ?_
      split
      · next d hd => exact Ensures.pure (nesting_of_numberDatum hd)
      · exact Ensures.fail
    · exact Ensures.wrongKind

/-- A sequence is one container around its items. -/
theorem nesting_seq_le {ds : List Datum} {m : Nat} (h : ∀ d ∈ ds, d.nesting ≤ m) :
    (Datum.seq ds).nesting ≤ m + 1 := by
  simp only [Datum.nesting]
  exact Nat.add_le_add_right (Datum.nestingItems_le_iff.mpr h) 1

/-- A record is one container around its fields. -/
theorem nesting_record_le {fs : List (String × Datum)} {m : Nat} (h : ∀ x ∈ fs, x.2.nesting ≤ m) :
    (Datum.record fs).nesting ≤ m + 1 := by
  simp only [Datum.nesting]
  exact Nat.add_le_add_right (Datum.nestingFields_le_iff.mpr h) 1

/-- The record of the fields read is one container around them; a field not read is unit. -/
theorem finishFields_nesting (fields : List (String × Shape κ)) {slots : List (Option Datum)}
    {m : Nat} (hslots : ∀ o ∈ slots, ∀ d ∈ o, d.nesting ≤ m) :
    Ensures (finishFields fields slots) (·.nesting ≤ m + 1) := by
  unfold finishFields
  split
  · exact Ensures.fail
  · refine Ensures.pure (nesting_record_le ?_)
    intro x hx
    obtain ⟨⟨⟨name, s⟩, o⟩, hmem, rfl⟩ := List.mem_map.mp hx
    have ho := hslots o (List.of_mem_zip hmem).2
    cases o with
    | none => simp [Datum.nesting]
    | some d => exact ho d rfl

/-- Values and records read at budget `b` nest at most `b - 1` deep. -/
structure WithinBudget (schema : κ → Definition κ) (b : Nat) : Prop where
  shape : ∀ s, Ensures (readShape schema b s) (·.nesting ≤ b - 1)
  record : ∀ expecting fields, Ensures (readRecord schema b expecting fields) (·.nesting ≤ b - 1)

namespace WithinBudget

variable {b : Nat}

/-- The items of a sequence read at a budget stay within it. -/
theorem items (h : WithinBudget schema b) (el : Shape κ) (n : Nat) :
    ∀ (first : Bool) (acc : List Datum), (∀ d ∈ acc, d.nesting ≤ b - 1) →
      Ensures (readItems schema b el first acc n) (∀ d ∈ ·, d.nesting ≤ b - 1) := by
  induction n with
  | zero =>
    intro first acc hacc
    rw [readItems]
    exact Ensures.pure fun d hd => hacc d (List.mem_reverse.mp hd)
  | succ n ih =>
    intro first acc hacc
    rw [readItems]
    refine Ensures.after fun _ => ?_
    split
    · exact Ensures.bind (h.shape el) fun d hd =>
        ih false (d :: acc) (List.forall_mem_cons.mpr ⟨hd, hacc⟩)
    · exact Ensures.pure fun d hd => hacc d (List.mem_reverse.mp hd)

/-- A record given as an array of its fields is one container around values within the
budget. -/
theorem fieldsInOrder (h : WithinBudget schema b) (expecting : String) (count : Nat)
    (fields : List (String × Shape κ)) :
    ∀ (i : Nat) (acc : List (String × Datum)), (∀ x ∈ acc, x.2.nesting ≤ b - 1) →
      Ensures (readFieldsInOrder schema b expecting count fields i acc) (·.nesting ≤ b - 1 + 1) := by
  induction fields with
  | nil =>
    intro i acc hacc
    rw [readFieldsInOrder]
    exact Ensures.pure (nesting_record_le fun x hx => hacc x (List.mem_reverse.mp hx))
  | cons field rest ih =>
    obtain ⟨name, s⟩ := field
    intro i acc hacc
    rw [readFieldsInOrder]
    refine Ensures.after fun _ => ?_
    split
    · exact Ensures.bind (h.shape s) fun d hd =>
        ih (i + 1) ((name, d) :: acc) (List.forall_mem_cons.mpr ⟨hd, hacc⟩)
    · exact Ensures.fail

/-- A record given as an object of its fields is one container around values within the
budget: each member read fills its slot, and unknown members are skipped. -/
theorem fieldsByName (h : WithinBudget schema b) (fields : List (String × Shape κ)) (n : Nat) :
    ∀ (first : Bool) (slots : List (Option Datum)), (∀ o ∈ slots, ∀ d ∈ o, d.nesting ≤ b - 1) →
      Ensures (readFieldsByName schema b fields first slots n) (·.nesting ≤ b - 1 + 1) := by
  induction n with
  | zero =>
    intro first slots hslots
    rw [readFieldsByName]
    exact finishFields_nesting fields hslots
  | succ n ih =>
    intro first slots hslots
    rw [readFieldsByName]
    refine Ensures.after fun _ => ?_
    split
    · exact finishFields_nesting fields hslots
    · split
      · split
        · exact Ensures.fail
        · refine Ensures.after fun _ => Ensures.bind (h.shape _) fun d hd => ih false _ ?_
          intro o ho x hx
          rcases List.mem_or_eq_of_mem_set ho with ho | rfl
          · exact hslots o ho x hx
          · cases hx
            exact hd
      · exact Ensures.after fun _ => Ensures.after fun _ => Ensures.after fun _ =>
          ih false slots hslots

/-- The object of an alternative is one container around a payload within the budget: only a key
that is a string goes on to its payload. -/
theorem alternative (h : WithinBudget schema b) (name : String)
    (alternatives : List (String × Payload κ)) :
    Ensures (readAlternative schema b name alternatives) (·.nesting ≤ b - 1 + 1) := by
  rw [readAlternative]
  refine Ensures.after fun _ => ?_
  dsimp only
  split
  · exact Ensures.failHere_bind
  · exact Ensures.failHere_bind
  · refine Ensures.after fun _ => Ensures.after fun key => ?_
    split
    · exact Ensures.failHere
    · refine Ensures.after fun _ => ?_
      split
      · exact Ensures.after fun _ => Ensures.pure (by simp [Datum.nesting])
      · exact Ensures.bind (h.shape _) fun d hd => Ensures.pure (by simp [Datum.nesting]; omega)
      · exact Ensures.bind (h.record _ _) fun d hd =>
          Ensures.pure (by simp [Datum.nesting]; omega)
  · exact Ensures.failHere_bind

end WithinBudget

section Level

variable {b : Nat} (hlow : ∀ inner, b = inner + 2 → WithinBudget schema (inner + 1))
include hlow

/-- A record is entered only with two levels of budget left, and its fields are read at the level
below. -/
theorem readRecord_within (expecting : String) (fields : List (String × Shape κ)) :
    Ensures (readRecord schema b expecting fields) (·.nesting ≤ b - 1) := by
  rw [readRecord.eq_def]
  refine Ensures.fixPosition (Ensures.after fun _ => ?_)
  split
  · exact Ensures.failHere
  · split
    · exact Ensures.failHere
    · exact Ensures.failHere
    · next inner =>
      refine Ensures.after fun _ => Ensures.closeWith ?_
      exact (hlow inner rfl).fieldsInOrder expecting _ fields 0 [] (by simp)
  · split
    · exact Ensures.failHere
    · exact Ensures.failHere
    · next inner =>
      refine Ensures.after fun _ => Ensures.after fun _ => Ensures.closeWith ?_
      refine (hlow inner rfl).fieldsByName fields _ true _ ?_
      simp
  · exact Ensures.wrongKind

/-- The object of a union is entered only with two levels of budget left, and its alternative is
read at the level below; a bare name is no container. -/
theorem readUnion_within (name : String) (alternatives : List (String × Payload κ)) :
    Ensures (readUnion schema b name alternatives) (·.nesting ≤ b - 1) := by
  rw [readUnion.eq_def]
  refine Ensures.after fun _ => ?_
  split
  · exact Ensures.failHere
  · split
    · exact Ensures.failHere
    · exact Ensures.failHere
    · next inner =>
      refine Ensures.after fun _ =>
        Ensures.bind ((hlow inner rfl).alternative name alternatives) fun d hd =>
          Ensures.after fun _ => ?_
      split
      · exact Ensures.after fun _ => Ensures.pure (by omega)
      · exact Ensures.failHere
      · exact Ensures.failHere
  · refine Ensures.after fun _ => ?_
    split
    · exact Ensures.pure (by simp [Datum.nesting])
    · exact Ensures.fail
    · exact Ensures.fail
  · exact Ensures.failHere

/-- Leaves are no containers, a sequence is entered only with two levels of budget left and its
items are read at the level below, and a named type is read as its definition. -/
theorem readShape_within (s : Shape κ) : Ensures (readShape schema b s) (·.nesting ≤ b - 1) := by
  cases s with
  | string =>
    rw [readShape]
    exact readString_nesting.mono fun _ hd => by omega
  | bool =>
    rw [readShape]
    exact readBool_nesting.mono fun _ hd => by omega
  | byte =>
    rw [readShape]
    exact (readNumber_nesting _).mono fun _ hd => by omega
  | int64 =>
    rw [readShape]
    exact (readNumber_nesting _).mono fun _ hd => by omega
  | real =>
    rw [readShape]
    exact (readNumber_nesting _).mono fun _ hd => by omega
  | unit =>
    rw [readShape]
    exact readUnit_nesting.mono fun _ hd => by omega
  | seq el =>
    rw [readShape.eq_def]
    refine Ensures.fixPosition (Ensures.after fun _ => ?_)
    split
    · exact Ensures.failHere
    · split
      · exact Ensures.failHere
      · exact Ensures.failHere
      · next inner =>
        refine Ensures.after fun _ => Ensures.closeWith (Ensures.after fun _ => ?_)
        exact Ensures.bind ((hlow inner rfl).items el _ true [] (by simp)) fun xs hxs =>
          Ensures.pure (nesting_seq_le hxs)
    · exact Ensures.wrongKind
  | named k =>
    rw [readShape, readDefinition]
    split
    · exact readRecord_within hlow _ _
    · exact readUnion_within hlow _ _

end Level

/-- At every budget `b`, the values and records read nest at most `b - 1` deep. By induction on
the budget: the level below a container entered at budget `b + 1` is `b`. -/
theorem withinBudget (schema : κ → Definition κ) (b : Nat) : WithinBudget schema b := by
  induction b with
  | zero =>
    have hlow : ∀ inner, 0 = inner + 2 → WithinBudget schema (inner + 1) := by
      intro inner h
      omega
    exact ⟨readShape_within hlow, readRecord_within hlow⟩
  | succ b ih =>
    have hlow : ∀ inner, b + 1 = inner + 2 → WithinBudget schema (inner + 1) := by
      intro inner h
      obtain rfl : b = inner + 1 := by omega
      exact ih
    exact ⟨readShape_within hlow, readRecord_within hlow⟩

/-- What the text reader returns nests at most 127 deep. -/
theorem nesting_le_of_readBytes {k : κ} {input : ByteArray} {d : Datum}
    (h : readBytes schema k input = .ok d) : d.nesting ≤ 127 := by
  have hread : Ensures (do
      let d ← readShape schema 128 (.named k)
      finish
      pure d) (·.nesting ≤ 127) :=
    Ensures.bind ((withinBudget schema 128).shape _) fun _ hd =>
      Ensures.after fun _ => Ensures.pure hd
  exact hread.run h

end Reader

end PmmlExport.Interchange

namespace PmmlExport.Source.Expr

open PmmlExport.Interchange

/-- A node whose children are each lower than `n` is at most `n` high, once `n` is positive. -/
private theorem height_lt_succ_of_children {e : Expr} {n : Nat} (hpos : 0 < n)
    (h : ∀ c ∈ e.children, c.height < n) : e.height < n + 1 := by
  have hle : e.height ≤ n - 1 + 1 := height_le_succ_iff.mpr fun c hc => by
    have := h c hc
    omega
  omega

/-- Each node of an expression is an alternative with a payload, one container, and the
payload of a leaf is a record, one more: an expression is lower than its datum nests. A datum of
no expression decodes to nothing. -/
theorem height_lt_nesting_of_ofDatum {d : Datum} {e : Expr} (h : ofDatum d = some e) :
    e.height < d.nesting := by
  revert e
  apply ofDatum.induct_unfolding (fun d r => ∀ e, r = some e → e.height < d.nesting)
    (fun ds r => ∀ es, r = some es → ∀ e ∈ es, e.height < Datum.nestingItems ds)
  case case4 | case6 | case8 | case10 | case13 | case15 | case18 | case19 | case22 => simp
  case case1 =>
    intro _ c _ n ih e he
    obtain ⟨c', hc', rfl⟩ := Option.map_eq_some_iff.mp he
    have hc := ih c' hc'
    refine Nat.lt_of_lt_of_le (height_lt_succ_of_children (n := c.nesting + 1) (by omega) ?_) ?_
    · simp [children]
      omega
    · simp [Datum.nesting, Datum.nestingFields]
  case case2 =>
    intro _ n _ t e he
    obtain ⟨t', -, rfl⟩ := Option.map_eq_some_iff.mp he
    refine Nat.lt_of_lt_of_le (height_lt_succ_of_children (n := 1) (by omega) ?_) ?_
    · simp [children]
    · simp [Datum.nesting, Datum.nestingFields]
  case case3 =>
    intro _ op _ l _ r op' l' r' hr hl _ ihl ihr e he
    cases he
    have hl' := ihl l' hl
    have hr' := ihr r' hr
    refine Nat.lt_of_lt_of_le
      (height_lt_succ_of_children (n := max l.nesting r.nesting + 1) (by omega) ?_) ?_
    · simp [children]
      omega
    · simp only [Datum.nesting, Datum.nestingFields]
      omega
  case case5 =>
    intro _ p _ t _ f p' t' f' hf ht hp ihp iht ihf e he
    cases he
    have hp' := ihp p' hp
    have ht' := iht t' ht
    have hf' := ihf f' hf
    refine Nat.lt_of_lt_of_le (height_lt_succ_of_children
      (n := max p.nesting (max t.nesting f.nesting) + 1) (by omega) ?_) ?_
    · simp [children]
      omega
    · simp [Datum.nesting, Datum.nestingFields]
  case case7 =>
    intro _ v _ cs v' cs' hcs hv ihv ihcs e he
    cases he
    have hv' := ihv v' hv
    have hcs' := ihcs cs' hcs
    refine Nat.lt_of_lt_of_le (height_lt_succ_of_children
      (n := max v.nesting (Datum.nestingItems cs + 1) + 1) (by omega) ?_) ?_
    · simp only [children, List.forall_mem_cons]
      exact ⟨by omega, fun c hc => by have := hcs' c hc; omega⟩
    · simp [Datum.nesting, Datum.nestingFields]
  case case9 =>
    intro _ v _ t v' t' _ _ e he
    cases he
    refine Nat.lt_of_lt_of_le (height_lt_succ_of_children (n := 1) (by omega) ?_) ?_
    · simp [children]
    · simp [Datum.nesting, Datum.nestingFields]
  case case11 | case16 =>
    intro c ih e he
    obtain ⟨c', hc', rfl⟩ := Option.map_eq_some_iff.mp he
    have hc := ih c' hc'
    refine Nat.lt_of_lt_of_le (height_lt_succ_of_children (n := c.nesting) (by omega) ?_) ?_
    · simp [children]
      omega
    · simp [Datum.nesting]
  case case12 =>
    intro _ k _ c _ c' hc _ ihc e he
    cases he
    have hc' := ihc c' hc
    refine Nat.lt_of_lt_of_le (height_lt_succ_of_children (n := c.nesting + 1) (by omega) ?_) ?_
    · simp [children]
      omega
    · simp only [Datum.nesting, Datum.nestingFields]
      omega
  case case14 =>
    intro _ c _ t c' _ _ hc ihc e he
    cases he
    have hc' := ihc c' hc
    refine Nat.lt_of_lt_of_le (height_lt_succ_of_children (n := c.nesting + 1) (by omega) ?_) ?_
    · simp [children]
      omega
    · simp only [Datum.nesting, Datum.nestingFields]
      omega
  case case17 =>
    intro _ n _ args _ t args' t' _ hargs ih e he
    cases he
    have hargs' := ih args' hargs
    refine Nat.lt_of_lt_of_le
      (height_lt_succ_of_children (n := Datum.nestingItems args + 1) (by omega) ?_) ?_
    · intro c hc
      have := hargs' c hc
      omega
    · simp only [Datum.nesting, Datum.nestingFields]
      omega
  case case20 =>
    intro es hes
    cases hes
    simp
  case case21 =>
    intro d ds v cs hcs hv ihd ihds es hes e he
    cases hes
    simp only [Datum.nestingItems]
    rcases List.mem_cons.mp he with rfl | he
    · have := ihd e hv
      omega
    · have := ihds cs hcs e he
      omega

end PmmlExport.Source.Expr
