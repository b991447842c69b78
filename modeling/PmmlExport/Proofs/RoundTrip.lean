import Mathlib
import PmmlExport.Proofs.TextTokens
import PmmlExport.Proofs.ReaderNesting

/-!
# Reading back what the writer writes

A datum *conforms* to a shape of a schema when it is what the reader would make of a value of
that shape: a string for a string, a sequence of conforming items for a sequence, a record of the
schema's fields in order for a record, an alternative of the union with its payload for a union.
Doubles are left out: their text is not part of this round trip.

For a conforming datum, reading the writer's one-line text back at budget `b + 1` gives the
datum and stops right after it exactly when the datum nests at most `b` deep; deeper, the reader
stops at the nesting limit (`readShape_written`). What follows the text is anything a value may
be followed by: nothing, a comma or a closing bracket.
-/

namespace PmmlExport.Interchange

open PmmlExport.Json PmmlExport.Json.Reader PmmlExport.Interchange.Reader

variable {κ : Type}

/-- A datum the writer can write and the reader read back at a shape of the schema. -/
inductive Conforms (schema : κ → Definition κ) : Shape κ → Datum → Prop
  | string (s : String) : Conforms schema .string (.string s)
  | bool (b : Bool) : Conforms schema .bool (.bool b)
  | byte (n : UInt8) : Conforms schema .byte (.byte n)
  | int64 (n : Int64) : Conforms schema .int64 (.int64 n)
  | unit : Conforms schema .unit .unit
  | seq {el : Shape κ} {items : List Datum} (h : ∀ d ∈ items, Conforms schema el d) :
    Conforms schema (.seq el) (.seq items)
  | record {k : κ} {name : String} {fields : List (String × Shape κ)}
    {fs : List (String × Datum)} (hk : schema k = .record name fields)
    (hnames : fs.map Prod.fst = fields.map Prod.fst) (hnodup : (fields.map Prod.fst).Nodup)
    (h : ∀ p ∈ fields.zip fs, Conforms schema p.1.2 p.2.2) :
    Conforms schema (.named k) (.record fs)
  | tag {k : κ} {name tag : String} {alternatives : List (String × Payload κ)} {i : Nat}
    (hk : schema k = .union name alternatives)
    (halt : lookupEntry alternatives tag = some (i, .none)) :
    Conforms schema (.named k) (.tag tag)
  | single {k : κ} {name tag : String} {alternatives : List (String × Payload κ)} {i : Nat}
    {s : Shape κ} {d : Datum} (hk : schema k = .union name alternatives)
    (halt : lookupEntry alternatives tag = some (i, .single s)) (h : Conforms schema s d) :
    Conforms schema (.named k) (.tagged tag d)
  | fields {k : κ} {name tag : String} {alternatives : List (String × Payload κ)} {i : Nat}
    {fields : List (String × Shape κ)} {fs : List (String × Datum)}
    (hk : schema k = .union name alternatives)
    (halt : lookupEntry alternatives tag = some (i, .fields fields))
    (hnames : fs.map Prod.fst = fields.map Prod.fst) (hnodup : (fields.map Prod.fst).Nodup)
    (h : ∀ p ∈ fields.zip fs, Conforms schema p.1.2 p.2.2) :
    Conforms schema (.named k) (.tagged tag (.record fs))

/-- The fields of a record conform one after another. -/
theorem Conforms.zip_cons {schema : κ → Definition κ} {f : String × Shape κ}
    {fields : List (String × Shape κ)} {x : String × Datum} {fs : List (String × Datum)}
    (h : Conforms schema f.2 x.2) (hs : ∀ p ∈ fields.zip fs, Conforms schema p.1.2 p.2.2) :
    ∀ p ∈ (f :: fields).zip (x :: fs), Conforms schema p.1.2 p.2.2 := by
  intro p hp
  rw [List.zip_cons_cons, List.mem_cons] at hp
  rcases hp with rfl | hp
  · exact h
  · exact hs p hp

theorem Conforms.zip_nil {schema : κ → Definition κ} {fs : List (String × Datum)} :
    ∀ p ∈ ([] : List (String × Shape κ)).zip fs, Conforms schema p.1.2 p.2.2 := by
  simp

/-- What may follow a written value: nothing, a comma, or a closing bracket or brace. -/
def FollowsValue (rest : List UInt8) : Prop :=
  ∀ b ∈ rest.head?, b = 44 ∨ b = 93 ∨ b = 125

theorem FollowsValue.endsNumber {rest : List UInt8} (h : FollowsValue rest) : EndsNumber rest := by
  intro b hb
  rcases h b hb with rfl | rfl | rfl <;> decide

/-- Reading from a text gives `a` and leaves `rest` when what the text holds nests at most `b`
deep (`n ≤ b`), and stops at the nesting limit when it nests deeper. -/
structure ReadsBack {α : Type} (r : Reader α) (b n : Nat) (a : α) (input rest : List UInt8) :
    Prop where
  within : n ≤ b → Reads r input a rest
  beyond : b < n → StopsAtLimit r input

namespace ReadsBack

variable {α β : Type} {r : Reader α} {b n m : Nat} {a : α} {input middle rest : List UInt8}

/-- What holds no container is read at any budget. -/
theorem of_reads (h : Reads r input a rest) : ReadsBack r b 0 a input rest :=
  ⟨fun _ => h, fun h0 => absurd h0 (Nat.not_lt_zero b)⟩

/-- One more level of nesting takes one more level of budget. -/
theorem succ (h : ReadsBack r b n a input rest) : ReadsBack r (b + 1) (n + 1) a input rest :=
  ⟨fun hle => h.within (Nat.le_of_succ_le_succ hle),
    fun hlt => h.beyond (Nat.lt_of_succ_lt_succ hlt)⟩

/-- A container at every budget: with no level left it stops at the limit, and with one more its
contents are read one level lower. Here `r b` reads at budget `b + 1`. -/
theorem container {r : Nat → Reader α} (hlimit : StopsAtLimit (r 0) input)
    (hinner : ∀ b, ReadsBack (r (b + 1)) b n a input rest) (b : Nat) :
    ReadsBack (r b) b (n + 1) a input rest := by
  cases b with
  | zero => exact ⟨fun h0 => absurd h0 (Nat.not_succ_le_zero n), fun _ => hlimit⟩
  | succ b => exact (hinner b).succ

/-- Two readers in sequence: the deeper of the two decides whether the limit is reached. -/
theorem bind {x : Reader β} {f : β → Reader α} {c : β} (hx : ReadsBack x b n c input middle)
    (hf : ReadsBack (f c) b m a middle rest) : ReadsBack (x >>= f) b (max n m) a input rest where
  within h := Reads.bind (hx.within (by omega)) (hf.within (by omega))
  beyond h := by
    by_cases hn : b < n
    · exact StopsAtLimit.bind (hx.beyond hn)
    · exact StopsAtLimit.bind_of_reads (hx.within (by omega)) (hf.beyond (by omega))

theorem reads_bind {x : Reader β} {f : β → Reader α} {c : β} (hx : Reads x input c middle)
    (hf : ReadsBack (f c) b m a middle rest) : ReadsBack (x >>= f) b m a input rest :=
  ⟨fun h => Reads.bind hx (hf.within h), fun h => StopsAtLimit.bind_of_reads hx (hf.beyond h)⟩

theorem bind_reads {x : Reader β} {f : β → Reader α} {c : β} (hx : ReadsBack x b n c input middle)
    (hf : Reads (f c) middle a rest) : ReadsBack (x >>= f) b n a input rest :=
  ⟨fun h => Reads.bind (hx.within h) hf, fun h => StopsAtLimit.bind (hx.beyond h)⟩

theorem fixPosition (h : ReadsBack r b n a input rest) :
    ReadsBack (Reader.fixPosition r) b n a input rest :=
  ⟨fun hn => (h.within hn).fixPosition, fun hn => (h.beyond hn).fixPosition⟩

theorem closeWith {close : Reader Unit} (h : ReadsBack r b n a input middle)
    (hclose : Reads close middle () rest) : ReadsBack (Reader.closeWith r close) b n a input rest :=
  ⟨fun hn => (h.within hn).closeWith hclose, fun hn => (h.beyond hn).closeWith⟩

end ReadsBack

/-! ## The text of a datum -/

/-- The bytes of the one-line text of a datum. -/
def Datum.text (d : Datum) : List UInt8 := textBytes d.toJson.compact

theorem itemsToJson_eq (ds : List Datum) : Datum.itemsToJson ds = ds.map Datum.toJson := by
  induction ds with
  | nil => rfl
  | cons d ds ih => rw [Datum.itemsToJson, ih, List.map_cons]

theorem fieldsToJson_eq (fs : List (String × Datum)) :
    Datum.fieldsToJson fs = fs.map fun f => (f.1, f.2.toJson) := by
  induction fs with
  | nil => rfl
  | cons f fs ih =>
    obtain ⟨k, d⟩ := f
    rw [Datum.fieldsToJson, ih, List.map_cons]

/-- Items after the first, each after its comma. -/
def laterItemsText (ds : List Datum) : List UInt8 := ds.flatMap fun d => 44 :: d.text

/-- A member of a record or union object: its quoted key, a colon and its value. -/
def memberText (key : String) (d : Datum) : List UInt8 := textBytes (quote key) ++ 58 :: d.text

/-- Members after the first, each after its comma. -/
def laterMembersText (fs : List (String × Datum)) : List UInt8 :=
  fs.flatMap fun f => 44 :: memberText f.1 f.2

theorem textBytes_compactItems (d : Datum) (ds : List Datum) :
    textBytes (Value.compactItems ((d :: ds).map Datum.toJson)) = d.text ++ laterItemsText ds := by
  induction ds generalizing d with
  | nil => simp [Value.compactItems, laterItemsText, Datum.text]
  | cons e ds ih =>
    have he := ih e
    rw [List.map_cons] at he
    rw [List.map_cons, List.map_cons, Value.compactItems, textBytes_append, textBytes_append, he]
    simp [laterItemsText, Datum.text, show textBytes "," = [44] from rfl]

theorem textBytes_compactMembers (f : String × Datum) (fs : List (String × Datum)) :
    textBytes (Value.compactMembers ((f :: fs).map fun f => (f.1, f.2.toJson))) =
      memberText f.1 f.2 ++ laterMembersText fs := by
  induction fs generalizing f with
  | nil =>
    simp [Value.compactMembers, laterMembersText, memberText, Datum.text,
      show textBytes ":" = [58] from rfl]
  | cons g fs ih =>
    have hg := ih g
    rw [List.map_cons] at hg
    rw [List.map_cons, List.map_cons, Value.compactMembers, textBytes_append, textBytes_append,
      textBytes_append, textBytes_append, hg]
    simp [laterMembersText, memberText, Datum.text, show textBytes "," = [44] from rfl,
      show textBytes ":" = [58] from rfl]

/-- The items of a sequence between its brackets, separated by commas. -/
def itemsText : List Datum → List UInt8
  | [] => []
  | d :: ds => d.text ++ laterItemsText ds

/-- The members of a record between its braces, separated by commas. -/
def membersText : List (String × Datum) → List UInt8
  | [] => []
  | f :: fs => memberText f.1 f.2 ++ laterMembersText fs

theorem laterItemsText_cons (d : Datum) (ds : List Datum) :
    laterItemsText (d :: ds) = 44 :: d.text ++ laterItemsText ds := by
  simp [laterItemsText]

theorem laterMembersText_cons (f : String × Datum) (fs : List (String × Datum)) :
    laterMembersText (f :: fs) = 44 :: memberText f.1 f.2 ++ laterMembersText fs := by
  simp [laterMembersText]

theorem text_seq (ds : List Datum) : (Datum.seq ds).text = 91 :: itemsText ds ++ [93] := by
  cases ds with
  | nil => rfl
  | cons d ds =>
    rw [Datum.text, Datum.toJson, Value.compact, itemsToJson_eq, textBytes_append,
      textBytes_append, textBytes_compactItems]
    rfl

theorem text_record (fs : List (String × Datum)) :
    (Datum.record fs).text = 123 :: membersText fs ++ [125] := by
  cases fs with
  | nil => rfl
  | cons f fs =>
    rw [Datum.text, Datum.toJson, Value.compact, fieldsToJson_eq, textBytes_append,
      textBytes_append, textBytes_compactMembers]
    rfl

theorem text_tagged (tag : String) (d : Datum) :
    (Datum.tagged tag d).text = 123 :: memberText tag d ++ [125] := by
  have h := text_record [(tag, d)]
  simp only [membersText, laterMembersText, List.flatMap_nil, List.append_nil] at h
  rw [← h]
  rfl

theorem text_tag (tag : String) : (Datum.tag tag).text = textBytes (quote tag) := rfl

theorem text_string (s : String) : (Datum.string s).text = textBytes (quote s) := rfl

theorem text_bool_true : (Datum.bool true).text = 116 :: restOfTrue := rfl

theorem text_bool_false : (Datum.bool false).text = 102 :: restOfFalse := rfl

theorem text_unit : Datum.unit.text = 110 :: restOfNull := rfl

theorem text_byte (n : UInt8) : (Datum.byte n).text = textBytes n.toNat.repr := rfl

theorem text_int64_of_nonneg {n : Int64} (h : 0 ≤ n.toInt) :
    (Datum.int64 n).text = textBytes n.toInt.toNat.repr := by
  simp [Datum.text, Datum.toJson, h, Value.compact, Number.text]

/-- A negative integer is written as a minus sign and the digits of its magnitude. -/
theorem text_int64_of_neg {n : Int64} (h : n.toInt < 0) :
    (Datum.int64 n).text = 45 :: textBytes n.toInt.natAbs.repr := by
  obtain ⟨m, hm⟩ := Int.eq_negSucc_of_lt_zero h
  have hn : ¬ 0 ≤ n.toInt := by omega
  rw [Datum.text, Datum.toJson, if_neg hn, hm, Int.natAbs_negSucc]
  exact textBytes_append "-" (Nat.repr (m + 1))

/-! ## The first byte of a value -/

/-- A text that begins a value: its first byte is no blank, comma or closing bracket. -/
def StartsValue (t : List UInt8) : Prop :=
  ∃ c u, t = c :: u ∧ isBlank c = false ∧ c ≠ 44 ∧ c ≠ 93

theorem startsValue_digits (k : Nat) (t : List UInt8) : StartsValue (textBytes k.repr ++ t) := by
  obtain ⟨c, u, hcu, hdigit⟩ := textBytes_repr_eq_cons k
  obtain ⟨hblank, h44, -, h93, -⟩ := digit_ne hdigit
  exact ⟨c, u ++ t, by rw [hcu, List.cons_append], hblank, h44, h93⟩

/-- The text of a conforming datum begins with its first byte: a quote, a digit, a minus sign, a
letter of a literal name, or an opening bracket or brace. -/
theorem Conforms.startsValue {schema : κ → Definition κ} {s : Shape κ} {d : Datum}
    (h : Conforms schema s d) : StartsValue d.text := by
  cases h with
  | string s => rw [text_string, textBytes_quote]; exact ⟨_, _, rfl, by decide⟩
  | bool v => cases v <;> exact ⟨_, _, rfl, by decide⟩
  | byte n =>
    have h := startsValue_digits n.toNat []
    rwa [List.append_nil, ← text_byte] at h
  | int64 n =>
    by_cases h : 0 ≤ n.toInt
    · have hd := startsValue_digits n.toInt.toNat []
      rwa [List.append_nil, ← text_int64_of_nonneg h] at hd
    · rw [text_int64_of_neg (by omega)]
      exact ⟨_, _, rfl, by decide⟩
  | unit => exact ⟨_, _, rfl, by decide⟩
  | seq => rw [text_seq]; exact ⟨_, _, rfl, by decide⟩
  | record => rw [text_record]; exact ⟨_, _, rfl, by decide⟩
  | tag => rw [text_tag, textBytes_quote]; exact ⟨_, _, rfl, by decide⟩
  | single => rw [text_tagged]; exact ⟨_, _, rfl, by decide⟩
  | fields => rw [text_tagged]; exact ⟨_, _, rfl, by decide⟩

/-! ## Values without containers -/

namespace Reader

variable {rest : List UInt8}

theorem reads_readString (s : String) :
    Reads readString ((Datum.string s).text ++ rest) (.string s) rest := by
  rw [text_string, textBytes_quote]
  simp only [List.cons_append, List.append_assoc]
  unfold readString
  refine Reads.fixPosition (Reads.bind (reads_blank (by decide)) ?_)
  exact Reads.bind (Reads.eat _ _) (Reads.bind (reads_string_quote s) (Reads.pure _ _))

theorem reads_readBool (v : Bool) : Reads readBool ((Datum.bool v).text ++ rest) (.bool v) rest := by
  unfold readBool
  cases v with
  | true =>
    rw [text_bool_true, List.cons_append]
    refine Reads.fixPosition (Reads.bind (reads_blank (by decide)) ?_)
    exact Reads.bind (Reads.eat _ _) (Reads.bind (reads_ident _ _) (Reads.pure _ _))
  | false =>
    rw [text_bool_false, List.cons_append]
    refine Reads.fixPosition (Reads.bind (reads_blank (by decide)) ?_)
    exact Reads.bind (Reads.eat _ _) (Reads.bind (reads_ident _ _) (Reads.pure _ _))

theorem reads_readUnit : Reads readUnit (Datum.unit.text ++ rest) .unit rest := by
  unfold readUnit
  rw [text_unit, List.cons_append]
  refine Reads.fixPosition (Reads.bind (reads_blank (by decide)) ?_)
  exact Reads.bind (Reads.eat _ _) (Reads.bind (reads_ident _ _) (Reads.pure _ _))

/-- A number whose first byte is a digit or a minus sign, where its datum fits the shape. -/
theorem reads_readNumber {s : Shape κ} {c : UInt8} {t : List UInt8} {num : Number} {d : Datum}
    (hc : (c == 45 || isDigit c) = true) (hblank : isBlank c = false)
    (hnum : Reads signedNumber (c :: t) num rest) (hd : numberDatum s num = .ok d) :
    Reads (readNumber s) (c :: t) d rest := by
  unfold readNumber
  refine Reads.fixPosition (Reads.bind (reads_blank hblank) ?_)
  simp only [hc, ite_true]
  refine Reads.bind hnum ?_
  rw [hd]
  exact Reads.pure _ _

theorem le_maxU64_of_lt {k : Nat} (h : k < 2 ^ 64) : k ≤ maxU64 := by
  rw [maxU64, show Nat.pow 2 64 = 2 ^ 64 from rfl]
  omega

/-- A nonnegative number as the writer gives it: its digits, read as what the shape makes of them. -/
theorem reads_readNumber_digits {s : Shape κ} {k : Nat} {d : Datum} (hk : k < 2 ^ 64)
    (hrest : EndsNumber rest) (hd : numberDatum s (.posInt k) = .ok d) :
    Reads (readNumber s) (textBytes k.repr ++ rest) d rest := by
  obtain ⟨c, u, hcu, hdigit⟩ := textBytes_repr_eq_cons k
  have hnum := reads_signedNumber_pos (le_maxU64_of_lt hk) hrest
  rw [hcu, List.cons_append] at hnum ⊢
  exact reads_readNumber (by simp [hdigit]) (digit_ne hdigit).1 hnum hd

theorem reads_readNumber_byte (n : UInt8) (hrest : EndsNumber rest) :
    Reads (readNumber (Shape.byte : Shape κ)) ((Datum.byte n).text ++ rest) (.byte n) rest := by
  have hlt : n.toNat < 2 ^ 8 := n.toNat_lt
  rw [text_byte]
  refine reads_readNumber_digits (by omega) hrest ?_
  simp only [numberDatum, show n.toNat ≤ 255 by omega, ite_true, Nat.toUInt8_eq, UInt8.ofNat_toNat]

/-- A 64-bit integer as the writer gives it: a negative one is a minus sign before its magnitude,
which is at most 2⁶³, the magnitude of the least one. -/
theorem reads_readNumber_int64 (n : Int64) (hrest : EndsNumber rest) :
    Reads (readNumber (Shape.int64 : Shape κ)) ((Datum.int64 n).text ++ rest) (.int64 n) rest := by
  have hlt := Int64.toInt_lt n
  have hge := Int64.le_toInt n
  by_cases h : 0 ≤ n.toInt
  · rw [text_int64_of_nonneg h]
    refine reads_readNumber_digits (by omega) hrest ?_
    have hofNat : Int64.ofNat n.toInt.toNat = n := by
      rw [← Int64.ofInt_eq_ofNat, Int.toNat_of_nonneg h, Int64.ofInt_toInt]
    have hfits : n.toInt.toNat < Nat.pow 2 63 := by
      rw [show Nat.pow 2 63 = 2 ^ 63 from rfl]
      omega
    simp only [numberDatum, hfits, ite_true, hofNat]
  · have hnum := reads_signedNumber_neg (k := n.toInt.natAbs) (by omega)
      (by rw [show Nat.pow 2 63 = 2 ^ 63 from rfl]; omega) hrest
    rw [show -(n.toInt.natAbs : Int) = n.toInt by omega] at hnum
    rw [text_int64_of_neg (by omega), List.cons_append]
    refine reads_readNumber (by decide) (by decide) hnum ?_
    simp only [numberDatum, Int64.ofInt_toInt]

end Reader

/-! ## Sequences -/

/-- The round trip of a datum at a shape: at every budget, whatever a value may be followed by,
the datum is read back from its text when it nests within the budget, and the reader stops at
the nesting limit otherwise. -/
def RoundTrips (schema : κ → Definition κ) (s : Shape κ) (d : Datum) : Prop :=
  ∀ b rest, FollowsValue rest →
    ReadsBack (readShape schema (b + 1) s) b d.nesting d (d.text ++ rest) rest

theorem followsValue_laterItems (ds : List Datum) (rest : List UInt8) :
    FollowsValue (laterItemsText ds ++ 93 :: rest) := by
  cases ds <;> simp [laterItemsText, FollowsValue]

section Items

variable {schema : κ → Definition κ} {el : Shape κ} {b : Nat} {rest : List UInt8}

/-- One element of a sequence: its separator, then the element. -/
theorem readItems_next {first : Bool} {acc a : List Datum} {n m : Nat} {d : Datum}
    {input tail : List UInt8} (hsep : Reads (nextElement first) input true (d.text ++ tail))
    (hd : ReadsBack (readShape schema (b + 1) el) b d.nesting d (d.text ++ tail) tail)
    (hrest : ReadsBack (readItems schema (b + 1) el false (d :: acc) n) b m a tail rest) :
    ReadsBack (readItems schema (b + 1) el first acc (n + 1)) b (max d.nesting m) a input rest := by
  rw [readItems]
  exact ReadsBack.reads_bind hsep (hd.bind hrest)

/-- The elements after the first, each after its comma, up to the closing bracket. -/
theorem readItems_later {ds : List Datum}
    (hitems : ∀ d ∈ ds, RoundTrips schema el d ∧ StartsValue d.text) (rest : List UInt8) :
    ∀ (acc : List Datum) (n : Nat), ds.length ≤ n →
      ReadsBack (readItems schema (b + 1) el false acc n) b (Datum.nestingItems ds)
        (acc.reverse ++ ds) (laterItemsText ds ++ 93 :: rest) (93 :: rest) := by
  induction ds with
  | nil =>
    intro acc n _
    refine ReadsBack.of_reads ?_
    rw [List.append_nil, laterItemsText, List.flatMap_nil, List.nil_append]
    cases n with
    | zero =>
      rw [readItems]
      exact Reads.pure _ _
    | succ n =>
      rw [readItems]
      exact Reads.bind (reads_nextElement_close false) (Reads.pure _ _)
  | cons d ds ih =>
    intro acc n hn
    obtain ⟨n, rfl⟩ : ∃ k, n = k + 1 := ⟨n - 1, by simp at hn; omega⟩
    obtain ⟨hd, c, u, hcu, hblank, -, h93⟩ := hitems d List.mem_cons_self
    have hsep : Reads (nextElement false) (44 :: d.text ++ (laterItemsText ds ++ 93 :: rest)) true
        (d.text ++ (laterItemsText ds ++ 93 :: rest)) := by
      rw [hcu]
      exact reads_nextElement_comma hblank h93
    have hrest := ih (fun e he => hitems e (List.mem_cons_of_mem d he)) (d :: acc) n
      (by simp at hn; omega)
    rw [List.reverse_cons, List.append_assoc, List.singleton_append] at hrest
    rw [laterItemsText_cons, List.append_assoc]
    exact readItems_next hsep (hd b _ (followsValue_laterItems ds rest)) hrest

/-- All the elements of a sequence after its opening bracket, up to the closing one. -/
theorem readItems_first {ds : List Datum}
    (hitems : ∀ d ∈ ds, RoundTrips schema el d ∧ StartsValue d.text) (n : Nat)
    (hn : ds.length ≤ n + 1) :
    ReadsBack (readItems schema (b + 1) el true [] (n + 1)) b (Datum.nestingItems ds) ds
      (itemsText ds ++ 93 :: rest) (93 :: rest) := by
  cases ds with
  | nil =>
    refine ReadsBack.of_reads ?_
    rw [readItems]
    exact Reads.bind (reads_nextElement_close true) (Reads.pure _ _)
  | cons d ds =>
    obtain ⟨hd, c, u, hcu, hblank, h44, h93⟩ := hitems d List.mem_cons_self
    have hsep : Reads (nextElement true) (d.text ++ (laterItemsText ds ++ 93 :: rest)) true
        (d.text ++ (laterItemsText ds ++ 93 :: rest)) := by
      rw [hcu]
      exact reads_nextElement_first hblank h93 h44
    have hrest := readItems_later (b := b) (fun e he => hitems e (List.mem_cons_of_mem d he)) rest
      [d] n (by simp at hn; omega)
    rw [List.reverse_singleton, List.singleton_append] at hrest
    rw [itemsText, List.append_assoc]
    exact readItems_next hsep (hd b _ (followsValue_laterItems ds rest)) hrest

/-- Each item after the first takes at least its comma. -/
theorem length_le_flatMap_comma {α : Type} (f : α → List UInt8) (l : List α) :
    l.length ≤ (l.flatMap fun x => 44 :: f x).length := by
  induction l with
  | nil => simp
  | cons x l ih =>
    simp only [List.flatMap_cons, List.length_append, List.length_cons]
    omega

theorem length_le_itemsText (ds : List Datum) : ds.length ≤ (itemsText ds).length + 1 := by
  cases ds with
  | nil => simp
  | cons d ds =>
    have h : ds.length ≤ (laterItemsText ds).length := length_le_flatMap_comma _ ds
    simp only [itemsText, List.length_cons, List.length_append]
    omega

/-- A sequence is read back when its elements are. -/
theorem roundTrips_seq {ds : List Datum}
    (hitems : ∀ d ∈ ds, RoundTrips schema el d ∧ StartsValue d.text) :
    RoundTrips schema (.seq el) (.seq ds) := by
  intro b rest _
  rw [text_seq]
  simp only [List.cons_append, List.append_assoc]
  refine ReadsBack.container (r := fun b => readShape schema (b + 1) (.seq el)) ?_ ?_ b
  · rw [readShape]
    exact StopsAtLimit.fixPosition
      (StopsAtLimit.bind_of_reads (reads_blank (by decide)) (StopsAtLimit.failHere _))
  · intro b
    rw [readShape]
    refine ReadsBack.fixPosition (ReadsBack.reads_bind (reads_blank (by decide)) ?_)
    refine ReadsBack.reads_bind (Reads.eat _ _) (ReadsBack.closeWith ?_ reads_endArray)
    refine ReadsBack.reads_bind (Reads.remaining _) (ReadsBack.bind_reads ?_ (Reads.pure _ _))
    refine readItems_first hitems _ ?_
    have h := length_le_itemsText ds
    simp only [List.length_append, List.length_cons]
    omega

end Items

/-! ## Records -/

/-- The entry of a name is found at the name's own position when no name repeats: an earlier
entry has another name. -/
theorem lookupEntry_getElem {α : Type} {entries : List (String × α)}
    (hnodup : (entries.map Prod.fst).Nodup) {i : Nat} (hi : i < entries.length) :
    lookupEntry entries entries[i].1 = some (i, entries[i].2) := by
  have hfind : entries.findIdx? (·.1 == entries[i].1) = some i := by
    rw [List.findIdx?_eq_some_iff_getElem]
    refine ⟨hi, by simp, fun j hji => ?_⟩
    have hj : j < (entries.map Prod.fst).length := by simp; omega
    have him : i < (entries.map Prod.fst).length := by simpa using hi
    have hne : (entries.map Prod.fst)[j] ≠ (entries.map Prod.fst)[i] := by
      intro heq
      have := (List.getElem_inj hnodup).mp heq
      omega
    simpa using hne
  rw [lookupEntry, hfind]
  simp [hi]

/-- The slots of a record's fields while it is read by name: the fields read so far are
filled, the others empty. -/
def filledSlots (done later : List (String × Datum)) : List (Option Datum) :=
  done.map (fun f => some f.2) ++ later.map fun _ => none

theorem filledSlots_getElem? (done later : List (String × Datum)) (f : String × Datum) :
    (filledSlots done (f :: later))[done.length]? = some none := by
  simp [filledSlots]

theorem filledSlots_set (done later : List (String × Datum)) (f : String × Datum) :
    (filledSlots done (f :: later)).set done.length (some f.2) = filledSlots (done ++ [f]) later := by
  simp [filledSlots, List.set_append_right]

/-- With every slot filled, the record holds the fields in the schema's order. -/
theorem finishFields_filled {fields : List (String × Shape κ)} {fs : List (String × Datum)}
    (hnames : fs.map Prod.fst = fields.map Prod.fst) :
    finishFields fields (filledSlots fs []) = pure (.record fs) := by
  have hnone : (fields.zip (filledSlots fs [])).find? (·.2.isNone) = none := by
    rw [List.find?_eq_none]
    intro x hx
    have hslot := (List.of_mem_zip hx).2
    simp only [filledSlots, List.map_nil, List.append_nil, List.mem_map] at hslot
    obtain ⟨f, -, hf⟩ := hslot
    simp [← hf]
  have hrecord : ∀ (fields : List (String × Shape κ)) (fs : List (String × Datum)),
      fs.map Prod.fst = fields.map Prod.fst →
      ((fields.zip (filledSlots fs [])).map fun x => (x.1.1, x.2.getD .unit)) = fs := by
    intro fields
    induction fields with
    | nil =>
      intro fs h
      cases fs with
      | nil => rfl
      | cons f fs => simp at h
    | cons g fields ih =>
      intro fs h
      cases fs with
      | nil => simp at h
      | cons f fs =>
        simp only [List.map_cons, List.cons.injEq] at h
        have htail := ih fs h.2
        simp only [filledSlots, List.map_nil, List.append_nil] at htail
        simp [filledSlots, htail, ← h.1]
  rw [finishFields, hnone]
  exact congrArg (fun fs => pure (Datum.record fs)) (hrecord fields fs hnames)

/-- What the fields of a record need to be read back: the schema's field names in order,
without repeats, and each field's value read back at the field's shape. -/
structure FieldsRoundTrip (schema : κ → Definition κ) (fields : List (String × Shape κ))
    (fs : List (String × Datum)) : Prop where
  names : fs.map Prod.fst = fields.map Prod.fst
  nodup : (fields.map Prod.fst).Nodup
  values : ∀ p ∈ fields.zip fs, RoundTrips schema p.1.2 p.2.2

theorem followsValue_brace (rest : List UInt8) : FollowsValue (125 :: rest) := by
  simp [FollowsValue]

theorem followsValue_laterMembers (fs : List (String × Datum)) (rest : List UInt8) :
    FollowsValue (laterMembersText fs ++ 125 :: rest) := by
  cases fs <;> simp [laterMembersText, FollowsValue]

/-- A member's key, as the reader of the members of an object takes it. -/
theorem reads_nextKey_member (first : Bool) (key : String) (d : Datum) (t : List UInt8) :
    Reads (nextKey first) ((if first then [] else [44]) ++ memberText key d ++ t) (some key)
      (58 :: d.text ++ t) := by
  rw [memberText, textBytes_quote]
  simp only [List.cons_append, List.append_assoc]
  cases first with
  | true => exact reads_nextKey_first (reads_string_quote key)
  | false => exact reads_nextKey_comma (reads_string_quote key)

section Members

variable {schema : κ → Definition κ} {fields : List (String × Shape κ)}
  {fs : List (String × Datum)} {b : Nat} {rest : List UInt8}

/-- One member of a record given by name: its key, found among the fields, at a slot not yet
filled, then its value. -/
theorem readFieldsByName_next {first : Bool} {slots : List (Option Datum)} {k : String} {i : Nat}
    {s : Shape κ} {d a : Datum} {n m : Nat} {input tail : List UInt8}
    (hkey : Reads (nextKey first) input (some k) (58 :: d.text ++ tail))
    (hlookup : lookupEntry fields k = some (i, s)) (hfree : slots[i]? = some none)
    (hd : ReadsBack (readShape schema (b + 1) s) b d.nesting d (d.text ++ tail) tail)
    (hrest : ReadsBack (readFieldsByName schema (b + 1) fields false (slots.set i (some d)) n) b
      m a tail rest) :
    ReadsBack (readFieldsByName schema (b + 1) fields first slots (n + 1)) b (max d.nesting m) a
      input rest := by
  rw [readFieldsByName]
  refine ReadsBack.reads_bind hkey ?_
  simp only [hlookup, hfree, Option.join_some, Option.isSome_none, Bool.false_eq_true, ite_false]
  exact ReadsBack.reads_bind reads_colon (hd.bind hrest)

/-- The member of a record that comes after `done`, in the schema's order: the field at the
member's position has the member's name. -/
theorem readFieldsByName_member (hf : FieldsRoundTrip schema fields fs) (first : Bool)
    {done later : List (String × Datum)} {f : String × Datum} {n : Nat}
    (hsplit : done ++ f :: later = fs)
    (hrest : ReadsBack (readFieldsByName schema (b + 1) fields false (filledSlots (done ++ [f]) later)
      n) b (Datum.nestingFields later) (.record fs) (laterMembersText later ++ 125 :: rest)
      (125 :: rest)) :
    ReadsBack (readFieldsByName schema (b + 1) fields first (filledSlots done (f :: later)) (n + 1))
      b (Datum.nestingFields (f :: later)) (.record fs)
      ((if first then [] else [44]) ++ memberText f.1 f.2 ++ (laterMembersText later ++ 125 :: rest))
      (125 :: rest) := by
  have hlen : fs.length = fields.length := by
    simpa using congrArg List.length hf.names
  have hi : done.length < fields.length := by
    rw [← hlen, ← hsplit]
    simp
  have hfs : fs[done.length] = f := by
    subst hsplit
    simp
  have hname : fields[done.length].1 = f.1 := by
    have h := congrArg (·[done.length]?) hf.names
    simp only [List.getElem?_map, List.getElem?_eq_getElem hi,
      List.getElem?_eq_getElem (hlen ▸ hi : done.length < fs.length), hfs, Option.map_some,
      Option.some.injEq] at h
    exact h.symm
  have hlookup := lookupEntry_getElem hf.nodup hi
  rw [hname] at hlookup
  have hmem : (fields[done.length], f) ∈ fields.zip fs := by
    rw [← hfs]
    exact List.mem_iff_getElem.mpr ⟨done.length, by simp [hi, hlen], by simp⟩
  have hd := hf.values _ hmem b _ (followsValue_laterMembers later rest)
  have h := readFieldsByName_next (reads_nextKey_member first f.1 f.2 _) hlookup
    (filledSlots_getElem? done later f) hd (filledSlots_set done later f ▸ hrest)
  obtain ⟨key, d⟩ := f
  exact h

/-- The members after the first, each after its comma, up to the closing brace. -/
theorem readFieldsByName_later (hf : FieldsRoundTrip schema fields fs) (rest : List UInt8) :
    ∀ (later done : List (String × Datum)), done ++ later = fs → ∀ n, later.length ≤ n →
      ReadsBack (readFieldsByName schema (b + 1) fields false (filledSlots done later) n) b
        (Datum.nestingFields later) (.record fs) (laterMembersText later ++ 125 :: rest)
        (125 :: rest) := by
  intro later
  induction later with
  | nil =>
    intro done hsplit n _
    rw [List.append_nil] at hsplit
    subst hsplit
    refine ReadsBack.of_reads ?_
    have hfinish := finishFields_filled hf.names
    cases n with
    | zero =>
      rw [readFieldsByName, hfinish]
      exact Reads.pure _ _
    | succ n =>
      rw [readFieldsByName]
      refine Reads.bind (reads_nextKey_close false) ?_
      rw [hfinish]
      exact Reads.pure _ _
  | cons f later ih =>
    intro done hsplit n hn
    obtain ⟨n, rfl⟩ : ∃ k, n = k + 1 := ⟨n - 1, by simp at hn; omega⟩
    have hrest := ih (done ++ [f]) (by simpa using hsplit) n (by simp at hn; omega)
    rw [laterMembersText_cons, List.append_assoc]
    exact readFieldsByName_member hf false hsplit hrest

/-- All the members of a record after its opening brace, up to the closing one. -/
theorem readFieldsByName_first (hf : FieldsRoundTrip schema fields fs) (n : Nat)
    (hn : fs.length ≤ n + 1) :
    ReadsBack (readFieldsByName schema (b + 1) fields true (fields.map fun _ => none) (n + 1)) b
      (Datum.nestingFields fs) (.record fs) (membersText fs ++ 125 :: rest) (125 :: rest) := by
  have hslots : fields.map (fun _ => none) = filledSlots [] fs := by
    have hlen : fields.length = fs.length := by
      simpa using (congrArg List.length hf.names).symm
    simp only [filledSlots, List.map_nil, List.nil_append]
    rw [List.map_const', List.map_const', hlen]
  rw [hslots]
  cases fs with
  | nil =>
    refine ReadsBack.of_reads ?_
    rw [readFieldsByName]
    refine Reads.bind (reads_nextKey_close true) ?_
    rw [finishFields_filled hf.names]
    exact Reads.pure _ _
  | cons f later =>
    have hrest := readFieldsByName_later (b := b) hf rest later [f] rfl n
      (by simp at hn; omega)
    have h := readFieldsByName_member hf true (List.nil_append _) hrest
    rwa [if_pos rfl, List.nil_append, ← List.append_assoc] at h

theorem length_le_membersText (fs : List (String × Datum)) :
    fs.length ≤ (membersText fs).length + 1 := by
  cases fs with
  | nil => simp
  | cons f fs =>
    have h : fs.length ≤ (laterMembersText fs).length := length_le_flatMap_comma _ fs
    simp only [membersText, List.length_cons, List.length_append]
    omega

/-- A record given as an object of its fields is read back when its fields are. -/
theorem readRecord_written (hf : FieldsRoundTrip schema fields fs) (expecting : String)
    (b : Nat) (rest : List UInt8) :
    ReadsBack (readRecord schema (b + 1) expecting fields) b (Datum.record fs).nesting
      (.record fs) ((Datum.record fs).text ++ rest) rest := by
  rw [text_record]
  simp only [List.cons_append, List.append_assoc]
  refine ReadsBack.container (r := fun b => readRecord schema (b + 1) expecting fields) ?_ ?_ b
  · rw [readRecord]
    exact StopsAtLimit.fixPosition
      (StopsAtLimit.bind_of_reads (reads_blank (by decide)) (StopsAtLimit.failHere _))
  · intro b
    rw [readRecord]
    refine ReadsBack.fixPosition (ReadsBack.reads_bind (reads_blank (by decide)) ?_)
    refine ReadsBack.reads_bind (Reads.eat _ _) (ReadsBack.reads_bind (Reads.remaining _) ?_)
    refine ReadsBack.closeWith (readFieldsByName_first hf _ ?_) reads_endObject
    have h := length_le_membersText fs
    simp only [List.length_append, List.length_cons]
    omega

end Members

/-! ## Unions -/

section Unions

variable {schema : κ → Definition κ} {name tag : String} {alternatives : List (String × Payload κ)}
  {i : Nat} {rest : List UInt8}

/-- An alternative without payload is read back from its bare name, at any budget. -/
theorem reads_readUnion_tag (halt : lookupEntry alternatives tag = some (i, .none)) (budget : Nat) :
    Reads (readUnion schema budget name alternatives) ((Datum.tag tag).text ++ rest) (.tag tag)
      rest := by
  rw [text_tag, textBytes_quote]
  simp only [List.cons_append, List.append_assoc]
  rw [readUnion.eq_def]
  refine Reads.bind (reads_blank (by decide)) ?_
  refine Reads.bind (b := (tag, .none))
    (Reads.fixPosition (Reads.bind (Reads.eat _ _) (Reads.bind (reads_string_quote tag) ?_)))
    (Reads.pure _ _)
  rw [halt]
  exact Reads.pure _ _

/-- An alternative with a payload is an object with its name as the only key: with no level left
the reader stops at the limit, and with one more it reads the member one level lower. -/
theorem readUnion_object {a : Datum} {n : Nat} {input : List UInt8}
    (hinner : ∀ b, ReadsBack (readAlternative schema (b + 1) name alternatives) b n a input
      (125 :: rest)) (b : Nat) :
    ReadsBack (readUnion schema (b + 1) name alternatives) b (n + 1) a (123 :: input) rest := by
  refine ReadsBack.container (r := fun b => readUnion schema (b + 1) name alternatives) ?_ ?_ b
  · rw [readUnion]
    exact StopsAtLimit.bind_of_reads (reads_blank (by decide)) (StopsAtLimit.failHere _)
  · intro b
    rw [readUnion]
    refine ReadsBack.reads_bind (reads_blank (by decide)) ?_
    refine ReadsBack.reads_bind (Reads.eat _ _) ((hinner b).bind_reads ?_)
    exact Reads.bind (reads_blank (by decide)) (Reads.bind (Reads.eat _ _) (Reads.pure _ _))

/-- The member of a union's object whose payload is a single value. -/
theorem readAlternative_single {s : Shape κ} {d : Datum} {b : Nat} {tail : List UInt8}
    (halt : lookupEntry alternatives tag = some (i, .single s))
    (hd : ReadsBack (readShape schema (b + 1) s) b d.nesting d (d.text ++ tail) tail) :
    ReadsBack (readAlternative schema (b + 1) name alternatives) b d.nesting (.tagged tag d)
      (memberText tag d ++ tail) tail := by
  rw [memberText, textBytes_quote]
  simp only [List.cons_append, List.append_assoc]
  rw [readAlternative]
  refine ReadsBack.reads_bind (reads_blank (by decide)) ?_
  refine ReadsBack.reads_bind (Reads.eat _ _) (ReadsBack.reads_bind (reads_string_quote tag) ?_)
  simp only [halt]
  exact ReadsBack.reads_bind reads_colon (hd.bind_reads (Reads.pure _ _))

/-- The member of a union's object whose payload is a record of fields. -/
theorem readAlternative_fields {fields : List (String × Shape κ)} {d : Datum} {n b : Nat}
    {tail : List UInt8} (halt : lookupEntry alternatives tag = some (i, .fields fields))
    (hd : ReadsBack (readRecord schema (b + 1) ("struct variant " ++ name ++ "::" ++ tag) fields) b
      n d (d.text ++ tail) tail) :
    ReadsBack (readAlternative schema (b + 1) name alternatives) b n (.tagged tag d)
      (memberText tag d ++ tail) tail := by
  rw [memberText, textBytes_quote]
  simp only [List.cons_append, List.append_assoc]
  rw [readAlternative]
  refine ReadsBack.reads_bind (reads_blank (by decide)) ?_
  refine ReadsBack.reads_bind (Reads.eat _ _) (ReadsBack.reads_bind (reads_string_quote tag) ?_)
  simp only [halt]
  exact ReadsBack.reads_bind reads_colon (hd.bind_reads (Reads.pure _ _))

end Unions

theorem readShape_named_record {schema : κ → Definition κ} {k : κ} {name : String}
    {fields : List (String × Shape κ)} (hk : schema k = .record name fields) (budget : Nat) :
    readShape schema budget (.named k) = readRecord schema budget ("struct " ++ name) fields := by
  rw [readShape, readDefinition, hk]

theorem readShape_named_union {schema : κ → Definition κ} {k : κ} {name : String}
    {alternatives : List (String × Payload κ)} (hk : schema k = .union name alternatives)
    (budget : Nat) :
    readShape schema budget (.named k) = readUnion schema budget name alternatives := by
  rw [readShape, readDefinition, hk]

/-! ## Every conforming datum -/

/-- Every datum that conforms to a shape is read back from the writer's text: at every budget,
whatever a value may be followed by, it is returned when it nests within the budget, and the
reader stops at the nesting limit otherwise. -/
theorem readShape_written {schema : κ → Definition κ} {s : Shape κ} {d : Datum}
    (h : Conforms schema s d) : RoundTrips schema s d := by
  induction h with
  | string s =>
    intro b rest _
    rw [readShape]
    exact ReadsBack.of_reads (reads_readString s)
  | bool v =>
    intro b rest _
    rw [readShape]
    exact ReadsBack.of_reads (reads_readBool v)
  | byte n =>
    intro b rest hrest
    rw [readShape]
    exact ReadsBack.of_reads (reads_readNumber_byte n hrest.endsNumber)
  | int64 n =>
    intro b rest hrest
    rw [readShape]
    exact ReadsBack.of_reads (reads_readNumber_int64 n hrest.endsNumber)
  | unit =>
    intro b rest _
    rw [readShape]
    exact ReadsBack.of_reads reads_readUnit
  | seq h ih => exact roundTrips_seq fun d hd => ⟨ih d hd, (h d hd).startsValue⟩
  | record hk hnames hnodup _ ih =>
    intro b rest _
    rw [readShape_named_record hk]
    exact readRecord_written ⟨hnames, hnodup, ih⟩ _ b rest
  | tag hk halt =>
    intro b rest _
    rw [readShape_named_union hk]
    exact ReadsBack.of_reads (reads_readUnion_tag halt _)
  | single hk halt _ ih =>
    intro b rest _
    rw [readShape_named_union hk, text_tagged]
    simp only [List.cons_append, List.append_assoc]
    exact readUnion_object (fun b => readAlternative_single halt (ih b _ (followsValue_brace rest))) b
  | fields hk halt hnames hnodup _ ih =>
    intro b rest _
    rw [readShape_named_union hk, text_tagged]
    simp only [List.cons_append, List.append_assoc]
    exact readUnion_object
      (fun b => readAlternative_fields halt (readRecord_written ⟨hnames, hnodup, ih⟩ _ b _)) b

/-- The one-line text of a conforming datum of a named type is read back whole when the datum
nests at most 127 deep; deeper, reading fails at the nesting limit. -/
theorem readText_written {schema : κ → Definition κ} {k : κ} {d : Datum}
    (h : Conforms schema (.named k) d) :
    (d.nesting ≤ 127 → readText schema k d.toJson.compact = .ok d) ∧
    (127 < d.nesting → ∃ e, readText schema k d.toJson.compact = .error e ∧
      e.fault = .recursionLimitExceeded ∧ e.position.isSome) := by
  have hback := readShape_written h 127 [] (by simp [FollowsValue])
  rw [List.append_nil] at hback
  have htext : d.toJson.compact.toUTF8.data.toList = d.text := rfl
  constructor
  · intro hn
    rw [readText, readBytes]
    apply Reads.run_eq
    rw [htext]
    exact Reads.bind (hback.within hn) (Reads.bind reads_finish (Reads.pure _ _))
  · intro hn
    rw [readText, readBytes]
    refine StopsAtLimit.run_eq ?_
    rw [htext]
    exact StopsAtLimit.bind (hback.beyond hn)

end PmmlExport.Interchange
