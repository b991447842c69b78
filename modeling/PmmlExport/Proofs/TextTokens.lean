import PmmlExport.Proofs.ReaderSteps
import PmmlExport.Json.Print

/-!
# Reading the tokens of written text

The writer's text has no blanks, and each token it writes is read back by the reader's piece for
it: punctuation, the literal names, a string with its escapes, an integer in decimal. Each lemma
here says that from any cursor with the token's bytes ahead, followed by what may follow it, the
piece returns the token's value and leaves what follows (`Reader.Reads`).
-/

namespace PmmlExport.Json

/-- The UTF-8 bytes of a text. -/
def textBytes (s : String) : List UInt8 := s.toByteArray.data.toList

@[simp] theorem textBytes_append (s t : String) :
    textBytes (s ++ t) = textBytes s ++ textBytes t := by
  simp [textBytes, String.toByteArray_append]

namespace Reader

variable {t : List UInt8}

/-! ## Blanks and punctuation -/

theorem reads_skipBlanks {b : UInt8} (hb : isBlank b = false) (n : Nat) :
    Reads (skipBlanks n) (b :: t) (some b) (b :: t) := by
  cases n with
  | zero => exact Reads.peek_cons b t
  | succ n =>
    rw [skipBlanks]
    refine Reads.bind (Reads.peek_cons b t) ?_
    simp only [hb, Bool.false_eq_true, ite_false]
    exact Reads.pure _ _

/-- Blanks are skipped up to the first byte that is none, which is looked at but kept. -/
theorem reads_blank {b : UInt8} (hb : isBlank b = false) :
    Reads blank (b :: t) (some b) (b :: t) :=
  Reads.bind (Reads.remaining _) (reads_skipBlanks hb _)

theorem reads_blank_nil : Reads blank [] none [] := by
  refine Reads.bind (Reads.remaining _) ?_
  rw [List.length_nil, skipBlanks]
  exact Reads.bind Reads.peek_nil (Reads.pure _ _)

theorem reads_next (b : UInt8) (t : List UInt8) : Reads next (b :: t) (some b) t :=
  Reads.bind (Reads.peek_cons b t) (Reads.bind (Reads.eat b t) (Reads.pure _ _))

/-- The rest of a literal name is read byte by byte. -/
theorem reads_ident (bs : List UInt8) (t : List UInt8) : Reads (ident bs) (bs ++ t) () t := by
  induction bs with
  | nil => exact Reads.pure _ _
  | cons b bs ih =>
    rw [ident]
    refine Reads.bind (reads_next b _) ?_
    simp only [beq_self_eq_true, ite_true]
    exact ih

theorem reads_colon : Reads colon (58 :: t) () t :=
  Reads.bind (reads_blank (by decide)) (Reads.eat _ _)

theorem reads_endArray : Reads endArray (93 :: t) () t :=
  Reads.bind (reads_blank (by decide)) (Reads.eat _ _)

theorem reads_endObject : Reads endObject (125 :: t) () t :=
  Reads.bind (reads_blank (by decide)) (Reads.eat _ _)

/-! ## Between the members of containers -/

theorem reads_nextElement_close (first : Bool) :
    Reads (nextElement first) (93 :: t) false (93 :: t) :=
  Reads.bind (reads_blank (by decide)) (Reads.pure _ _)

/-- Before the first element, the element's own first byte is looked at and kept. -/
theorem reads_nextElement_first {b : UInt8} (hb : isBlank b = false) (h93 : b ≠ 93)
    (h44 : b ≠ 44) : Reads (nextElement true) (b :: t) true (b :: t) := by
  rw [nextElement]
  refine Reads.bind (reads_blank hb) ?_
  split
  · next h => exact absurd (Option.some.inj h) h93
  · next h => exact absurd (Option.some.inj h) h44
  · exact Reads.pure _ _
  · next h => cases h

/-- Before a later element, its comma is consumed. -/
theorem reads_nextElement_comma {b : UInt8} (hb : isBlank b = false) (h93 : b ≠ 93) :
    Reads (nextElement false) (44 :: b :: t) true (b :: t) := by
  rw [nextElement]
  refine Reads.bind (reads_blank (by decide)) ?_
  simp only [Bool.false_eq_true, ite_false]
  refine Reads.bind (Reads.eat _ _) (Reads.bind (reads_blank hb) ?_)
  split
  · next h => exact absurd (Option.some.inj h) h93
  · exact Reads.pure _ _
  · next h => cases h

theorem reads_nextKey_close (first : Bool) :
    Reads (nextKey first) (125 :: t) none (125 :: t) :=
  Reads.bind (reads_blank (by decide)) (Reads.pure _ _)

/-- Before the first member, its key is read. -/
theorem reads_nextKey_first {u : List UInt8} {k : String} (hkey : Reads string t k u) :
    Reads (nextKey true) (34 :: t) (some k) u :=
  Reads.bind (reads_blank (by decide))
    (Reads.bind (Reads.eat _ _) (Reads.bind hkey (Reads.pure _ _)))

/-- Before a later member, its comma is consumed and its key read. -/
theorem reads_nextKey_comma {u : List UInt8} {k : String} (hkey : Reads string t k u) :
    Reads (nextKey false) (44 :: 34 :: t) (some k) u :=
  Reads.bind (reads_blank (by decide))
    (Reads.bind (Reads.eat _ _) (Reads.bind (reads_blank (by decide))
      (Reads.bind (Reads.eat _ _) (Reads.bind hkey (Reads.pure _ _)))))

/-- Nothing but blanks may follow a whole value. -/
theorem reads_finish : Reads finish [] () [] :=
  Reads.bind reads_blank_nil (Reads.pure _ _)

/-! ## Strings -/

theorem reads_stringByte (b : UInt8) (t : List UInt8) : Reads stringByte (b :: t) b t :=
  Reads.bind (reads_next b t) (Reads.pure _ _)

/-- Bytes that stand for themselves inside a string are collected one by one. -/
theorem reads_stringRest_plain {s : String} {u : List UInt8} (bs : List UInt8)
    (hbs : ∀ b ∈ bs, b ≠ 34 ∧ b ≠ 92 ∧ 32 ≤ b) (n : Nat) (acc : ByteArray)
    (h : Reads (stringRest n (bs.foldl ByteArray.push acc)) t s u) :
    Reads (stringRest (n + bs.length) acc) (bs ++ t) s u := by
  induction bs generalizing n acc with
  | nil => exact h
  | cons b bs ih =>
    obtain ⟨h34, h92, h32⟩ := hbs b List.mem_cons_self
    have hle : ¬ b < 32 := by
      rw [UInt8.lt_iff_toNat_lt]
      rw [UInt8.le_iff_toNat_le] at h32
      simpa using h32
    rw [List.length_cons, ← Nat.add_assoc, stringRest]
    refine Reads.bind (reads_stringByte b _) ?_
    simp only [beq_iff_eq, h34, h92, hle, ite_false]
    exact ih (fun x hx => hbs x (List.mem_cons_of_mem b hx)) n (acc.push b) h

/-- A backslash and what `escape` reads after it stand for the bytes it returns. -/
theorem reads_stringRest_backslash {rest : List UInt8} {more : ByteArray} {s : String}
    {u : List UInt8} {n : Nat} {acc : ByteArray} (hesc : Reads escape rest more t)
    (h : Reads (stringRest n (acc ++ more)) t s u) :
    Reads (stringRest (n + 1) acc) (92 :: rest) s u := by
  rw [stringRest]
  refine Reads.bind (reads_stringByte 92 _) ?_
  simp only [beq_iff_eq, show (92 : UInt8) ≠ 34 by decide, ite_false, ite_true]
  exact Reads.bind hesc h

/-- The closing quote ends a string whose bytes are the UTF-8 of a text. -/
theorem reads_stringRest_close (pre : List Char) (n : Nat) :
    Reads (stringRest (n + 1) pre.utf8Encode) (34 :: t) (String.ofList pre) t := by
  rw [stringRest]
  refine Reads.bind (reads_stringByte 34 _) ?_
  simp only [beq_self_eq_true, ite_true]
  rw [← String.toByteArray_ofList, String.fromUTF8?, dif_pos (String.ofList pre).isValidUTF8]
  exact Reads.pure _ _

/-- The letter escapes stand for one byte each. -/
theorem reads_escape_letter {e v : UInt8}
    (h : (e, v) ∈ [((34 : UInt8), (34 : UInt8)), (92, 92), (98, 8), (102, 12), (110, 10),
      (114, 13), (116, 9)]) :
    Reads escape (e :: t) ⟨#[v]⟩ t := by
  simp only [List.mem_cons, Prod.mk.injEq, List.not_mem_nil, or_false] at h
  rcases h with ⟨rfl, rfl⟩ | ⟨rfl, rfl⟩ | ⟨rfl, rfl⟩ | ⟨rfl, rfl⟩ | ⟨rfl, rfl⟩ | ⟨rfl, rfl⟩ |
      ⟨rfl, rfl⟩ <;>
    exact Reads.bind (reads_stringByte _ _) (Reads.pure _ _)

theorem reads_hexEscape {a b c d : UInt8} {va vb vc vd : Nat} (ha : hexValue a = some va)
    (hb : hexValue b = some vb) (hc : hexValue c = some vc) (hd : hexValue d = some vd) :
    Reads hexEscape (a :: b :: c :: d :: t) (((va * 16 + vb) * 16 + vc) * 16 + vd) t := by
  rw [hexEscape]
  refine Reads.bind (reads_stringByte a _) (Reads.bind (reads_stringByte b _)
    (Reads.bind (reads_stringByte c _) (Reads.bind (reads_stringByte d _) ?_)))
  simp only [ha, hb, hc, hd]
  exact Reads.pure _ _

/-- The four hexadecimal digits the writer gives a code point below 32: two zeros, the sixteens
and the units, in lower case. -/
private theorem hexDigits_below_32 : ∀ v : Fin 32,
    textBytes (String.ofList
        (List.replicate (4 - (Nat.toDigits 16 v).length) '0' ++ Nat.toDigits 16 v)) =
      [48, 48, (48 + v.val / 16).toUInt8, (Nat.digitChar (v.val % 16)).toNat.toUInt8] ∧
    hexValue (48 + v.val / 16).toUInt8 = some (v.val / 16) ∧
    hexValue (Nat.digitChar (v.val % 16)).toNat.toUInt8 = some (v.val % 16) := by
  decide

/-- A \u escape of a code point below 32 stands for the code point's byte. -/
theorem reads_escape_control {v : Nat} (hv : v < 32) :
    Reads escape (117 :: textBytes (String.ofList
        (List.replicate (4 - (Nat.toDigits 16 v).length) '0' ++ Nat.toDigits 16 v)) ++ t)
      (utf8 v) t := by
  obtain ⟨hbytes, hhi, hlo⟩ := hexDigits_below_32 ⟨v, hv⟩
  dsimp only at hbytes hhi hlo
  rw [hbytes, escape]
  refine Reads.bind (reads_stringByte 117 _) (?_ : Reads unicodeEscape _ _ _)
  rw [unicodeEscape]
  have hzero : hexValue 48 = some 0 := by decide
  refine Reads.bind (reads_hexEscape hzero hzero hhi hlo) ?_
  have hval : ((0 * 16 + 0) * 16 + v / 16) * 16 + v % 16 = v := by omega
  have hsurrogate : (decide (0xDC00 ≤ v) && decide (v ≤ 0xDFFF)) = false := by
    simp only [Bool.and_eq_false_iff, decide_eq_false_iff_not]
    omega
  have hbasic : (decide (v < 0xD800) || decide (0xDBFF < v)) = true := by
    simp only [Bool.or_eq_true, decide_eq_true_eq]
    omega
  rw [hval]
  simp only [hsurrogate, hbasic, Bool.false_eq_true, ite_false, ite_true]
  exact Reads.pure _ _

/-! ### Characters and their escapes -/

theorem foldl_push (l : List UInt8) (acc : ByteArray) :
    l.foldl ByteArray.push acc = acc ++ l.toByteArray := by
  induction l generalizing acc with
  | nil => simp
  | cons b l ih =>
    rw [List.foldl_cons, ih, ← ByteArray.append_toByteArray_singleton, ByteArray.append_assoc,
      ← List.toByteArray_append, List.singleton_append]

private theorem plain_of_toNat {b : UInt8} (h32 : 32 ≤ b.toNat) (h34 : b.toNat ≠ 34)
    (h92 : b.toNat ≠ 92) : b ≠ 34 ∧ b ≠ 92 ∧ 32 ≤ b :=
  ⟨fun h => h34 (by rw [h]; rfl), fun h => h92 (by rw [h]; rfl), UInt8.le_iff_toNat_le.mpr h32⟩

/-- The bytes of a character at or above the space, other than the quote and the backslash,
stand for themselves inside a string: its one byte is such a byte, and the bytes of a longer
encoding all have the high bit set. -/
theorem utf8EncodeChar_plain {c : Char} (h32 : 32 ≤ c.toNat) (hq : c ≠ '"') (hb : c ≠ '\\') :
    ∀ b ∈ String.utf8EncodeChar c, b ≠ 34 ∧ b ≠ 92 ∧ 32 ≤ b := by
  have hq' : c.toNat ≠ 34 := fun h => hq (Char.toNat_inj.mp h)
  have hb' : c.toNat ≠ 92 := fun h => hb (Char.toNat_inj.mp h)
  have hval : c.val.toNat = c.toNat := rfl
  intro b hmem
  unfold String.utf8EncodeChar at hmem
  simp only [hval] at hmem
  split at hmem
  · rw [List.mem_singleton] at hmem
    subst hmem
    apply plain_of_toNat <;> simp only [UInt8.toNat_ofNat'] <;> omega
  split at hmem
  · simp only [List.mem_cons, List.not_mem_nil, or_false] at hmem
    rcases hmem with rfl | rfl <;> apply plain_of_toNat <;> simp only [UInt8.toNat_ofNat'] <;> omega
  split at hmem
  · simp only [List.mem_cons, List.not_mem_nil, or_false] at hmem
    rcases hmem with rfl | rfl | rfl <;> apply plain_of_toNat <;> simp only [UInt8.toNat_ofNat'] <;>
      omega
  · simp only [List.mem_cons, List.not_mem_nil, or_false] at hmem
    rcases hmem with rfl | rfl | rfl | rfl <;> apply plain_of_toNat <;>
      simp only [UInt8.toNat_ofNat'] <;> omega

theorem escapeChar_of_control {c : Char} (hq : c ≠ '"') (hb : c ≠ '\\') (hn : c ≠ '\n')
    (hr : c ≠ '\r') (ht : c ≠ '\t') (hbs : c ≠ '\x08') (hf : c ≠ '\x0c') (hc : c.toNat < 32) :
    escapeChar c = "\\u" ++ String.ofList
      (List.replicate (4 - (Nat.toDigits 16 c.toNat).length) '0' ++ Nat.toDigits 16 c.toNat) := by
  unfold escapeChar
  split <;> simp_all

/-- A character at or above the space, other than the quote and the backslash, is written as
itself: the other letter escapes are below the space. -/
theorem escapeChar_of_plain {c : Char} (hq : c ≠ '"') (hb : c ≠ '\\') (hc : 32 ≤ c.toNat) :
    escapeChar c = String.singleton c := by
  unfold escapeChar
  split
  case h_8 => exact if_neg (Nat.not_lt.mpr hc)
  all_goals simp_all

section Characters

variable {pre : List Char} {s : String} {u : List UInt8}

private theorem reads_stringRest_letter {c : Char} {e v : UInt8}
    (hbytes : textBytes (escapeChar c) = [92, e]) (hc : [c].utf8Encode = ⟨#[v]⟩)
    (hesc : Reads escape (e :: t) ⟨#[v]⟩ t) :
    ∃ k ≤ (textBytes (escapeChar c)).length, ∀ n,
      Reads (stringRest n (pre ++ [c]).utf8Encode) t s u →
      Reads (stringRest (n + k) pre.utf8Encode) (textBytes (escapeChar c) ++ t) s u := by
  refine ⟨1, by rw [hbytes]; simp, fun n h => ?_⟩
  rw [List.utf8Encode_append, hc] at h
  rw [hbytes]
  exact reads_stringRest_backslash hesc h

/-- The bytes the writer gives a character inside a string are read back as the character's
UTF-8 bytes, in at most as many steps as there are bytes. The seven characters with a letter
escape and the other control characters, written as a backslash, the letter u and four
hexadecimal digits, take one step; every other character stands for itself. -/
theorem reads_stringRest_char (c : Char) :
    ∃ k ≤ (textBytes (escapeChar c)).length, ∀ n,
      Reads (stringRest n (pre ++ [c]).utf8Encode) t s u →
      Reads (stringRest (n + k) pre.utf8Encode) (textBytes (escapeChar c) ++ t) s u := by
  by_cases hq : c = '"'
  · subst hq
    exact reads_stringRest_letter (e := 34) (v := 34) (by decide) (by decide)
      (reads_escape_letter (by decide))
  by_cases hb : c = '\\'
  · subst hb
    exact reads_stringRest_letter (e := 92) (v := 92) (by decide) (by decide)
      (reads_escape_letter (by decide))
  by_cases hn : c = '\n'
  · subst hn
    exact reads_stringRest_letter (e := 110) (v := 10) (by decide) (by decide)
      (reads_escape_letter (by decide))
  by_cases hr : c = '\r'
  · subst hr
    exact reads_stringRest_letter (e := 114) (v := 13) (by decide) (by decide)
      (reads_escape_letter (by decide))
  by_cases ht : c = '\t'
  · subst ht
    exact reads_stringRest_letter (e := 116) (v := 9) (by decide) (by decide)
      (reads_escape_letter (by decide))
  by_cases hbs : c = '\x08'
  · subst hbs
    exact reads_stringRest_letter (e := 98) (v := 8) (by decide) (by decide)
      (reads_escape_letter (by decide))
  by_cases hf : c = '\x0c'
  · subst hf
    exact reads_stringRest_letter (e := 102) (v := 12) (by decide) (by decide)
      (reads_escape_letter (by decide))
  by_cases hctl : c.toNat < 32
  · have hesc := escapeChar_of_control hq hb hn hr ht hbs hf hctl
    have hutf : utf8 c.toNat = [c].utf8Encode := by
      rw [utf8, String.toUTF8_eq_toByteArray, String.toByteArray_singleton, Char.ofNat_toNat]
    refine ⟨1, by rw [hesc, textBytes_append]; simp [show textBytes "\\u" = [92, 117] by decide],
      fun n h => ?_⟩
    rw [List.utf8Encode_append, ← hutf] at h
    rw [hesc, textBytes_append, show textBytes "\\u" = [92, 117] by decide, List.append_assoc]
    exact reads_stringRest_backslash (reads_escape_control hctl) h
  · have hbytes : textBytes (escapeChar c) = String.utf8EncodeChar c := by
      rw [escapeChar_of_plain hq hb (by omega), textBytes, String.toByteArray_singleton,
        List.utf8Encode_singleton, List.data_toByteArray]
    refine ⟨(String.utf8EncodeChar c).length, Nat.le_of_eq (congrArg List.length hbytes.symm),
      fun n h => ?_⟩
    rw [hbytes]
    refine reads_stringRest_plain _ (utf8EncodeChar_plain (by omega) hq hb) n _ ?_
    rwa [foldl_push, ← List.utf8Encode_singleton, ← List.utf8Encode_append]

end Characters

/-- The bytes of characters as the writer escapes them inside a string. -/
def escapedBytes (cs : List Char) : List UInt8 := cs.flatMap fun c => textBytes (escapeChar c)

theorem textBytes_join (l : List String) : textBytes (String.join l) = l.flatMap textBytes := by
  induction l with
  | nil => rfl
  | cons s l ih => rw [String.join_cons, textBytes_append, ih, List.flatMap_cons]

/-- A string as written: its escaped characters between quotes. -/
theorem textBytes_quote (s : String) :
    textBytes (quote s) = 34 :: escapedBytes s.toList ++ [34] := by
  rw [quote, textBytes_append, textBytes_append, textBytes_join, List.flatMap_map]
  rfl

/-- The escaped characters of a string and its closing quote are read as the string, given
enough steps. -/
theorem reads_stringRest (cs : List Char) : ∀ (pre : List Char) (n : Nat),
    (escapedBytes cs).length < n →
    Reads (stringRest n pre.utf8Encode) (escapedBytes cs ++ 34 :: t) (String.ofList (pre ++ cs)) t := by
  induction cs with
  | nil =>
    intro pre n hn
    obtain ⟨m, rfl⟩ : ∃ m, n = m + 1 := ⟨n - 1, by omega⟩
    simpa [escapedBytes] using reads_stringRest_close pre m
  | cons c cs ih =>
    intro pre n hn
    obtain ⟨k, hk, hread⟩ := @reads_stringRest_char (escapedBytes cs ++ 34 :: t) pre
      (String.ofList (pre ++ c :: cs)) t c
    have hlen : (escapedBytes (c :: cs)).length =
        (textBytes (escapeChar c)).length + (escapedBytes cs).length := by
      simp [escapedBytes]
    obtain ⟨m, rfl⟩ : ∃ m, n = m + k := ⟨n - k, by omega⟩
    have hrest := ih (pre ++ [c]) m (by omega)
    rw [List.append_assoc, List.singleton_append] at hrest
    have hbytes : escapedBytes (c :: cs) = textBytes (escapeChar c) ++ escapedBytes cs := by
      simp [escapedBytes]
    rw [hbytes, List.append_assoc]
    exact hread m hrest

/-- A string after its opening quote. -/
theorem reads_string (cs : List Char) :
    Reads string (escapedBytes cs ++ 34 :: t) (String.ofList cs) t := by
  refine Reads.bind (Reads.remaining _) ?_
  have h := reads_stringRest (t := t) cs [] ((escapedBytes cs ++ 34 :: t).length + 1)
    (by simp only [List.length_append, List.length_cons]; omega)
  rwa [List.utf8Encode_nil, List.nil_append] at h

/-- The quoted form of a text is read back as the text. -/
theorem reads_string_quote (s : String) : Reads string (escapedBytes s.toList ++ 34 :: t) s t := by
  have h := reads_string (t := t) s.toList
  rwa [String.ofList_toList] at h

/-! ## Integers -/

/-- What may follow a number without extending it: nothing, or a byte that is no digit, point or
exponent mark. -/
def EndsNumber (t : List UInt8) : Prop :=
  ∀ b ∈ t.head?, isDigit b = false ∧ b ≠ 46 ∧ b ≠ 101 ∧ b ≠ 69

/-- A decimal digit is one byte, its ASCII code. -/
theorem utf8EncodeChar_digit {c : Char} (h : c.isDigit = true) :
    String.utf8EncodeChar c = [UInt8.ofNat c.toNat] := by
  have hle : c.toNat ≤ 57 := by
    simp only [Char.isDigit, Bool.and_eq_true, decide_eq_true_eq] at h
    exact h.2
  simp [String.utf8EncodeChar, show c.val.toNat = c.toNat from rfl, show c.toNat ≤ 127 by omega]

theorem textBytes_repr (k : Nat) :
    textBytes k.repr = (Nat.toDigits 10 k).map fun c => UInt8.ofNat c.toNat := by
  have hdigits : ∀ l : List Char, (∀ c ∈ l, c.isDigit = true) →
      l.flatMap String.utf8EncodeChar = l.map fun c => UInt8.ofNat c.toNat := by
    intro l hl
    induction l with
    | nil => rfl
    | cons c l ih =>
      rw [List.flatMap_cons, utf8EncodeChar_digit (hl c List.mem_cons_self),
        ih fun x hx => hl x (List.mem_cons_of_mem c hx)]
      rfl
  rw [Nat.repr, textBytes, String.toByteArray_ofList, List.utf8Encode, List.data_toByteArray,
    List.toList_toArray]
  exact hdigits _ fun c hc => Nat.isDigit_of_mem_toDigits (by decide) (by decide) hc

private theorem isDigit_byte {c : Char} (h : c.isDigit = true) :
    isDigit (UInt8.ofNat c.toNat) = true ∧ (UInt8.ofNat c.toNat - 48).toNat = c.toNat - 48 := by
  simp only [Char.isDigit, Bool.and_eq_true, decide_eq_true_eq] at h
  have h48 : 48 ≤ c.toNat := h.1
  have h57 : c.toNat ≤ 57 := h.2
  simp only [isDigit, Bool.and_eq_true, decide_eq_true_eq, UInt8.le_iff_toNat_le,
    UInt8.toNat_ofNat', UInt8.toNat_ofNat, UInt8.toNat_sub]
  omega

/-- The text of a number starts with a digit. -/
theorem textBytes_repr_eq_cons (k : Nat) :
    ∃ b t, textBytes k.repr = b :: t ∧ isDigit b = true := by
  obtain ⟨d, ds, hdigits⟩ : ∃ d ds, Nat.toDigits 10 k = d :: ds :=
    List.exists_cons_of_ne_nil Nat.toDigits_ne_nil
  refine ⟨_, _, by rw [textBytes_repr, hdigits, List.map_cons], ?_⟩
  exact (isDigit_byte (Nat.isDigit_of_mem_toDigits (by decide) (by decide)
    (hdigits ▸ List.mem_cons_self))).1

/-- A digit is no blank, no minus sign and no punctuation of a container. -/
theorem digit_ne {b : UInt8} (h : isDigit b = true) :
    isBlank b = false ∧ b ≠ 44 ∧ b ≠ 45 ∧ b ≠ 93 ∧ b ≠ 125 := by
  simp only [isDigit, Bool.and_eq_true, decide_eq_true_eq, UInt8.le_iff_toNat_le] at h
  have hne : ∀ c : UInt8, c.toNat < 48 ∨ 57 < c.toNat → b ≠ c := by
    intro c hc he
    subst he
    simp only [UInt8.toNat_ofNat] at h
    omega
  simp only [isBlank, Bool.or_eq_false_iff, beq_eq_false_iff_ne]
  exact ⟨⟨⟨⟨hne 32 (by decide), hne 10 (by decide)⟩, hne 9 (by decide)⟩, hne 13 (by decide)⟩,
    hne 44 (by decide), hne 45 (by decide), hne 93 (by decide), hne 125 (by decide)⟩

/-- The digits of an integer are accumulated left to right while they fit 64 bits: the value so
far never passes the value of all the digits. -/
theorem reads_integerDigits {neg : Bool} {r : Number} {u : List UInt8} (ds : List Char)
    (hds : ∀ c ∈ ds, c.isDigit = true) (ht : EndsNumber t) :
    ∀ (sig n : Nat), Nat.ofDigitChars 10 ds sig ≤ maxU64 →
      Reads (afterInteger neg (Nat.ofDigitChars 10 ds sig)) t r u →
      Reads (integerDigits neg (n + ds.length) sig)
        ((ds.map fun c => UInt8.ofNat c.toNat) ++ t) r u := by
  induction ds with
  | nil =>
    intro sig n _ hafter
    cases n with
    | zero => exact hafter
    | succ n =>
      rw [List.map_nil, List.nil_append, List.length_nil, Nat.add_zero, integerDigits]
      cases t with
      | nil => exact Reads.bind Reads.peek_nil hafter
      | cons b t =>
        refine Reads.bind (Reads.peek_cons b t) ?_
        simp only [(ht b rfl).1, Bool.false_eq_true, ite_false]
        exact hafter
  | cons d ds ih =>
    intro sig n hfit hafter
    obtain ⟨hdigit, hvalue⟩ := isDigit_byte (hds d List.mem_cons_self)
    have hnext : Nat.ofDigitChars 10 ds (sig * 10 + (d.toNat - 48)) =
        Nat.ofDigitChars 10 (d :: ds) sig := by
      rw [Nat.ofDigitChars_cons, Nat.mul_comm]
      rfl
    have hbound : sig * 10 + (d.toNat - 48) ≤ maxU64 := by
      have := @Nat.ofDigitChars_eq_ofDigitChars_zero ds (sig * 10 + (d.toNat - 48))
      have : 1 ≤ 10 ^ ds.length := Nat.one_le_pow _ _ (by decide)
      have : sig * 10 + (d.toNat - 48) ≤ 10 ^ ds.length * (sig * 10 + (d.toNat - 48)) :=
        Nat.le_mul_of_pos_left _ this
      omega
    rw [List.map_cons, List.cons_append, List.length_cons, ← Nat.add_assoc, integerDigits]
    refine Reads.bind (Reads.peek_cons _ _) ?_
    simp only [hdigit, ite_true, hvalue, gt_iff_lt, Nat.not_lt.mpr hbound, ite_false]
    refine Reads.bind (Reads.eat _ _) ?_
    exact ih (fun c hc => hds c (List.mem_cons_of_mem d hc)) _ n (hnext ▸ hfit) (hnext ▸ hafter)

/-- Looking past the end of a number finds nothing that extends it. -/
theorem reads_peek_of_endsNumber (ht : EndsNumber t) :
    ∃ o, Reads peek t o t ∧ ∀ b ∈ o, isDigit b = false ∧ b ≠ 46 ∧ b ≠ 101 ∧ b ≠ 69 := by
  cases t with
  | nil => exact ⟨none, Reads.peek_nil, fun _ h => nomatch h⟩
  | cons b t => exact ⟨some b, Reads.peek_cons b t, fun x hx => Option.some.inj hx ▸ ht b rfl⟩

/-- An integer without fraction or exponent is a nonnegative integer of its digits. -/
theorem reads_afterInteger_pos (sig : Nat) (ht : EndsNumber t) :
    Reads (afterInteger false sig) t (.posInt sig) t := by
  obtain ⟨o, hpeek, ho⟩ := reads_peek_of_endsNumber ht
  rw [afterInteger]
  refine Reads.bind hpeek ?_
  split
  · exact absurd rfl (ho 46 rfl).2.1
  · exact absurd rfl (ho 101 rfl).2.2.1
  · exact absurd rfl (ho 69 rfl).2.2.2
  · exact Reads.pure _ _

/-- A negative integer without fraction or exponent is a negative integer while it fits 64 signed
bits. -/
theorem reads_afterInteger_neg {sig : Nat} (h1 : 1 ≤ sig) (h2 : sig ≤ Nat.pow 2 63)
    (ht : EndsNumber t) : Reads (afterInteger true sig) t (.negInt (-(sig : Int))) t := by
  obtain ⟨o, hpeek, ho⟩ := reads_peek_of_endsNumber ht
  rw [afterInteger]
  refine Reads.bind hpeek ?_
  split
  · exact absurd rfl (ho 46 rfl).2.1
  · exact absurd rfl (ho 101 rfl).2.2.1
  · exact absurd rfl (ho 69 rfl).2.2.2
  · have hfits : (decide (1 ≤ sig) && decide (sig ≤ Nat.pow 2 63)) = true := by
      simp only [Bool.and_eq_true, decide_eq_true_eq]
      exact ⟨h1, h2⟩
    simp only [Bool.not_true, Bool.false_eq_true, ite_false, hfits, ite_true]
    exact Reads.pure _ _

/-- The decimal digits of a positive number do not start with a zero. -/
theorem head_toDigits_ne_zero : ∀ {k : Nat}, 0 < k → (Nat.toDigits 10 k).head? ≠ some '0'
  | k, hk => by
    rw [Nat.toDigits_eq_if (by decide)]
    split
    · simp only [List.head?_cons, ne_eq, Option.some.injEq, Nat.digitChar_eq_zero]
      omega
    · rw [List.head?_append, Option.or_of_isSome (by simp)]
      exact head_toDigits_ne_zero (k := k / 10) (by omega)
termination_by k => k
decreasing_by omega

/-- A number without sign is read from its decimal digits while it fits 64 bits: a lone zero is
followed by the end of the number, and a first digit other than zero by the digits after it. -/
theorem reads_number {neg : Bool} {k : Nat} {r : Number} (hk : k ≤ maxU64) (ht : EndsNumber t)
    (hafter : Reads (afterInteger neg k) t r t) : Reads (number neg) (textBytes k.repr ++ t) r t := by
  rw [textBytes_repr]
  obtain ⟨d, ds, hdigits⟩ : ∃ d ds, Nat.toDigits 10 k = d :: ds :=
    List.exists_cons_of_ne_nil Nat.toDigits_ne_nil
  have hall : ∀ c ∈ d :: ds, c.isDigit = true := fun c hc =>
    Nat.isDigit_of_mem_toDigits (by decide) (by decide) (hdigits ▸ hc)
  obtain ⟨hdigit, hvalue⟩ := isDigit_byte (hall d List.mem_cons_self)
  rw [hdigits, List.map_cons, List.cons_append, number]
  refine Reads.bind (reads_next _ _) ?_
  by_cases hk0 : k = 0
  · subst hk0
    rw [Nat.toDigits_zero] at hdigits
    obtain ⟨rfl, rfl⟩ := List.cons.inj hdigits
    obtain ⟨o, hpeek, ho⟩ := reads_peek_of_endsNumber ht
    refine Reads.bind hpeek ?_
    split
    · next _ b =>
      simp only [(ho b rfl).1, Bool.false_eq_true, ite_false]
      exact hafter
    · exact hafter
  · have hd : d ≠ '0' := fun h => head_toDigits_ne_zero (Nat.pos_of_ne_zero hk0) (by
      rw [hdigits, h]
      rfl)
    have hbyte : UInt8.ofNat d.toNat ≠ 48 := by
      intro h
      apply hd
      have hd57 : d.toNat - 48 = 0 := by
        rw [← hvalue, h]
        rfl
      have h48 : 48 ≤ d.toNat := by
        have := hall d List.mem_cons_self
        simp only [Char.isDigit, Bool.and_eq_true, decide_eq_true_eq] at this
        exact this.1
      exact Char.toNat_inj.mp (by rw [show ('0' : Char).toNat = 48 from rfl]; omega)
    have hvalue' : Nat.ofDigitChars 10 ds (d.toNat - 48) = k := by
      have h := Nat.ofDigitChars_ten_toDigits (n := k)
      rw [hdigits, Nat.ofDigitChars_cons] at h
      simpa using h
    split
    · next h => cases h
    · next h => exact absurd (Option.some.inj h) hbyte
    · next _ b _ hb =>
      obtain rfl := Option.some.inj hb
      simp only [hdigit, ite_true]
      refine Reads.bind (Reads.remaining _) ?_
      have hlen : ds.length ≤ ((ds.map fun c => UInt8.ofNat c.toNat) ++ t).length := by simp
      have hn : ((ds.map fun c => UInt8.ofNat c.toNat) ++ t).length + 1 =
          (((ds.map fun c => UInt8.ofNat c.toNat) ++ t).length + 1 - ds.length) + ds.length := by
        omega
      rw [hn, hvalue]
      exact reads_integerDigits ds (fun c hc => hall c (List.mem_cons_of_mem d hc)) ht _ _
        (hvalue' ▸ hk) (hvalue' ▸ hafter)

/-- A nonnegative integer that fits 64 bits, as the writer gives it. -/
theorem reads_signedNumber_pos {k : Nat} (hk : k ≤ maxU64) (ht : EndsNumber t) :
    Reads signedNumber (textBytes k.repr ++ t) (.posInt k) t := by
  have hread := reads_number hk ht (reads_afterInteger_pos k ht)
  obtain ⟨c, u, hcu, hdigit⟩ := textBytes_repr_eq_cons k
  rw [hcu, List.cons_append] at hread ⊢
  rw [signedNumber]
  refine Reads.bind (Reads.peek_cons _ _) ?_
  split
  · next h => exact absurd (Option.some.inj h) (digit_ne hdigit).2.2.1
  · exact hread

/-- A negative integer that fits 64 signed bits, as the writer gives it: a minus sign and the
digits of its magnitude. -/
theorem reads_signedNumber_neg {k : Nat} (h1 : 1 ≤ k) (h2 : k ≤ Nat.pow 2 63) (ht : EndsNumber t) :
    Reads signedNumber (45 :: textBytes k.repr ++ t) (.negInt (-(k : Int))) t := by
  have hk : k ≤ maxU64 := by
    rw [maxU64]
    rw [show Nat.pow 2 63 = 2 ^ 63 from rfl] at h2
    rw [show Nat.pow 2 64 = 2 ^ 64 from rfl]
    omega
  rw [signedNumber]
  refine Reads.bind (Reads.peek_cons _ _) (Reads.bind (Reads.eat _ _) ?_)
  exact reads_number hk ht (reads_afterInteger_neg h1 h2 ht)

end Reader

end PmmlExport.Json
