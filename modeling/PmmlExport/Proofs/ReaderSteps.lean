import PmmlExport.Interchange.TextReader

/-!
# Running a reader

A reader of JSON text is a computation over a cursor that may fail. `Reader.step` runs one from a
cursor and gives its result and the cursor it leaves. Each primitive of the reader has an
equation for it here, and binds, handlers and the container combinators reduce to their parts;
the cursor is seen through `Cursor.rest`, the bytes it has not consumed.

`Reader.Ensures r P` says that whatever `r` returns, when it succeeds from any cursor, satisfies
`P`: a postcondition that ignores the bytes, built up along the same decomposition.
-/

namespace PmmlExport.Json

namespace Cursor

/-- The bytes not consumed yet. -/
def rest (c : Cursor) : List UInt8 := c.input.data.toList.drop c.pos

/-- Looking at a byte does not consume it. -/
@[simp] theorem rest_held (c : Cursor) (h : Bool) : ({ c with held := h } : Cursor).rest = c.rest :=
  rfl

theorem rest_eq_cons_iff {c : Cursor} {b : UInt8} {t : List UInt8} :
    c.rest = b :: t ↔ ∃ h : c.pos < c.input.size, c.input[c.pos] = b ∧
      c.input.data.toList.drop (c.pos + 1) = t := by
  simp only [rest]
  constructor
  · intro hr
    have hget : c.input.data.toList[c.pos]? = some b := by
      have := congrArg List.head? hr
      simpa [List.head?_drop] using this
    obtain ⟨hlt, hb⟩ := List.getElem?_eq_some_iff.mp hget
    refine ⟨by simpa using hlt, by simpa [ByteArray.getElem_eq_getElem_data] using hb, ?_⟩
    have := congrArg List.tail hr
    simpa [List.tail_drop] using this
  · rintro ⟨hlen, rfl, hdrop⟩
    rw [List.drop_eq_getElem_cons (by simpa using hlen), hdrop]
    simp [ByteArray.getElem_eq_getElem_data]

theorem rest_eq_nil_iff {c : Cursor} : c.rest = [] ↔ ¬ c.pos < c.input.size := by
  simp [rest]

/-- Consuming a byte that was there leaves the bytes after it. -/
theorem rest_advance {c : Cursor} {b : UInt8} {t : List UInt8} (h : c.rest = b :: t) (held : Bool) :
    ({ c with pos := c.pos + 1, held := held } : Cursor).rest = t := by
  obtain ⟨-, -, hdrop⟩ := rest_eq_cons_iff.mp h
  exact hdrop

end Cursor

namespace Reader

variable {α β : Type}

/-- Run a reader from a cursor: its result and the cursor it leaves. -/
def step (r : Reader α) (c : Cursor) : Except ReadError α × Cursor :=
  (ExceptT.run r).run c

@[simp] theorem step_pure (a : α) (c : Cursor) : step (pure a) c = (.ok a, c) := rfl

theorem step_bind (x : Reader α) (f : α → Reader β) (c : Cursor) :
    step (x >>= f) c = match step x c with
      | (.ok a, c') => step (f a) c'
      | (.error e, c') => (.error e, c') := by
  simp only [step, ExceptT.run_bind, StateT.run_bind]
  rcases (ExceptT.run x).run c with ⟨_ | a, c'⟩ <;> rfl

theorem step_bind_ok {x : Reader α} {f : α → Reader β} {c c' : Cursor} {a : α}
    (h : step x c = (.ok a, c')) : step (x >>= f) c = step (f a) c' := by
  rw [step_bind, h]

theorem step_bind_error {x : Reader α} {f : α → Reader β} {c c' : Cursor} {e : ReadError}
    (h : step x c = (.error e, c')) : step (x >>= f) c = (.error e, c') := by
  rw [step_bind, h]

@[simp] theorem step_throw (e : ReadError) (c : Cursor) :
    step (throw e : Reader α) c = (.error e, c) := rfl

@[simp] theorem step_get (c : Cursor) : step (get : Reader Cursor) c = (.ok c, c) := rfl

theorem step_modifyGet (f : Cursor → α × Cursor) (c : Cursor) :
    step (modifyGet f : Reader α) c = (.ok (f c).1, (f c).2) := rfl

theorem step_tryCatch (x : Reader α) (h : ReadError → Reader α) (c : Cursor) :
    step (tryCatch x h) c = match step x c with
      | (.ok a, c') => (.ok a, c')
      | (.error e, c') => step (h e) c' := by
  show ((ExceptT.tryCatch x h).run).run c = _
  simp only [ExceptT.tryCatch, ExceptT.run_mk, StateT.run_bind, step]
  rcases hx : (ExceptT.run x).run c with ⟨_ | a, c'⟩ <;> erw [hx] <;> rfl

/-! ### The primitives -/

theorem step_peek_cons {c : Cursor} {b : UInt8} {t : List UInt8} (h : c.rest = b :: t) :
    step peek c = (.ok (some b), { c with held := true }) := by
  obtain ⟨hlt, hb, -⟩ := Cursor.rest_eq_cons_iff.mp h
  rw [peek, step_modifyGet]
  simp [hlt, hb]

theorem step_peek_nil {c : Cursor} (h : c.rest = []) : step peek c = (.ok none, c) := by
  rw [peek, step_modifyGet]
  simp [Cursor.rest_eq_nil_iff.mp h]

@[simp] theorem step_eat (c : Cursor) :
    step eat c = (.ok (), { c with pos := c.pos + 1, held := false }) := rfl

@[simp] theorem step_remaining (c : Cursor) : step remaining c = (.ok (c.input.size - c.pos), c) :=
  rfl

theorem remaining_eq_length_rest (c : Cursor) : c.input.size - c.pos = c.rest.length := by
  simp [Cursor.rest]

@[simp] theorem step_failHere (f : Fault) (c : Cursor) :
    step (failHere f : Reader α) c = (.error ⟨f, some c.position⟩, c) := rfl

@[simp] theorem step_fail (f : Fault) (c : Cursor) :
    step (fail f : Reader α) c = (.error ⟨f, none⟩, c) := rfl

theorem step_fixPosition (x : Reader α) (c : Cursor) :
    step (fixPosition x) c = match step x c with
      | (.ok a, c') => (.ok a, c')
      | (.error e, c') =>
        (.error (match e.position with
          | some _ => e
          | none => ⟨e.fault, some c'.position⟩), c') := by
  rw [fixPosition, step_tryCatch]
  rcases step x c with ⟨_ | a, c'⟩
  · next e =>
    rcases e with ⟨f, _ | p⟩ <;> rfl
  · rfl

theorem step_attempt (x : Reader α) (c : Cursor) :
    step (attempt x) c = match step x c with
      | (.ok a, c') => (.ok (.ok a), c')
      | (.error e, c') => (.ok (.error e), c') := by
  rw [attempt, step_tryCatch, step_bind]
  rcases step x c with ⟨_ | a, c'⟩ <;> rfl

/-- A container runs its body, then its closing check whatever the body did; the body's failure
is reported first, then the check's. -/
theorem step_closeWith (x : Reader α) (close : Reader Unit) (c : Cursor) :
    step (closeWith x close) c = match step x c with
      | (.error e, c₁) => (.error e, (step close c₁).2)
      | (.ok a, c₁) => match step close c₁ with
        | (.ok (), c₂) => (.ok a, c₂)
        | (.error e, c₂) => (.error e, c₂) := by
  rw [closeWith, step_bind, step_attempt]
  rcases step x c with ⟨_ | a, c₁⟩ <;>
    simp only <;> rw [step_bind, step_attempt] <;> rcases step close c₁ with ⟨_ | u, c₂⟩ <;> rfl

/-- A container's body failing is the container failing with the same error. -/
theorem step_closeWith_error {x : Reader α} {close : Reader Unit} {c c' : Cursor} {e : ReadError}
    (h : step x c = (.error e, c')) :
    step (closeWith x close) c = (.error e, (step close c').2) := by
  rw [step_closeWith, h]

/-- A container whose body and closing check both succeed gives the body's value. -/
theorem step_closeWith_ok {x : Reader α} {close : Reader Unit} {c c' c'' : Cursor} {a : α}
    (h : step x c = (.ok a, c')) (hclose : step close c' = (.ok (), c'')) :
    step (closeWith x close) c = (.ok a, c'') := by
  rw [step_closeWith, h]
  simp only [hclose]

/-! ### Postconditions -/

/-- Whatever the reader returns when it succeeds, from any cursor, satisfies `P`. -/
def Ensures (r : Reader α) (P : α → Prop) : Prop :=
  ∀ c a c', step r c = (.ok a, c') → P a

namespace Ensures

variable {P : α → Prop}

theorem of_forall {r : Reader α} (h : ∀ a, P a) : Ensures r P :=
  fun _ a _ _ => h a

theorem mono {r : Reader α} {Q : α → Prop} (h : Ensures r P) (hPQ : ∀ a, P a → Q a) :
    Ensures r Q :=
  fun c a c' hr => hPQ a (h c a c' hr)

/-- What a reader ensures holds of the value it gives when run on a whole input. -/
theorem run {r : Reader α} {input : ByteArray} {a : α} (h : Ensures r P)
    (hrun : Reader.run r input = .ok a) : P a :=
  h (Cursor.start input) a _ (Prod.ext hrun rfl)

theorem pure {a : α} (h : P a) : Ensures (Pure.pure a) P := by
  intro c a' c' hr
  cases hr
  exact h

theorem bind {x : Reader β} {f : β → Reader α} {Q : β → Prop} (hx : Ensures x Q)
    (hf : ∀ b, Q b → Ensures (f b) P) : Ensures (x >>= f) P := by
  intro c a c' hr
  rw [step_bind] at hr
  rcases hstep : step x c with ⟨_ | b, c₁⟩ <;> rw [hstep] at hr
  · cases hr
  · exact hf b (hx c b c₁ hstep) c₁ a c' hr

/-- A continuation that ensures `P` after any value ensures it after any reader. -/
theorem after {x : Reader β} {f : β → Reader α} (hf : ∀ b, Ensures (f b) P) :
    Ensures (x >>= f) P :=
  bind (of_forall (P := fun _ => True) fun _ => trivial) fun b _ => hf b

/-- A reader that ends by failing returns nothing. -/
theorem throw {e : ReadError} : Ensures (MonadExcept.throw e : Reader α) P := by
  intro c a c' hr
  cases hr

theorem failHere {f : Fault} : Ensures (Reader.failHere f : Reader α) P := by
  intro c a c' hr
  cases hr

theorem fail {f : Fault} : Ensures (Reader.fail f : Reader α) P := by
  intro c a c' hr
  cases hr

/-- A reader that starts by failing returns nothing, whatever would follow. -/
theorem failHere_bind {f : Fault} {g : β → Reader α} :
    Ensures (Reader.failHere f >>= g) P :=
  bind (Q := fun _ => False) failHere fun _ h => h.elim

/-- Reading a value of the wrong kind always ends in a failure: every kind the reader names goes
on to the same failure. -/
theorem wrongKind {expected : String} : Ensures (Reader.wrongKind expected : Reader α) P := by
  unfold Reader.wrongKind
  refine after fun _ => ?_
  dsimp only
  split
  · exact after fun _ => after fun _ => after fun _ => failHere
  · exact after fun _ => after fun _ => after fun _ => failHere
  · exact after fun _ => after fun _ => after fun _ => failHere
  · exact after fun _ => after fun _ => after fun _ => failHere
  · exact after fun _ => failHere
  · exact after fun _ => failHere
  · split
    · exact after fun _ => after fun _ => failHere
    · exact failHere
  · exact failHere

theorem fixPosition {x : Reader α} (h : Ensures x P) : Ensures (Reader.fixPosition x) P := by
  intro c a c' hr
  rw [step_fixPosition] at hr
  rcases hstep : step x c with ⟨_ | a', c₁⟩ <;> rw [hstep] at hr
  · cases hr
  · simp only [Prod.mk.injEq, Except.ok.injEq] at hr
    obtain ⟨rfl, rfl⟩ := hr
    exact h c a' c₁ hstep

theorem closeWith {x : Reader α} {close : Reader Unit} (h : Ensures x P) :
    Ensures (Reader.closeWith x close) P := by
  intro c a c' hr
  rw [step_closeWith] at hr
  rcases hstep : step x c with ⟨_ | a', c₁⟩ <;> rw [hstep] at hr
  · cases hr
  · simp only at hr
    rcases hclose : step close c₁ with ⟨_ | u, c₂⟩ <;> rw [hclose] at hr <;>
      simp only [Prod.mk.injEq, Except.ok.injEq, reduceCtorEq, false_and] at hr
    obtain ⟨rfl, rfl⟩ := hr
    exact h c a' c₁ hstep

end Ensures

/-! ### Reading a known input -/

/-- From any cursor with `input` ahead, the reader returns `a` and leaves `rest` ahead. -/
def Reads (r : Reader α) (input : List UInt8) (a : α) (rest : List UInt8) : Prop :=
  ∀ c, c.rest = input → ∃ c', step r c = (.ok a, c') ∧ c'.rest = rest

/-- From any cursor with `input` ahead, the reader fails at the nesting limit, with a position. -/
def StopsAtLimit (r : Reader α) (input : List UInt8) : Prop :=
  ∀ c, c.rest = input → ∃ e c', step r c = (.error e, c') ∧
    e.fault = .recursionLimitExceeded ∧ e.position.isSome

namespace Reads

variable {input middle rest : List UInt8}

theorem pure (a : α) (input : List UInt8) : Reads (Pure.pure a) input a input :=
  fun c hc => ⟨c, rfl, hc⟩

theorem bind {x : Reader β} {f : β → Reader α} {b : β} {a : α} (hx : Reads x input b middle)
    (hf : Reads (f b) middle a rest) : Reads (x >>= f) input a rest := by
  intro c hc
  obtain ⟨c₁, h₁, hc₁⟩ := hx c hc
  obtain ⟨c₂, h₂, hc₂⟩ := hf c₁ hc₁
  exact ⟨c₂, by rw [step_bind_ok h₁, h₂], hc₂⟩

theorem eat (b : UInt8) (t : List UInt8) : Reads Reader.eat (b :: t) () t :=
  fun c hc => ⟨_, step_eat c, Cursor.rest_advance hc false⟩

theorem peek_cons (b : UInt8) (t : List UInt8) : Reads peek (b :: t) (some b) (b :: t) :=
  fun c hc => ⟨_, step_peek_cons hc, by rw [Cursor.rest_held, hc]⟩

theorem peek_nil : Reads peek [] none [] :=
  fun c hc => ⟨c, step_peek_nil hc, hc⟩

theorem remaining (input : List UInt8) : Reads Reader.remaining input input.length input :=
  fun c hc => ⟨c, by rw [step_remaining, remaining_eq_length_rest, hc], hc⟩

theorem fixPosition {x : Reader α} {a : α} (h : Reads x input a rest) :
    Reads (Reader.fixPosition x) input a rest := by
  intro c hc
  obtain ⟨c', hx, hc'⟩ := h c hc
  exact ⟨c', by rw [step_fixPosition, hx], hc'⟩

theorem closeWith {x : Reader α} {close : Reader Unit} {a : α} (hx : Reads x input a middle)
    (hclose : Reads close middle () rest) : Reads (Reader.closeWith x close) input a rest := by
  intro c hc
  obtain ⟨c₁, h₁, hc₁⟩ := hx c hc
  obtain ⟨c₂, h₂, hc₂⟩ := hclose c₁ hc₁
  exact ⟨c₂, step_closeWith_ok h₁ h₂, hc₂⟩

/-- A reader that reads the whole of a byte sequence's text returns its value when run. -/
theorem run_eq {r : Reader α} {input : ByteArray} {a : α} (h : Reads r input.data.toList a rest) :
    Reader.run r input = .ok a := by
  obtain ⟨c', hstep, -⟩ := h (Cursor.start input) (by simp [Cursor.rest, Cursor.start])
  exact congrArg Prod.fst hstep

end Reads

namespace StopsAtLimit

variable {input middle : List UInt8}

theorem failHere (input : List UInt8) :
    StopsAtLimit (Reader.failHere .recursionLimitExceeded : Reader α) input :=
  fun c _ => ⟨_, c, step_failHere _ c, rfl, rfl⟩

/-- A reader that stops at the limit stops whatever would follow. -/
theorem bind {x : Reader β} {f : β → Reader α} (h : StopsAtLimit x input) :
    StopsAtLimit (x >>= f) input := by
  intro c hc
  obtain ⟨e, c', hx, he⟩ := h c hc
  exact ⟨e, c', step_bind_error hx, he⟩

/-- A continuation that stops at the limit after what a reader reads stops the whole. -/
theorem bind_of_reads {x : Reader β} {f : β → Reader α} {b : β}
    (hx : Reads x input b middle) (hf : StopsAtLimit (f b) middle) :
    StopsAtLimit (x >>= f) input := by
  intro c hc
  obtain ⟨c₁, h₁, hc₁⟩ := hx c hc
  obtain ⟨e, c₂, h₂, he⟩ := hf c₁ hc₁
  exact ⟨e, c₂, by rw [step_bind_ok h₁, h₂], he⟩

/-- A failure that has its position keeps it. -/
theorem fixPosition {x : Reader α} (h : StopsAtLimit x input) :
    StopsAtLimit (Reader.fixPosition x) input := by
  intro c hc
  obtain ⟨⟨f, p⟩, c', hx, hf, hp⟩ := h c hc
  obtain ⟨p, rfl⟩ := Option.isSome_iff_exists.mp hp
  exact ⟨⟨f, some p⟩, c', by rw [step_fixPosition, hx], hf, rfl⟩

/-- A container whose body stops at the limit reports that failure. -/
theorem closeWith {x : Reader α} {close : Reader Unit} (h : StopsAtLimit x input) :
    StopsAtLimit (Reader.closeWith x close) input := by
  intro c hc
  obtain ⟨e, c', hx, he⟩ := h c hc
  exact ⟨e, _, step_closeWith_error hx, he⟩

/-- Run on a byte sequence, a reader that stops at the limit fails with that fault. -/
theorem run_eq {r : Reader α} {input : ByteArray} (h : StopsAtLimit r input.data.toList) :
    ∃ e, Reader.run r input = .error e ∧ e.fault = .recursionLimitExceeded ∧
      e.position.isSome := by
  obtain ⟨e, c', hstep, he⟩ := h (Cursor.start input) (by simp [Cursor.rest, Cursor.start])
  exact ⟨e, congrArg Prod.fst hstep, he⟩

end StopsAtLimit

end Reader

end PmmlExport.Json
