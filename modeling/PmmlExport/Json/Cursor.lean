import PmmlExport.Json.Fault
import PmmlExport.Number.Binary64

/-!
# Reading JSON text

A cursor over the bytes of a JSON text, and the readers of its lexical pieces: blanks, literal
names, numbers and strings. The cursor may hold one byte that has been looked at but not
consumed; positions count every byte taken from the text, the held one included, so that an
error about a byte that was only looked at points at that byte.

Numbers keep their class: a nonnegative integer of at most 64 bits, a negative integer that fits
64 signed bits (`-0` is the double `-0.0`), or else a double read in the steps of
`Binary64.ofDecimal`; digits beyond 64 bits of significand are dropped and only move the decimal
exponent. Strings must close, may not hold raw control characters, and take the escapes
`\" \\ \/ \b \f \n \r \t \uXXXX`, where surrogates must pair.

A decimal `significand * 10 ^ exponent` becomes a double in at most a few rounded steps rather
than by one correctly rounded conversion: the significand is rounded to the nearest double, then
multiplied or divided by the double nearest to `10 ^ |exponent|`. When `|exponent|` exceeds 308
a nonzero value is first divided by `10 ^ 308` as often as needed, and a positive exponent beyond
the table, or a product that overflows, is out of range.
-/

namespace PmmlExport

/-- The double nearest to `10 ^ k`. -/
def powerOfTen (k : Nat) : Float := Float.ofScientific 1 false k

/-- Scale a double by `10 ^ e` in the interchange reader's steps; `none` when out of range. -/
def scaleByPowerOfTen (f : Float) (e : Int) : Option Float :=
  if e.natAbs ≤ 308 then
    if 0 ≤ e then
      let g := f * powerOfTen e.toNat
      if g.isInf then none else some g
    else some (f / powerOfTen e.natAbs)
  else if f == 0 then some f
  else if 0 ≤ e then none
  else scaleByPowerOfTen (f / powerOfTen 308) (e + 308)
termination_by e.natAbs
decreasing_by omega

namespace Binary64

/-- The double read for the decimal `±significand * 10 ^ exponent`; `none` when out of range. -/
def ofDecimal (negative : Bool) (significand : Nat) (exponent : Int) : Option Binary64 :=
  (scaleByPowerOfTen (Float.ofNat significand) exponent).map fun f =>
    ofFloat (if negative then -f else f)

end Binary64

end PmmlExport

namespace PmmlExport.Json

/-- A position in a JSON text: the bytes consumed, and whether the next one has been looked at. -/
structure Cursor where
  input : ByteArray
  pos : Nat
  held : Bool

/-- The line and column after the first `n` bytes of a text. -/
def lineColumn (input : ByteArray) (n : Nat) : Position :=
  (input.toList.take n).foldl
    (fun p b => if b == 10 then ⟨p.line + 1, 0⟩ else ⟨p.line, p.column + 1⟩) ⟨1, 0⟩

namespace Cursor

/-- A cursor at the start of a text. -/
def start (input : ByteArray) : Cursor := ⟨input, 0, false⟩

/-- The number of bytes taken from the text, a held byte included. -/
def taken (c : Cursor) : Nat := if c.held then c.pos + 1 else c.pos

/-- The position of the cursor for error messages. -/
def position (c : Cursor) : Position := lineColumn c.input c.taken

end Cursor

/-- A reader of JSON text: it moves a cursor and may fail; the cursor keeps its place when it
fails. -/
abbrev Reader := ExceptT ReadError (StateM Cursor)

namespace Reader

/-- Look at the next byte without consuming it. -/
def peek : Reader (Option UInt8) :=
  modifyGet fun c =>
    if h : c.pos < c.input.size then (some c.input[c.pos], { c with held := true })
    else (none, c)

/-- Consume the byte just looked at. -/
def eat : Reader Unit :=
  modify fun c => { c with pos := c.pos + 1, held := false }

/-- Consume and return the next byte. -/
def next : Reader (Option UInt8) := do
  match ← peek with
  | some b => eat; pure (some b)
  | none => pure none

/-- The bytes not consumed yet. -/
def remaining : Reader Nat := do
  let c ← get
  pure (c.input.size - c.pos)

/-- Fail with a fault at the current position. -/
def failHere {α : Type} (f : Fault) : Reader α := do
  let c ← get
  throw ⟨f, some c.position⟩

/-- Fail with a fault whose position is not known yet. -/
def fail {α : Type} (f : Fault) : Reader α :=
  throw ⟨f, none⟩

/-- Give a failure without a position the current position. -/
def fixPosition {α : Type} (x : Reader α) : Reader α :=
  tryCatch x fun e =>
    match e.position with
    | some _ => throw e
    | none => do
      let c ← get
      throw ⟨e.fault, some c.position⟩

/-- Run a reader and return its failure as a value; the cursor stays where the reader left it. -/
def attempt {α : Type} (x : Reader α) : Reader (Except ReadError α) :=
  tryCatch (do let a ← x; pure (.ok a)) fun e => pure (.error e)

/-- Run a container's body and then its closing check; a failure of the body wins, but the
closing check runs in either case. -/
def closeWith {α : Type} (body : Reader α) (close : Reader Unit) : Reader α := do
  let r ← attempt body
  let c ← attempt close
  match r, c with
  | .error e, _ => throw e
  | .ok _, .error e => throw e
  | .ok a, .ok () => pure a

/-- The four blank bytes: space, line feed, tab and carriage return. -/
def isBlank (b : UInt8) : Bool := b == 32 || b == 10 || b == 9 || b == 13

/-- An ASCII digit. -/
def isDigit (b : UInt8) : Bool := 48 ≤ b && b ≤ 57

/-- Skip blanks, for at most `n` bytes, and look at the byte after them. -/
def skipBlanks : Nat → Reader (Option UInt8)
  | 0 => peek
  | n + 1 => do
    match ← peek with
    | some b => if isBlank b then do eat; skipBlanks n else pure (some b)
    | none => pure none

/-- Skip blanks and look at the byte after them. -/
def blank : Reader (Option UInt8) := do
  skipBlanks ((← remaining) + 1)

/-- Consume the rest of a literal name whose first byte is consumed. -/
def ident : List UInt8 → Reader Unit
  | [] => pure ()
  | b :: bs => do
    match ← next with
    | none => failHere .eofWhileParsingValue
    | some x => if x == b then ident bs else failHere .expectedSomeIdent

/-- The bytes of `ull`, `rue` and `alse`. -/
def restOfNull : List UInt8 := [117, 108, 108]
/-- The bytes after the `t` of `true`. -/
def restOfTrue : List UInt8 := [114, 117, 101]
/-- The bytes after the `f` of `false`. -/
def restOfFalse : List UInt8 := [97, 108, 115, 101]

/-! ## Numbers -/

/-- The largest 64-bit unsigned integer. -/
def maxU64 : Nat := Nat.pow 2 64 - 1

/-- The largest 32-bit signed integer, the bound of a decimal exponent. -/
def maxI32 : Nat := Nat.pow 2 31 - 1

/-- The double `±significand * 10 ^ exponent`, or the out-of-range fault. -/
def fromParts (negative : Bool) (significand : Nat) (exponent : Int) : Reader Number :=
  match Binary64.ofDecimal negative significand exponent with
  | some x => pure (.float x)
  | none => failHere .numberOutOfRange

/-- Skip the digits that follow, for at most `n` bytes. -/
def skipDigits : Nat → Reader Unit
  | 0 => pure ()
  | n + 1 => do
    match ← peek with
    | some b => if isDigit b then do eat; skipDigits n else pure ()
    | none => pure ()

/-- An exponent bound to 32 signed bits, as the reader keeps it. -/
def saturate (e : Int) : Int := max (-(Nat.pow 2 31 : Int)) (min ((Nat.pow 2 31 : Int) - 1) e)

/-- The digits of an exponent after its first, for at most `n` bytes. -/
def exponentDigits (negative : Bool) (significand : Nat) (start : Int) (plus : Bool) :
    Nat → Nat → Reader Number
  | 0, e => fromParts negative significand (saturate (if plus then start + e else start - e))
  | n + 1, e => do
    match ← peek with
    | some b =>
      if isDigit b then do
        eat
        let e' := e * 10 + (b - 48).toNat
        if e' > maxI32 then
          if significand != 0 && plus then failHere .numberOutOfRange
          else do
            skipDigits ((← remaining) + 1)
            pure (.float (if negative then (Binary64.zero).neg else Binary64.zero))
        else exponentDigits negative significand start plus n e'
      else fromParts negative significand (saturate (if plus then start + e else start - e))
    | none => fromParts negative significand (saturate (if plus then start + e else start - e))

/-- An exponent part, at its `e` or `E`. -/
def exponentPart (negative : Bool) (significand : Nat) (start : Int) : Reader Number := do
  eat
  let plus ← match ← peek with
    | some 43 => do eat; pure true
    | some 45 => do eat; pure false
    | _ => pure true
  match ← next with
  | none => failHere .eofWhileParsingValue
  | some b =>
    if isDigit b then
      exponentDigits negative significand start plus ((← remaining) + 1) (b - 48).toNat
    else failHere .invalidNumber

/-- The end of a number whose further significant digits are dropped. -/
def afterDroppedDigits (negative : Bool) (significand : Nat) (exponent : Int) : Reader Number := do
  skipDigits ((← remaining) + 1)
  match ← peek with
  | some 101 | some 69 => exponentPart negative significand exponent
  | _ => fromParts negative significand exponent

/-- The digits of a fraction, for at most `n` bytes; `scale` counts the digits read. -/
def fractionDigits (negative : Bool) (before : Int) : Nat → Nat → Nat → Reader Number
  | 0, significand, scale => fromParts negative significand (before - scale)
  | n + 1, significand, scale => do
    let stop : Reader Number := do
      if scale == 0 then
        match ← peek with
        | some _ => failHere .invalidNumber
        | none => failHere .eofWhileParsingValue
      else
        match ← peek with
        | some 101 | some 69 => exponentPart negative significand (before - scale)
        | _ => fromParts negative significand (before - scale)
    match ← peek with
    | some b =>
      if isDigit b then
        let d := (b - 48).toNat
        if significand * 10 + d > maxU64 then
          afterDroppedDigits negative significand (before - scale)
        else do
          eat
          fractionDigits negative before n (significand * 10 + d) (scale + 1)
      else stop
    | none => stop

/-- A fraction, at its point. -/
def fraction (negative : Bool) (significand : Nat) (before : Int) : Reader Number := do
  eat
  fractionDigits negative before ((← remaining) + 1) significand 0

/-- The digits of an integer beyond 64 bits, for at most `n` bytes; each moves the exponent. -/
def longDigits (negative : Bool) (significand : Nat) : Nat → Int → Reader Number
  | 0, e => fromParts negative significand e
  | n + 1, e => do
    match ← peek with
    | some b =>
      if isDigit b then do eat; longDigits negative significand n (e + 1)
      else if b == 46 then fraction negative significand e
      else if b == 101 || b == 69 then exponentPart negative significand e
      else fromParts negative significand e
    | none => fromParts negative significand e

/-- What follows the integer digits of a number: a fraction, an exponent, or nothing. -/
def afterInteger (negative : Bool) (significand : Nat) : Reader Number := do
  match ← peek with
  | some 46 => fraction negative significand 0
  | some 101 | some 69 => exponentPart negative significand 0
  | _ =>
    if !negative then pure (.posInt significand)
    else if 1 ≤ significand && significand ≤ Nat.pow 2 63 then
      pure (.negInt (-(significand : Int)))
    else pure (.float (Binary64.ofFloat (-(Float.ofNat significand))))

/-- The integer digits after the first, for at most `n` bytes. -/
def integerDigits (negative : Bool) : Nat → Nat → Reader Number
  | 0, significand => afterInteger negative significand
  | n + 1, significand => do
    match ← peek with
    | some b =>
      if isDigit b then
        let d := (b - 48).toNat
        if significand * 10 + d > maxU64 then
          longDigits negative significand ((← remaining) + 1) 0
        else do
          eat
          integerDigits negative n (significand * 10 + d)
      else afterInteger negative significand
    | none => afterInteger negative significand

/-- A number after its sign, if any. -/
def number (negative : Bool) : Reader Number := do
  match ← next with
  | none => failHere .eofWhileParsingValue
  | some 48 =>
    match ← peek with
    | some b => if isDigit b then failHere .invalidNumber else afterInteger negative 0
    | none => afterInteger negative 0
  | some b =>
    if isDigit b then integerDigits negative ((← remaining) + 1) (b - 48).toNat
    else failHere .invalidNumber

/-- A number whose first byte, a minus sign or a digit, has been looked at. -/
def signedNumber : Reader Number := do
  match ← peek with
  | some 45 => do eat; number true
  | _ => number false

/-! ## Strings -/

/-- The value of a hexadecimal digit. -/
def hexValue (b : UInt8) : Option Nat :=
  if 48 ≤ b && b ≤ 57 then some (b - 48).toNat
  else if 97 ≤ b && b ≤ 102 then some (b - 87).toNat
  else if 65 ≤ b && b ≤ 70 then some (b - 55).toNat
  else none

/-- The next byte of a string, which must be there. -/
def stringByte : Reader UInt8 := do
  match ← next with
  | some b => pure b
  | none => failHere .eofWhileParsingString

/-- Four hexadecimal digits of a `\u` escape. -/
def hexEscape : Reader Nat := do
  let a ← stringByte
  let b ← stringByte
  let c ← stringByte
  let d ← stringByte
  match hexValue a, hexValue b, hexValue c, hexValue d with
  | some a, some b, some c, some d => pure (((a * 16 + b) * 16 + c) * 16 + d)
  | _, _, _, _ => failHere .invalidEscape

/-- The UTF-8 bytes of a code point. -/
def utf8 (n : Nat) : ByteArray := (String.singleton (Char.ofNat n)).toUTF8

/-- The code point of a `\u` escape whose `u` is consumed; surrogates must come in pairs. -/
def unicodeEscape : Reader ByteArray := do
  let n ← hexEscape
  if 0xDC00 ≤ n && n ≤ 0xDFFF then failHere .loneLeadingSurrogateInHexEscape
  else if n < 0xD800 || 0xDBFF < n then pure (utf8 n)
  else
    match ← peek with
    | none => failHere .eofWhileParsingString
    | some b =>
      eat
      if b != 92 then failHere .unexpectedEndOfHexEscape
      else
        match ← peek with
        | none => failHere .eofWhileParsingString
        | some u =>
          eat
          if u != 117 then failHere .unexpectedEndOfHexEscape
          else do
            let n2 ← hexEscape
            if n2 < 0xDC00 || 0xDFFF < n2 then failHere .loneLeadingSurrogateInHexEscape
            else pure (utf8 ((n - 0xD800) * 0x400 + (n2 - 0xDC00) + 0x10000))

/-- The bytes an escape stands for, its backslash consumed. -/
def escape : Reader ByteArray := do
  let b ← stringByte
  match b with
  | 34 => pure (ByteArray.mk #[34])
  | 92 => pure (ByteArray.mk #[92])
  | 47 => pure (ByteArray.mk #[47])
  | 98 => pure (ByteArray.mk #[8])
  | 102 => pure (ByteArray.mk #[12])
  | 110 => pure (ByteArray.mk #[10])
  | 114 => pure (ByteArray.mk #[13])
  | 116 => pure (ByteArray.mk #[9])
  | 117 => unicodeEscape
  | _ => failHere .invalidEscape

/-- The rest of a string, for at most `n` more bytes, after the bytes `acc`. -/
def stringRest : Nat → ByteArray → Reader String
  | 0, _ => failHere .eofWhileParsingString
  | n + 1, acc => do
    let b ← stringByte
    if b == 34 then
      match String.fromUTF8? acc with
      | some s => pure s
      | none => failHere .invalidUnicodeCodePoint
    else if b == 92 then do
      let more ← escape
      stringRest n (acc ++ more)
    else if b < 32 then failHere .controlCharacterWhileParsingString
    else stringRest n (acc.push b)

/-- A string whose opening quote is consumed. -/
def string : Reader String := do
  stringRest ((← remaining) + 1) ByteArray.empty

/-- Skip an escape, its backslash consumed; a `\u` escape needs four hexadecimal digits and
nothing more. -/
def skipEscape : Reader Unit := do
  let b ← stringByte
  if b == 34 || b == 92 || b == 47 || b == 98 || b == 102 || b == 110 || b == 114 || b == 116
  then pure ()
  else if b == 117 then do let _ ← hexEscape; pure ()
  else failHere .invalidEscape

/-- Skip the rest of a string, for at most `n` more bytes. -/
def skipStringRest : Nat → Reader Unit
  | 0 => failHere .eofWhileParsingString
  | n + 1 => do
    let b ← stringByte
    if b == 34 then pure ()
    else if b == 92 then do skipEscape; skipStringRest n
    else if b < 32 then failHere .controlCharacterWhileParsingString
    else skipStringRest n

/-- Skip a string whose opening quote is consumed. -/
def skipString : Reader Unit := do
  skipStringRest ((← remaining) + 1)

/-- Skip a number whose first byte has been looked at; only its form is checked. -/
def skipNumber : Reader Unit := do
  match ← peek with
  | some 45 => eat
  | _ => pure ()
  match ← next with
  | some 48 =>
    match ← peek with
    | some b => if isDigit b then failHere .invalidNumber else pure ()
    | none => pure ()
  | some b => if isDigit b then skipDigits ((← remaining) + 1) else failHere .invalidNumber
  | none => failHere .invalidNumber
  match ← peek with
  | some 46 =>
    eat
    match ← peek with
    | some b =>
      if isDigit b then skipDigits ((← remaining) + 1) else failHere .invalidNumber
    | none => failHere .invalidNumber
  | _ => pure ()
  match ← peek with
  | some 101 | some 69 =>
    eat
    match ← peek with
    | some 43 | some 45 => eat
    | _ => pure ()
    match ← next with
    | some b => if isDigit b then skipDigits ((← remaining) + 1) else failHere .invalidNumber
    | none => failHere .invalidNumber
  | _ => pure ()

/-! ## Containers -/

/-- Before an element of an array: `true` if one follows, `false` at the closing bracket. -/
def nextElement (first : Bool) : Reader Bool := do
  match ← blank with
  | some 93 => pure false
  | some 44 =>
    if first then pure true
    else do
      eat
      match ← blank with
      | some 93 => failHere .trailingComma
      | some _ => pure true
      | none => failHere .eofWhileParsingValue
  | some _ => if first then pure true else failHere .expectedListCommaOrEnd
  | none => failHere .eofWhileParsingList

/-- Before a member of an object: its key, or `none` at the closing brace. -/
def nextKey (first : Bool) : Reader (Option String) := do
  let atKey : Option UInt8 → Reader (Option String) := fun
    | some 34 => do eat; let s ← string; pure (some s)
    | some 125 => failHere .trailingComma
    | some _ => failHere .keyMustBeAString
    | none => failHere .eofWhileParsingValue
  match ← blank with
  | some 125 => pure none
  | some 44 =>
    if first then atKey (some 44)
    else do eat; atKey (← blank)
  | some b => if first then atKey (some b) else failHere .expectedObjectCommaOrEnd
  | none => failHere .eofWhileParsingObject

/-- The colon between a key and its value. -/
def colon : Reader Unit := do
  match ← blank with
  | some 58 => eat
  | some _ => failHere .expectedColon
  | none => failHere .eofWhileParsingObject

/-- The end of an array whose elements are all read. -/
def endArray : Reader Unit := do
  match ← blank with
  | some 93 => eat
  | some 44 =>
    eat
    match ← blank with
    | some 93 => failHere .trailingComma
    | _ => failHere .trailingCharacters
  | some _ => failHere .trailingCharacters
  | none => failHere .eofWhileParsingList

/-- The end of an object whose members are all read. -/
def endObject : Reader Unit := do
  match ← blank with
  | some 125 => eat
  | some 44 => failHere .trailingComma
  | some _ => failHere .trailingCharacters
  | none => failHere .eofWhileParsingObject

/-- Enter a container at its opening bracket: one level of the nesting budget is used up, and
the last level may not be entered. -/
def enter (budget : Nat) : Reader Unit := do
  if budget ≤ 1 then failHere .recursionLimitExceeded else eat

/-- Fail because the value ahead is of the wrong kind: read as much of it as names its kind. -/
def wrongKind {α : Type} (expected : String) : Reader α := do
  let found ← match ← peek with
    | some 110 => do eat; ident restOfNull; pure Unexpected.null
    | some 116 => do eat; ident restOfTrue; pure (Unexpected.bool true)
    | some 102 => do eat; ident restOfFalse; pure (Unexpected.bool false)
    | some 34 => do eat; let s ← string; pure (Unexpected.str s)
    | some 91 => pure Unexpected.seq
    | some 123 => pure Unexpected.map
    | some b =>
      if b == 45 || isDigit b then do
        let n ← signedNumber
        pure (Unexpected.ofNumber n)
      else failHere .expectedSomeValue
    | none => failHere .expectedSomeValue
  failHere (.invalidType found expected)

/-- After a whole value: only blanks may follow. -/
def finish : Reader Unit := do
  match ← blank with
  | some _ => failHere .trailingCharacters
  | none => pure ()

/-- Run a reader on the bytes of a text. -/
def run {α : Type} (r : Reader α) (input : ByteArray) : Except ReadError α :=
  (StateT.run (ExceptT.run r) (Cursor.start input)).1

end Reader

end PmmlExport.Json
