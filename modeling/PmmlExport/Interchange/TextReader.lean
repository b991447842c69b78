import PmmlExport.Interchange.Schema
import PmmlExport.Json.Cursor

/-!
# Reading the interchange format from text

A value of a schema read straight from JSON text, one byte after another, so that the first
fault in reading order is the one reported. Faults of a value's kind take their position when
the reader leaves the innermost string, number, record or array around them: after the value,
or, for a container, once the byte after its last member has been looked at.

The rules, beyond JSON syntax:
* containers nest at most 127 deep, counting tag objects, records and arrays;
* a union is a bare name or an object with one key; an unknown name is a fault at the end of the
  name; an alternative with a payload cannot be a bare name;
* a record is an object (fields in any order, unknown fields skipped after a syntax check,
  duplicates and missing fields are faults) or an array of the fields in order;
* a byte, a 64-bit integer and a double accept numbers of fitting class and range.
-/

namespace PmmlExport.Interchange

open PmmlExport.Json
open PmmlExport.Json.Reader

variable {κ : Type}

/-- The expectation text of a number shape. -/
def numberExpectation : Shape κ → String
  | .byte => "u8"
  | .int64 => "i64"
  | _ => "f64"

/-- The datum of a number read where a number shape is expected, or the fault that the number
does not fit. -/
def numberDatum (s : Shape κ) (n : Number) : Except Fault Datum :=
  match s, n with
  | .byte, .posInt v =>
    if v ≤ 255 then .ok (.byte v.toUInt8) else .error (.invalidValue (.unsigned v) "u8")
  | .byte, .negInt v => .error (.invalidValue (.signed v) "u8")
  | .byte, .float x => .error (.invalidType (.float x) "u8")
  | .int64, .posInt v =>
    if v < Nat.pow 2 63 then .ok (.int64 (Int64.ofNat v))
    else .error (.invalidValue (.unsigned v) "i64")
  | .int64, .negInt v => .ok (.int64 (Int64.ofInt v))
  | .int64, .float x => .error (.invalidType (.float x) "i64")
  | _, .posInt v => .ok (.real (Binary64.ofFloat (Float.ofNat v)))
  | _, .negInt v => .ok (.real (Binary64.ofFloat (Float.ofInt v)))
  | _, .float x => .ok (.real x)

namespace Reader

/-- A string value. -/
def readString : Reader Datum := fixPosition do
  match ← blank with
  | none => failHere .eofWhileParsingValue
  | some 34 => do eat; let s ← string; pure (.string s)
  | some _ => wrongKind "a string"

/-- A boolean value. -/
def readBool : Reader Datum := fixPosition do
  match ← blank with
  | none => failHere .eofWhileParsingValue
  | some 116 => do eat; ident restOfTrue; pure (.bool true)
  | some 102 => do eat; ident restOfFalse; pure (.bool false)
  | some _ => wrongKind "a boolean"

/-- The unit value `null`. -/
def readUnit : Reader Datum := fixPosition do
  match ← blank with
  | none => failHere .eofWhileParsingValue
  | some 110 => do eat; ident restOfNull; pure .unit
  | some _ => wrongKind "unit"

/-- A number value of a number shape. -/
def readNumber (s : Shape κ) : Reader Datum := fixPosition do
  match ← blank with
  | none => failHere .eofWhileParsingValue
  | some b =>
    if b == 45 || isDigit b then do
      let n ← signedNumber
      match numberDatum s n with
      | .ok d => pure d
      | .error f => fail f
    else wrongKind (numberExpectation s)

mutual

/-- Skip any JSON value after checking its syntax. -/
def skipValue : Nat → Reader Unit
  | 0 => failHere .eofWhileParsingValue
  | n + 1 => do
    match ← blank with
    | none => failHere .eofWhileParsingValue
    | some b =>
      if b == 110 then do eat; ident restOfNull
      else if b == 116 then do eat; ident restOfTrue
      else if b == 102 then do eat; ident restOfFalse
      else if b == 45 || isDigit b then skipNumber
      else if b == 34 then do eat; skipString
      else if b == 91 then do eat; skipArray true n
      else if b == 123 then do eat; skipObject true n
      else failHere .expectedSomeValue

/-- Skip the rest of an array. -/
def skipArray (first : Bool) : Nat → Reader Unit
  | 0 => failHere .eofWhileParsingList
  | n + 1 => do
    match ← blank with
    | some 93 => eat
    | some 44 =>
      if first then skipValue n
      else do eat; skipValue n; skipArray false n
    | some _ =>
      if first then do skipValue n; skipArray false n
      else failHere .expectedListCommaOrEnd
    | none => failHere .eofWhileParsingList

/-- Skip the rest of an object. -/
def skipObject (first : Bool) : Nat → Reader Unit
  | 0 => failHere .eofWhileParsingObject
  | n + 1 => do
    let member : Reader Unit := do
      match ← blank with
      | some 34 => eat
      | some _ => failHere .keyMustBeAString
      | none => failHere .eofWhileParsingObject
      skipString
      match ← blank with
      | some 58 => eat
      | some _ => failHere .expectedColon
      | none => failHere .eofWhileParsingObject
      skipValue n
    match ← blank with
    | some 125 => eat
    | some 44 =>
      if first then do member; skipObject false n
      else do eat; member; skipObject false n
    | some _ =>
      if first then do member; skipObject false n
      else failHere .expectedObjectCommaOrEnd
    | none => failHere .eofWhileParsingObject

end

/-- The position and payload of a named entry. -/
def lookupEntry {α : Type} (entries : List (String × α)) (name : String) : Option (Nat × α) :=
  match entries.findIdx? (·.1 == name) with
  | some i => (entries[i]?).map fun e => (i, e.2)
  | none => none

/-- The record of the fields read, or the fault naming the first field not read. -/
def finishFields (fields : List (String × Shape κ)) (slots : List (Option Datum)) :
    Reader Datum :=
  match (fields.zip slots).find? (·.2.isNone) with
  | some ((name, _), _) => fail (.missingField name)
  | none => pure (.record ((fields.zip slots).map fun ((name, _), d) => (name, d.getD .unit)))

mutual

/-- A value of a shape, with `budget` levels of nesting left. -/
def readShape (schema : κ → Definition κ) (budget : Nat) : Shape κ → Reader Datum
  | .string => readString
  | .bool => readBool
  | .byte => readNumber (Shape.byte : Shape κ)
  | .int64 => readNumber (Shape.int64 : Shape κ)
  | .real => readNumber (Shape.real : Shape κ)
  | .unit => readUnit
  | .seq el => fixPosition do
    match ← blank with
    | none => failHere .eofWhileParsingValue
    | some 91 =>
      match budget with
      | 0 | 1 => failHere .recursionLimitExceeded
      | inner + 2 => do
        eat
        closeWith (do
          let xs ← readItems schema (inner + 1) el true [] ((← remaining) + 1)
          pure (.seq xs)) endArray
    | some _ => wrongKind "a sequence"
  | .named k => readDefinition schema budget k
termination_by (budget, 3, 0)

/-- A value of a named type. -/
def readDefinition (schema : κ → Definition κ) (budget : Nat) (k : κ) : Reader Datum :=
  match schema k with
  | .record name fields => readRecord schema budget ("struct " ++ name) fields
  | .union name alternatives => readUnion schema budget name alternatives
termination_by (budget, 2, 0)

/-- A record, as an object of its fields or an array of them in order. -/
def readRecord (schema : κ → Definition κ) (budget : Nat) (expecting : String)
    (fields : List (String × Shape κ)) : Reader Datum := fixPosition do
  match ← blank with
  | none => failHere .eofWhileParsingValue
  | some 91 =>
    match budget with
    | 0 | 1 => failHere .recursionLimitExceeded
    | inner + 2 => do
      eat
      closeWith (readFieldsInOrder schema (inner + 1) expecting fields.length fields 0 []) endArray
  | some 123 =>
    match budget with
    | 0 | 1 => failHere .recursionLimitExceeded
    | inner + 2 => do
      eat
      closeWith (readFieldsByName schema (inner + 1) fields true (fields.map fun _ => none)
        ((← remaining) + 1)) endObject
  | some _ => wrongKind expecting
termination_by (budget, 1, 0)

/-- A value of a tagged union: a bare name, or an object with the name as its only key. -/
def readUnion (schema : κ → Definition κ) (budget : Nat) (name : String)
    (alternatives : List (String × Payload κ)) : Reader Datum := do
  match ← blank with
  | none => failHere .eofWhileParsingValue
  | some 123 =>
    match budget with
    | 0 | 1 => failHere .recursionLimitExceeded
    | inner + 2 => do
      eat
      let d ← readAlternative schema (inner + 1) name alternatives
      match ← blank with
      | some 125 => do eat; pure d
      | some _ => failHere .expectedSomeValue
      | none => failHere .eofWhileParsingObject
  | some 34 => do
    let tag ← fixPosition do
      eat
      let s ← string
      match lookupEntry alternatives s with
      | some (_, p) => pure (s, p)
      | none => fail (.unknownVariant s (alternatives.map (·.1)))
    match tag.2 with
    | .none => pure (.tag tag.1)
    | .single _ => fail (.invalidType .unitVariant "newtype variant")
    | .fields _ => fail (.invalidType .unitVariant "struct variant")
  | some _ => failHere .expectedSomeValue
termination_by (budget, 1, 0)

/-- The key and value inside the object of a union value. -/
def readAlternative (schema : κ → Definition κ) (budget : Nat) (name : String)
    (alternatives : List (String × Payload κ)) : Reader Datum := do
  let key ← match ← blank with
    | none => failHere .eofWhileParsingObject
    | some 125 => failHere .expectedSomeValue
    | some 34 => do eat; string
    | some _ => failHere .keyMustBeAString
  match lookupEntry alternatives key with
  | none => failHere (.unknownVariant key (alternatives.map (·.1)))
  | some (_, p) => do
    colon
    match p with
    | .none => do let _ ← readUnit; pure (.tag key)
    | .single s => do
      let d ← readShape schema budget s
      pure (.tagged key d)
    | .fields fs => do
      let d ← readRecord schema budget ("struct variant " ++ name ++ "::" ++ key) fs
      pure (.tagged key d)
termination_by (budget, 4, 0)

/-- The elements of an array after `acc`, for at most `n` more. -/
def readItems (schema : κ → Definition κ) (budget : Nat) (el : Shape κ) (first : Bool)
    (acc : List Datum) : Nat → Reader (List Datum)
  | 0 => pure acc.reverse
  | n + 1 => do
    if ← nextElement first then do
      let d ← readShape schema budget el
      readItems schema budget el false (d :: acc) n
    else pure acc.reverse
termination_by n => (budget, 5, n)

/-- The fields of a record given as an array, in declaration order. -/
def readFieldsInOrder (schema : κ → Definition κ) (budget : Nat) (expecting : String)
    (count : Nat) : List (String × Shape κ) → Nat → List (String × Datum) → Reader Datum
  | [], _, acc => pure (.record acc.reverse)
  | (f, s) :: rest, i, acc => do
    if ← nextElement (i == 0) then do
      let d ← readShape schema budget s
      readFieldsInOrder schema budget expecting count rest (i + 1) ((f, d) :: acc)
    else fail (.invalidLength i (withElements expecting count))
termination_by rest => (budget, 5, rest.length)

/-- The members of a record given as an object, for at most `n` more. -/
def readFieldsByName (schema : κ → Definition κ) (budget : Nat)
    (fields : List (String × Shape κ)) (first : Bool) (slots : List (Option Datum)) :
    Nat → Reader Datum
  | 0 => finishFields fields slots
  | n + 1 => do
    match ← nextKey first with
    | none => finishFields fields slots
    | some k =>
      match lookupEntry fields k with
      | some (i, s) =>
        if (slots[i]?).join.isSome then fail (.duplicateField k)
        else do
          colon
          let d ← readShape schema budget s
          readFieldsByName schema budget fields false (slots.set i (some d)) n
      | none => do
        colon
        skipValue ((← remaining) + 1)
        readFieldsByName schema budget fields false slots n
termination_by n => (budget, 5, n)

end

/-- Read a value of a named type from the whole of a byte sequence. -/
def readBytes (schema : κ → Definition κ) (k : κ) (input : ByteArray) :
    Except ReadError Datum :=
  Reader.run (do
    let d ← readShape schema 128 (.named k)
    finish
    pure d) input

/-- Read a value of a named type from the whole of a text. -/
def readText (schema : κ → Definition κ) (k : κ) (text : String) : Except ReadError Datum :=
  readBytes schema k text.toUTF8

end Reader

end PmmlExport.Interchange
