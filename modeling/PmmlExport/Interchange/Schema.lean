import PmmlExport.Json.Value

/-!
# The interchange format

Trees are exchanged as JSON in the externally tagged form. A record is an object of its fields
by name (a reader also takes an array of the fields in order). A tagged union writes an
alternative without payload as its bare name, and any other alternative as an object with the
name as its only key and the payload as its value: a single value, or a record of fields.

A schema gives each named type of a format its definition. A `Datum` is a value of a schema:
the reader produces one, the writer consumes one, and each domain type converts to and from it.
-/

namespace PmmlExport.Interchange

/-- The shape of a value in the interchange format, over names of types `κ`. -/
inductive Shape (κ : Type) where
  | string
  | bool
  | byte
  | int64
  | real
  | unit
  | seq (element : Shape κ)
  | named (k : κ)

/-- The payload of one alternative of a tagged union. -/
inductive Payload (κ : Type) where
  | none
  | single (s : Shape κ)
  | fields (fs : List (String × Shape κ))

/-- What a named type is: a tagged union of named alternatives, or a record of named fields.
The name is the type's own, used in messages. -/
inductive Definition (κ : Type) where
  | union (name : String) (alternatives : List (String × Payload κ))
  | record (name : String) (fields : List (String × Shape κ))

/-- A value in the interchange format. -/
inductive Datum where
  | string (s : String)
  | bool (b : Bool)
  | byte (n : UInt8)
  | int64 (n : Int64)
  | real (x : Binary64)
  | unit
  | seq (items : List Datum)
  /-- An alternative without payload. -/
  | tag (name : String)
  /-- An alternative with a payload. -/
  | tagged (name : String) (payload : Datum)
  /-- A record, its fields in declaration order. -/
  | record (fields : List (String × Datum))

/-- The text of an expectation for a record read from an array of `n` fields. -/
def withElements (expecting : String) (n : Nat) : String :=
  expecting ++ " with " ++ Nat.repr n ++ (if n == 1 then " element" else " elements")

/-- The position of a name in a list of named entries. -/
def indexOfName {α : Type} (entries : List (String × α)) (name : String) : Option Nat :=
  entries.findIdx? (·.1 == name)

end PmmlExport.Interchange
