import PmmlExport.Interchange.Encoding
import PmmlExport.Interchange.TextReader
import PmmlExport.Json.Print

/-!
# Exchanging trees

The program exchanges its trees as JSON through a JSON library, which writes the text of a
document and reads a value of one of the exchanged forms from bytes. A datum of the data model
is written as a document in the externally tagged form: a record becomes an object of its fields
in declaration order, an alternative without payload its bare name, any other alternative an
object with its name as the only key, a byte or an integer a number, and a double a number when
finite and `null` otherwise.

An expression read through a library that fails on the nesting limit is reported as too deep,
every other failure as malformed; the classification goes by the text of the library's message,
which names the limit. The library's own reader and writer are `JsonLibrary.builtin`.
-/

namespace PmmlExport.Interchange

open PmmlExport.Json

mutual

/-- The document of a datum. -/
def Datum.toJson : Datum → Value
  | .string s => .string s
  | .bool b => .bool b
  | .byte n => .number (.posInt n.toNat)
  | .int64 n => if 0 ≤ n.toInt then .number (.posInt n.toInt.toNat) else .number (.negInt n.toInt)
  | .real x => if x.isFinite then .number (.float x) else .null
  | .unit => .null
  | .seq items => .array (Datum.itemsToJson items)
  | .tag name => .string name
  | .tagged name payload => .object [(name, payload.toJson)]
  | .record fields => .object (Datum.fieldsToJson fields)

/-- The documents of a list of data. -/
def Datum.itemsToJson : List Datum → List Value
  | [] => []
  | d :: ds => d.toJson :: Datum.itemsToJson ds

/-- The members of a record's fields. -/
def Datum.fieldsToJson : List (String × Datum) → List (String × Value)
  | [] => []
  | (k, d) :: ds => (k, d.toJson) :: Datum.fieldsToJson ds

end

end PmmlExport.Interchange

namespace PmmlExport

open PmmlExport.Interchange
open PmmlExport.Json

/-- What the program takes from its JSON library: the one-line text of a document, and the
value of one of the exchanged forms read from the whole of a byte sequence. -/
structure JsonLibrary where
  /-- The one-line text of a document. -/
  write : Value → String
  /-- The value of a form read from the whole of a byte sequence, or why it cannot be read. -/
  read : Form → ByteArray → Except ReadError Datum

/-- The JSON reader and writer of this library. -/
def JsonLibrary.builtin : JsonLibrary where
  write := Value.compact
  read k input := Reader.readBytes Form.definition k input

/-- The number of nested containers at which the reader stops. -/
def jsonNestingLimit : Nat := 128

/-- Why an expression text could not be read. -/
inductive LoadError where
  /-- The text is not a well-formed expression. -/
  | malformed (e : ReadError)
  /-- The text nests containers up to the reader's limit. -/
  | tooDeep (e : ReadError)
  deriving DecidableEq, Repr

/-- The context given to a malformed text. -/
def LoadError.malformedContext : String := "Failed to parse expression JSON"

/-- The message of a load error: its context and cause on one line. -/
def LoadError.message : LoadError → String
  | malformed e => LoadError.malformedContext ++ ": " ++ e.message
  | tooDeep e => "Expression nesting exceeds the JSON reader limit of " ++
      Nat.repr jsonNestingLimit ++ " containers (" ++ e.message ++ ")"

/-- Whether a text occurs in another. -/
def containsText (haystack needle : String) : Bool :=
  haystack.contains needle

/-- Classify a reading failure by whether its message names the recursion limit. -/
def LoadError.ofReadError (e : ReadError) : LoadError :=
  if containsText e.message "recursion limit exceeded" then tooDeep e else malformed e

/-- The document of a source expression. -/
def Source.Expr.toJson (e : Source.Expr) : Value := e.toDatum.toJson

/-- The text a JSON library writes for a source expression. -/
def Source.Expr.toText (lib : JsonLibrary) (e : Source.Expr) : String := lib.write e.toJson

/-- A source expression read from the whole of a byte sequence through a JSON library. -/
def Source.Expr.readWith (lib : JsonLibrary) (input : ByteArray) :
    Except LoadError Source.Expr :=
  match lib.read .expression input with
  | .error e => .error (LoadError.ofReadError e)
  | .ok d =>
    match Source.Expr.ofDatum d with
    | some e => .ok e
    | none => .error (.malformed ⟨.expectedSomeValue, none⟩)

/-- The document of a markup expression. -/
def Markup.Node.toJson (n : Markup.Node) : Value := n.toDatum.toJson

/-- The text a JSON library writes for a markup expression. -/
def Markup.Node.toText (lib : JsonLibrary) (n : Markup.Node) : String := lib.write n.toJson

/-- A markup expression read from the whole of a byte sequence through a JSON library. -/
def Markup.Node.readWith (lib : JsonLibrary) (input : ByteArray) :
    Except ReadError Markup.Node :=
  match lib.read .node input with
  | .error e => .error e
  | .ok d =>
    match Markup.Node.ofDatum d with
    | some n => .ok n
    | none => .error ⟨.expectedSomeValue, none⟩

end PmmlExport
