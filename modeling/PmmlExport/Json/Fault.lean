import PmmlExport.Json.Value
import PmmlExport.Text.GraphemeExtend
import PmmlExport.Text.Printable

/-!
# Reading faults

Why reading a JSON text or a JSON document failed, and the text of each fault. Faults of the
text's syntax carry the line and column where they arose; faults of a value's kind carry a
position once the reader knows which container they belong to, and none when they come from a
document.
-/

namespace PmmlExport.Json

/-- What a value turned out to be, in a fault that names its kind. -/
inductive Unexpected where
  | null
  | bool (b : Bool)
  | unsigned (n : Nat)
  | signed (n : Int)
  | float (x : Binary64)
  | str (s : String)
  | seq
  | map
  | unitVariant
  deriving DecidableEq, Repr

/-- Whether a quoted string shows a character as a `\u{..}` escape: when it is not printable,
or when it extends the grapheme before it, which would otherwise merge with the quote or the
escape in front of it. -/
def isHiddenChar (c : Char) : Bool := !Text.isPrintable c || Text.isGraphemeExtend c

/-- Lower-case hexadecimal digits of a number, without leading zeros. -/
def hexDigits (n : Nat) : String := String.ofList (Nat.toDigits 16 n)

/-- One character of a quoted string. -/
def quoteChar (c : Char) : String :=
  match c with
  | '\t' => "\\t"
  | '\r' => "\\r"
  | '\n' => "\\n"
  | '\\' => "\\\\"
  | '"' => "\\\""
  | '\x00' => "\\0"
  | c => if isHiddenChar c then "\\u\x7b" ++ hexDigits c.toNat ++ "\x7d" else String.singleton c

/-- A string in double quotes, with quotes, backslashes and hidden characters escaped. -/
def quoted (s : String) : String :=
  "\"" ++ String.join (s.toList.map quoteChar) ++ "\""

namespace Unexpected

/-- How a fault names the kind of value it found. -/
def describe : Unexpected → String
  | null => "null"
  | bool b => "boolean `" ++ (if b then "true" else "false") ++ "`"
  | unsigned n => "integer `" ++ Nat.repr n ++ "`"
  | signed n => "integer `" ++ toString n ++ "`"
  | float x => "floating point `" ++ x.format floatNotation ++ "`"
  | str s => "string " ++ quoted s
  | seq => "sequence"
  | map => "map"
  | unitVariant => "unit variant"

/-- The kind of a number. -/
def ofNumber : Number → Unexpected
  | .posInt n => unsigned n
  | .negInt n => signed n
  | .float x => float x

/-- The kind of a document. -/
def ofJson : Value → Unexpected
  | .null => null
  | .bool b => bool b
  | .number n => ofNumber n
  | .string s => str s
  | .array _ => seq
  | .object _ => map

end Unexpected

/-- A list of names as an expectation: `` `a` ``, `` `a` or `b` ``, or
`` one of `a`, `b`, `c` ``. -/
def oneOf (names : List String) : String :=
  let tick := fun (n : String) => "`" ++ n ++ "`"
  match names with
  | [] => "there are no variants"
  | [a] => tick a
  | [a, b] => tick a ++ " or " ++ tick b
  | ns => "one of " ++ ", ".intercalate (ns.map tick)

/-- Why reading failed. -/
inductive Fault where
  | eofWhileParsingList
  | eofWhileParsingObject
  | eofWhileParsingString
  | eofWhileParsingValue
  | expectedColon
  | expectedListCommaOrEnd
  | expectedObjectCommaOrEnd
  | expectedSomeIdent
  | expectedSomeValue
  | invalidEscape
  | invalidNumber
  | numberOutOfRange
  | invalidUnicodeCodePoint
  | controlCharacterWhileParsingString
  | keyMustBeAString
  | loneLeadingSurrogateInHexEscape
  | trailingComma
  | trailingCharacters
  | unexpectedEndOfHexEscape
  | recursionLimitExceeded
  | invalidType (found : Unexpected) (expected : String)
  | invalidValue (found : Unexpected) (expected : String)
  | invalidLength (n : Nat) (expected : String)
  | unknownVariant (name : String) (expected : List String)
  | missingField (name : String)
  | duplicateField (name : String)
  deriving DecidableEq, Repr

/-- The text of a fault. -/
def Fault.message : Fault → String
  | .eofWhileParsingList => "EOF while parsing a list"
  | .eofWhileParsingObject => "EOF while parsing an object"
  | .eofWhileParsingString => "EOF while parsing a string"
  | .eofWhileParsingValue => "EOF while parsing a value"
  | .expectedColon => "expected `:`"
  | .expectedListCommaOrEnd => "expected `,` or `]`"
  | .expectedObjectCommaOrEnd => "expected `,` or `\x7d`"
  | .expectedSomeIdent => "expected ident"
  | .expectedSomeValue => "expected value"
  | .invalidEscape => "invalid escape"
  | .invalidNumber => "invalid number"
  | .numberOutOfRange => "number out of range"
  | .invalidUnicodeCodePoint => "invalid unicode code point"
  | .controlCharacterWhileParsingString =>
    "control character (\\u0000-\\u001F) found while parsing a string"
  | .keyMustBeAString => "key must be a string"
  | .loneLeadingSurrogateInHexEscape => "lone leading surrogate in hex escape"
  | .trailingComma => "trailing comma"
  | .trailingCharacters => "trailing characters"
  | .unexpectedEndOfHexEscape => "unexpected end of hex escape"
  | .recursionLimitExceeded => "recursion limit exceeded"
  | .invalidType found expected => "invalid type: " ++ found.describe ++ ", expected " ++ expected
  | .invalidValue found expected =>
    "invalid value: " ++ found.describe ++ ", expected " ++ expected
  | .invalidLength n expected => "invalid length " ++ Nat.repr n ++ ", expected " ++ expected
  | .unknownVariant name expected =>
    "unknown variant `" ++ name ++ "`, expected " ++ oneOf expected
  | .missingField name => "missing field `" ++ name ++ "`"
  | .duplicateField name => "duplicate field `" ++ name ++ "`"

/-- A line and a column, both counted from one; the column counts bytes. -/
structure Position where
  line : Nat
  column : Nat
  deriving DecidableEq, Repr

/-- A fault with the position where it arose, if known. -/
structure ReadError where
  fault : Fault
  position : Option Position
  deriving DecidableEq, Repr

/-- The text of a read error, with its position when known. -/
def ReadError.message (e : ReadError) : String :=
  match e.position with
  | some p => e.fault.message ++ " at line " ++ Nat.repr p.line ++ " column " ++ Nat.repr p.column
  | none => e.fault.message

end PmmlExport.Json
