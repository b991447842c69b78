/-!
# Source data types

The types that the analytics pipeline declares on its expression nodes: the primitive types,
fixed-point decimals, arrays and records. Two types are the *same* when they agree up to the
nullability flags of arrays and record fields; one type *accepts* another when it is the same or
when a value of the other widens into it along the integral and floating chain
`tinyint < smallint < int < bigint < float < double`.
-/

namespace PmmlExport.Source

mutual

/-- A declared type of a source expression node. -/
inductive DataType where
  | string
  | byte
  | short
  | integer
  | long
  | float
  | double
  | boolean
  | decimal (precision scale : UInt8)
  | date
  | timestamp
  | binary
  | null
  | array (element : DataType) (containsNull : Bool)
  | struct (fields : List StructField)

/-- One field of a record type. -/
inductive StructField where
  | mk (name : String) (dataType : DataType) (nullable : Bool)

end

namespace StructField

/-- The field's name. -/
def name : StructField → String
  | mk n _ _ => n

/-- The field's declared type. -/
def dataType : StructField → DataType
  | mk _ t _ => t

/-- Whether the field may hold nulls. -/
def nullable : StructField → Bool
  | mk _ _ b => b

/-- A field that may hold nulls, as the pipeline's field builder makes it. -/
def nullableField (name : String) (dataType : DataType) : StructField :=
  mk name dataType true

end StructField

namespace DataType

/-- An array type whose elements may be null. -/
def arrayOf (element : DataType) : DataType :=
  array element true

/-- The four fixed-width integer types. -/
def isIntegral : DataType → Bool
  | byte | short | integer | long => true
  | _ => false

mutual

/-- Structural equality, nullability flags included. -/
def beq : DataType → DataType → Bool
  | string, string | byte, byte | short, short | integer, integer | long, long
  | float, float | double, double | boolean, boolean | date, date
  | timestamp, timestamp | binary, binary | null, null => true
  | decimal p s, decimal p' s' => p == p' && s == s'
  | array e c, array e' c' => beq e e' && c == c'
  | struct fs, struct gs => beqFields fs gs
  | _, _ => false

/-- Field-wise structural equality of two field lists. -/
def beqFields : List StructField → List StructField → Bool
  | [], [] => true
  | .mk n t b :: fs, .mk n' t' b' :: gs => n == n' && beq t t' && b == b' && beqFields fs gs
  | _, _ => false

end

instance : BEq DataType := ⟨beq⟩

mutual

/-- Equality up to the nullability flags of arrays and record fields. -/
def sameType : DataType → DataType → Bool
  | array e _, array e' _ => sameType e e'
  | struct fs, struct gs => sameFields fs gs
  | a, b => beq a b

/-- Two field lists of equal length whose fields agree in name and, up to nullability, in type. -/
def sameFields : List StructField → List StructField → Bool
  | [], [] => true
  | .mk n t _ :: fs, .mk n' t' _ :: gs => n == n' && sameType t t' && sameFields fs gs
  | _, _ => false

end

/-- Whether a value of type `other` may stand where `self` is expected: the same type, or a
narrower integral type, or an integral type or `float` where a floating type is expected. -/
def accepts (self other : DataType) : Bool :=
  sameType self other ||
    match self, other with
    | short, byte => true
    | integer, byte | integer, short => true
    | long, byte | long, short | long, integer => true
    | float, t => t.isIntegral
    | double, float => true
    | double, t => t.isIntegral
    | _, _ => false

mutual

/-- The lower-case name of a type as diagnostics spell it: `int`, `decimal(10,2)`,
`array<string>`, `struct<a:int,b:string>`. -/
def typeName : DataType → String
  | string => "string"
  | byte => "tinyint"
  | short => "smallint"
  | integer => "int"
  | long => "bigint"
  | float => "float"
  | double => "double"
  | boolean => "boolean"
  | decimal p s => s!"decimal({p.toNat},{s.toNat})"
  | date => "date"
  | timestamp => "timestamp"
  | binary => "binary"
  | null => "void"
  | array e _ => "array<" ++ typeName e ++ ">"
  | struct fs => "struct<" ++ fieldNames fs ++ ">"

/-- The fields of a record type as `name:type`, separated by commas. -/
def fieldNames : List StructField → String
  | [] => ""
  | [.mk n t _] => n ++ ":" ++ typeName t
  | .mk n t _ :: f :: fs => n ++ ":" ++ typeName t ++ "," ++ fieldNames (f :: fs)

end

end DataType

end PmmlExport.Source
