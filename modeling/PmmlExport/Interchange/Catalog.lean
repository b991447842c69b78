import PmmlExport.Interchange.Schema
import PmmlExport.Source.Operator

/-!
# The catalog of exchanged types

The named types of the two exchanged trees, and their definitions: source expressions with their
types, struct fields, literal values, operators and null checks; markup expressions with their
field references, applications, constants and value types. Tags and field names are those of the
interchange format.
-/

namespace PmmlExport.Interchange

open PmmlExport.Source

/-- The named types of the interchange format. -/
inductive Form where
  | expression
  | dataType
  | structField
  | literal
  | binaryOperator
  | nullCheck
  | node
  | fieldRef
  | apply
  | constant
  | valueType
  deriving DecidableEq, Repr

namespace Form

/-- The source type names of the format, in order. -/
def dataTypeTags : List String :=
  ["String", "Byte", "Short", "Integer", "Long", "Float", "Double", "Boolean", "Decimal", "Date",
    "Timestamp", "Binary", "Null", "Array", "Struct"]

/-- The definition of each named type. -/
def definition : Form → Definition Form
  | expression =>
    let e : Shape Form := .named expression
    let t : Shape Form := .named dataType
    .union "Expression" [
      ("Alias", .fields [("child", e), ("name", .string)]),
      ("FieldReference", .fields [("name", .string), ("data_type", t)]),
      ("BinaryOp", .fields [("op", .named binaryOperator), ("left", e), ("right", e)]),
      ("If", .fields [("predicate", e), ("true_value", e), ("false_value", e)]),
      ("In", .fields [("value", e), ("list", .seq e)]),
      ("Literal", .fields [("value", .named literal), ("data_type", t)]),
      ("Not", .single e),
      ("NullCheck", .fields [("kind", .named nullCheck), ("child", e)]),
      ("Cast", .fields [("child", e), ("data_type", t)]),
      ("UnaryMinus", .single e),
      ("ScalarFunction", .fields [("name", .string), ("arguments", .seq e), ("data_type", t)])]
  | dataType =>
    .union "SourceDataType" (dataTypeTags.map fun tag =>
      (tag, if tag == "Decimal" then .fields [("precision", .byte), ("scale", .byte)]
        else if tag == "Array" then .fields [("element", .named dataType), ("contains_null", .bool)]
        else if tag == "Struct" then .single (.seq (.named structField))
        else .none))
  | structField =>
    .record "StructField" [("name", .string), ("data_type", .named dataType), ("nullable", .bool)]
  | literal =>
    .union "Value" [("Null", .none), ("Boolean", .single .bool), ("Integer", .single .int64),
      ("Double", .single .real), ("String", .single .string)]
  | binaryOperator =>
    .union "BinaryOperator" (BinaryOperator.all.map fun op => (op.nodeName, .none))
  | nullCheck => .union "NullCheckKind" (NullCheck.all.map fun k => (k.nodeName, .none))
  | node =>
    .union "PmmlExpression" [("FieldRef", .single (.named fieldRef)),
      ("Apply", .single (.named apply)), ("Constant", .single (.named constant))]
  | fieldRef => .record "FieldRef" [("field", .string)]
  | apply => .record "Apply" [("function", .string), ("arguments", .seq (.named node))]
  | constant => .record "Constant" [("value", .named literal), ("data_type", .named valueType)]
  | valueType =>
    .union "DataType" [("string", .none), ("integer", .none), ("double", .none), ("boolean", .none)]

end Form

end PmmlExport.Interchange
