import PmmlExport.Interchange.Catalog
import PmmlExport.Source.Expr
import PmmlExport.Markup.Node

/-!
# Encoding trees as data

Each exchanged type as a datum of the catalog, and back. Decoding expects the data that the
readers produce for the type's form: records with their fields in declaration order, and tags
of the form's alternatives.
-/

namespace PmmlExport

open PmmlExport.Interchange

/-! ## Literal values, operators, value types -/

/-- The datum of a literal value. -/
def Literal.toDatum : Literal → Datum
  | .null => .tag "Null"
  | .boolean b => .tagged "Boolean" (.bool b)
  | .integer n => .tagged "Integer" (.int64 n)
  | .double x => .tagged "Double" (.real x)
  | .string s => .tagged "String" (.string s)

/-- The literal value of a datum. -/
def Literal.ofDatum : Datum → Option Literal
  | .tag "Null" => some .null
  | .tagged "Boolean" (.bool b) => some (.boolean b)
  | .tagged "Integer" (.int64 n) => some (.integer n)
  | .tagged "Double" (.real x) => some (.double x)
  | .tagged "String" (.string s) => some (.string s)
  | _ => none

/-- The operator of a datum. -/
def Source.BinaryOperator.ofDatum : Datum → Option BinaryOperator
  | .tag t => Source.BinaryOperator.all.find? (·.nodeName == t)
  | _ => none

/-- The null check of a datum. -/
def Source.NullCheck.ofDatum : Datum → Option NullCheck
  | .tag t => Source.NullCheck.all.find? (·.nodeName == t)
  | _ => none

/-- The value type of a datum. -/
def Markup.ValueType.ofDatum : Datum → Option ValueType
  | .tag t => Markup.ValueType.all.find? (·.name == t)
  | _ => none

/-! ## Source types -/

mutual

/-- The datum of a source type. -/
def Source.DataType.toDatum : DataType → Datum
  | .string => .tag "String"
  | .byte => .tag "Byte"
  | .short => .tag "Short"
  | .integer => .tag "Integer"
  | .long => .tag "Long"
  | .float => .tag "Float"
  | .double => .tag "Double"
  | .boolean => .tag "Boolean"
  | .decimal p s => .tagged "Decimal" (.record [("precision", .byte p), ("scale", .byte s)])
  | .date => .tag "Date"
  | .timestamp => .tag "Timestamp"
  | .binary => .tag "Binary"
  | .null => .tag "Null"
  | .array e c => .tagged "Array" (.record [("element", e.toDatum), ("contains_null", .bool c)])
  | .struct fs => .tagged "Struct" (.seq (Source.StructField.listToDatum fs))

/-- The data of the fields of a record type. -/
def Source.StructField.listToDatum : List StructField → List Datum
  | [] => []
  | .mk n t b :: fs =>
    .record [("name", .string n), ("data_type", t.toDatum), ("nullable", .bool b)] ::
      Source.StructField.listToDatum fs

end

mutual

/-- The source type of a datum. -/
def Source.DataType.ofDatum : Datum → Option DataType
  | .tag "String" => some .string
  | .tag "Byte" => some .byte
  | .tag "Short" => some .short
  | .tag "Integer" => some .integer
  | .tag "Long" => some .long
  | .tag "Float" => some .float
  | .tag "Double" => some .double
  | .tag "Boolean" => some .boolean
  | .tagged "Decimal" (.record [(_, .byte p), (_, .byte s)]) => some (.decimal p s)
  | .tag "Date" => some .date
  | .tag "Timestamp" => some .timestamp
  | .tag "Binary" => some .binary
  | .tag "Null" => some .null
  | .tagged "Array" (.record [(_, e), (_, .bool c)]) =>
    (Source.DataType.ofDatum e).map (.array · c)
  | .tagged "Struct" (.seq fs) => (Source.StructField.listOfDatum fs).map .struct
  | _ => none

/-- The fields of a record type from their data. -/
def Source.StructField.listOfDatum : List Datum → Option (List StructField)
  | [] => some []
  | .record [(_, .string n), (_, t), (_, .bool b)] :: fs =>
    match Source.DataType.ofDatum t, Source.StructField.listOfDatum fs with
    | some t, some fs => some (.mk n t b :: fs)
    | _, _ => none
  | _ :: _ => none

end

/-! ## Source expressions -/

mutual

/-- The datum of a source expression. -/
def Source.Expr.toDatum : Expr → Datum
  | .aliased c n => .tagged "Alias" (.record [("child", c.toDatum), ("name", .string n)])
  | .field n t => .tagged "FieldReference" (.record [("name", .string n), ("data_type", t.toDatum)])
  | .binary op l r => .tagged "BinaryOp"
      (.record [("op", .tag op.nodeName), ("left", l.toDatum), ("right", r.toDatum)])
  | .cond p t f => .tagged "If"
      (.record [("predicate", p.toDatum), ("true_value", t.toDatum), ("false_value", f.toDatum)])
  | .isIn v cs =>
    .tagged "In" (.record [("value", v.toDatum), ("list", .seq (Source.Expr.listToDatum cs))])
  | .literal v t => .tagged "Literal" (.record [("value", v.toDatum), ("data_type", t.toDatum)])
  | .negation c => .tagged "Not" c.toDatum
  | .nullCheck k c =>
    .tagged "NullCheck" (.record [("kind", .tag k.nodeName), ("child", c.toDatum)])
  | .cast c t => .tagged "Cast" (.record [("child", c.toDatum), ("data_type", t.toDatum)])
  | .minus c => .tagged "UnaryMinus" c.toDatum
  | .call n args t => .tagged "ScalarFunction"
      (.record [("name", .string n), ("arguments", .seq (Source.Expr.listToDatum args)),
        ("data_type", t.toDatum)])

/-- The data of a list of expressions. -/
def Source.Expr.listToDatum : List Expr → List Datum
  | [] => []
  | e :: es => e.toDatum :: Source.Expr.listToDatum es

end

mutual

/-- The source expression of a datum. -/
def Source.Expr.ofDatum : Datum → Option Expr
  | .tagged "Alias" (.record [(_, c), (_, .string n)]) =>
    (Source.Expr.ofDatum c).map (.aliased · n)
  | .tagged "FieldReference" (.record [(_, .string n), (_, t)]) =>
    (Source.DataType.ofDatum t).map (.field n)
  | .tagged "BinaryOp" (.record [(_, op), (_, l), (_, r)]) =>
    match Source.BinaryOperator.ofDatum op, Source.Expr.ofDatum l, Source.Expr.ofDatum r with
    | some op, some l, some r => some (.binary op l r)
    | _, _, _ => none
  | .tagged "If" (.record [(_, p), (_, t), (_, f)]) =>
    match Source.Expr.ofDatum p, Source.Expr.ofDatum t, Source.Expr.ofDatum f with
    | some p, some t, some f => some (.cond p t f)
    | _, _, _ => none
  | .tagged "In" (.record [(_, v), (_, .seq cs)]) =>
    match Source.Expr.ofDatum v, Source.Expr.listOfDatum cs with
    | some v, some cs => some (.isIn v cs)
    | _, _ => none
  | .tagged "Literal" (.record [(_, v), (_, t)]) =>
    match Literal.ofDatum v, Source.DataType.ofDatum t with
    | some v, some t => some (.literal v t)
    | _, _ => none
  | .tagged "Not" c => (Source.Expr.ofDatum c).map .negation
  | .tagged "NullCheck" (.record [(_, k), (_, c)]) =>
    match Source.NullCheck.ofDatum k, Source.Expr.ofDatum c with
    | some k, some c => some (.nullCheck k c)
    | _, _ => none
  | .tagged "Cast" (.record [(_, c), (_, t)]) =>
    match Source.Expr.ofDatum c, Source.DataType.ofDatum t with
    | some c, some t => some (.cast c t)
    | _, _ => none
  | .tagged "UnaryMinus" c => (Source.Expr.ofDatum c).map .minus
  | .tagged "ScalarFunction" (.record [(_, .string n), (_, .seq args), (_, t)]) =>
    match Source.Expr.listOfDatum args, Source.DataType.ofDatum t with
    | some args, some t => some (.call n args t)
    | _, _ => none
  | _ => none

/-- The expressions of a list of data. -/
def Source.Expr.listOfDatum : List Datum → Option (List Expr)
  | [] => some []
  | d :: ds =>
    match Source.Expr.ofDatum d, Source.Expr.listOfDatum ds with
    | some e, some es => some (e :: es)
    | _, _ => none

end

/-! ## Markup expressions -/

mutual

/-- The datum of a markup expression. -/
def Markup.Node.toDatum : Node → Datum
  | .fieldRef f => .tagged "FieldRef" (.record [("field", .string f)])
  | .apply f args => .tagged "Apply"
      (.record [("function", .string f), ("arguments", .seq (Markup.Node.listToDatum args))])
  | .constant v t => .tagged "Constant" (.record [("value", v.toDatum), ("data_type", .tag t.name)])

/-- The data of a list of markup expressions. -/
def Markup.Node.listToDatum : List Node → List Datum
  | [] => []
  | n :: ns => n.toDatum :: Markup.Node.listToDatum ns

end

mutual

/-- The markup expression of a datum. -/
def Markup.Node.ofDatum : Datum → Option Node
  | .tagged "FieldRef" (.record [(_, .string f)]) => some (.fieldRef f)
  | .tagged "Apply" (.record [(_, .string f), (_, .seq args)]) =>
    (Markup.Node.listOfDatum args).map (.apply f)
  | .tagged "Constant" (.record [(_, v), (_, t)]) =>
    match Literal.ofDatum v, Markup.ValueType.ofDatum t with
    | some v, some t => some (.constant v t)
    | _, _ => none
  | _ => none

/-- The markup expressions of a list of data. -/
def Markup.Node.listOfDatum : List Datum → Option (List Node)
  | [] => some []
  | d :: ds =>
    match Markup.Node.ofDatum d, Markup.Node.listOfDatum ds with
    | some n, some ns => some (n :: ns)
    | _, _ => none

end

end PmmlExport
