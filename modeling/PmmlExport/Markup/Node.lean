import PmmlExport.Literal

/-!
# Scoring markup expressions

What source expressions become: a tree of field references, named function applications with an
ordered argument list, and typed constants. A constant holding null is a *missing* constant.
-/

namespace PmmlExport.Markup

/-- The four types a translated expression can have. -/
inductive ValueType where
  | string
  | integer
  | double
  | boolean
  deriving DecidableEq, Repr

namespace ValueType

/-- All four types, in the order the interchange format lists them. -/
def all : List ValueType := [string, integer, double, boolean]

/-- The type's tag in markup and in the interchange format. -/
def name : ValueType → String
  | string => "string"
  | integer => "integer"
  | double => "double"
  | boolean => "boolean"

end ValueType

/-- A node of a scoring markup expression. -/
inductive Node where
  /-- A reference to an input field. -/
  | fieldRef (field : String)
  /-- A named function applied to an ordered argument list. -/
  | apply (function : String) (arguments : List Node)
  /-- A literal value with its type tag. -/
  | constant (value : Literal) (dataType : ValueType)

namespace Node

/-- The function name of an application. -/
def function? : Node → Option String
  | apply f _ => some f
  | _ => none

/-- The arguments of an application; none for other nodes. -/
def arguments : Node → List Node
  | apply _ args => args
  | _ => []

/-- Whether a constant holds null; `none` for other nodes. -/
def isMissing? : Node → Option Bool
  | constant v _ => some v.isNull
  | _ => none

/-- An application with the given arguments appended, keeping their order; other nodes are
unchanged. -/
def withArguments (n : Node) (more : List Node) : Node :=
  match n with
  | apply f args => apply f (args ++ more)
  | other => other

/-- An application with one argument appended. -/
def withArgument (n : Node) (arg : Node) : Node := n.withArguments [arg]

mutual

/-- The nodes of a tree, each parent before its children. -/
def preorder : Node → List Node
  | n@(fieldRef _) => [n]
  | n@(apply _ args) => n :: preorderList args
  | n@(constant ..) => [n]

/-- The preorder nodes of each tree of a list, one tree after the other. -/
def preorderList : List Node → List Node
  | [] => []
  | n :: ns => preorder n ++ preorderList ns

end

end Node

end PmmlExport.Markup
