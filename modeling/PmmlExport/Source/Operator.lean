/-!
# Operators of the source language

Binary operators fall into four families. Each has the symbol that the pipeline prints between
its operands and the class name that diagnostics report; only `+ - * /` widen their operands to a
common type. A null check is either `isnull` or `isnotnull`.
-/

namespace PmmlExport.Source

/-- The family a binary operator belongs to. -/
inductive OperatorKind where
  | logical
  | arithmetic
  | comparison
  | bitwise
  deriving DecidableEq, Repr

/-- The name of a family as reports print it. -/
def OperatorKind.name : OperatorKind → String
  | logical => "Logical"
  | arithmetic => "Arithmetic"
  | comparison => "Comparison"
  | bitwise => "Bitwise"

/-- A binary operator of the source language. -/
inductive BinaryOperator where
  | and | or
  | add | subtract | multiply | divide | remainder
  | equalTo | equalNullSafe | greaterThan | greaterThanOrEqual | lessThan | lessThanOrEqual
  | bitwiseAnd | bitwiseOr | bitwiseXor
  deriving DecidableEq, Repr

namespace BinaryOperator

/-- Every operator, in the order the interchange format lists them. -/
def all : List BinaryOperator :=
  [and, or, add, subtract, multiply, divide, remainder, equalTo, equalNullSafe, greaterThan,
    greaterThanOrEqual, lessThan, lessThanOrEqual, bitwiseAnd, bitwiseOr, bitwiseXor]

/-- The family of an operator. -/
def kind : BinaryOperator → OperatorKind
  | and | or => .logical
  | add | subtract | multiply | divide | remainder => .arithmetic
  | equalTo | equalNullSafe | greaterThan | greaterThanOrEqual | lessThan | lessThanOrEqual =>
    .comparison
  | bitwiseAnd | bitwiseOr | bitwiseXor => .bitwise

/-- The four arithmetic operators that widen their operands to a common type. -/
def isWidening : BinaryOperator → Bool
  | add | subtract | multiply | divide => true
  | _ => false

/-- The symbol printed between the operands. -/
def symbol : BinaryOperator → String
  | and => "AND"
  | or => "OR"
  | add => "+"
  | subtract => "-"
  | multiply => "*"
  | divide => "/"
  | remainder => "%"
  | equalTo => "="
  | equalNullSafe => "<=>"
  | greaterThan => ">"
  | greaterThanOrEqual => ">="
  | lessThan => "<"
  | lessThanOrEqual => "<="
  | bitwiseAnd => "&"
  | bitwiseOr => "|"
  | bitwiseXor => "^"

/-- The class name of the operator's node; it is also the operator's tag in the interchange
format. -/
def nodeName : BinaryOperator → String
  | and => "And"
  | or => "Or"
  | add => "Add"
  | subtract => "Subtract"
  | multiply => "Multiply"
  | divide => "Divide"
  | remainder => "Remainder"
  | equalTo => "EqualTo"
  | equalNullSafe => "EqualNullSafe"
  | greaterThan => "GreaterThan"
  | greaterThanOrEqual => "GreaterThanOrEqual"
  | lessThan => "LessThan"
  | lessThanOrEqual => "LessThanOrEqual"
  | bitwiseAnd => "BitwiseAnd"
  | bitwiseOr => "BitwiseOr"
  | bitwiseXor => "BitwiseXor"

end BinaryOperator

/-- Which of the two null checks a node performs. -/
inductive NullCheck where
  | isNull
  | isNotNull
  deriving DecidableEq, Repr

namespace NullCheck

/-- Both checks, in the order the interchange format lists them. -/
def all : List NullCheck := [isNull, isNotNull]

/-- The class name of the check's node; it is also its tag in the interchange format. -/
def nodeName : NullCheck → String
  | isNull => "IsNull"
  | isNotNull => "IsNotNull"

/-- The function name printed when the check is shown. -/
def functionName : NullCheck → String
  | isNull => "isnull"
  | isNotNull => "isnotnull"

end NullCheck

end PmmlExport.Source
