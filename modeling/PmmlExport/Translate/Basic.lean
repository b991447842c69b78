import PmmlExport.Source.Render
import PmmlExport.Source.Typing
import PmmlExport.Markup.Node

/-!
# Translating expressions

A source expression becomes a markup expression with one of the four markup types. The depth
bound is checked first, on the whole tree. Then each node is translated after its own check
passes, its children left to right, and the first failure is the answer:

* an alias is replaced by its child;
* a field reference and a literal keep their name or value, and their declared type must map to
  a markup type;
* `AND` and `OR` become `and` and `or`;
* `+ - * /` take the operand type that accepts the other, the left one first, and it must map;
* comparisons become `equal`, `greaterThan`, `greaterOrEqual`, `lessThan` and `lessOrEqual`;
  the null-safe equality, the remainder and the bitwise operators have no counterpart;
* a conditional needs branches of the same type, which must map, and becomes `if`;
* a membership test becomes `isIn`, a negation `not`, the null checks `isMissing` and
  `isNotMissing`;
* casts, unary minus and other named functions have no counterpart.

The operand and branch types are read from the type table of the whole tree. A rejection names
the construct that has no markup counterpart by its kind (a node class such as `Remainder`, or
`DataType` for an unmappable type), or the depth bound that the tree exceeds.
-/

namespace PmmlExport.Translate

open PmmlExport.Source
open PmmlExport.Markup

/-- Why the translator rejected an expression. -/
inductive Rejection where
  /-- A construct of the given kind has no markup counterpart. -/
  | unsupported (kind : String) (description : String)
  /-- The tree is nested deeper than the bound. -/
  | depthLimitExceeded (maxDepth : Nat)
  deriving DecidableEq, Repr

namespace Rejection

/-- The text of a rejection. -/
def message : Rejection → String
  | unsupported kind description => "Unsupported expression " ++ kind ++ ": " ++ description
  | depthLimitExceeded m => "Expression nesting exceeds maximum depth of " ++ Nat.repr m

/-- Whether the rejection names an unsupported construct. -/
def isUnsupported : Rejection → Bool
  | unsupported .. => true
  | depthLimitExceeded _ => false

end Rejection

/-- The translator's settings. -/
structure Config where
  /-- The deepest tree accepted, the root counting as one level; `none` for no bound. -/
  maxDepth : Option Nat
  deriving DecidableEq, Repr

namespace Config

/-- The depth bound of the default configuration. -/
def defaultMaxDepth : Nat := 256

/-- The default configuration, bounded at 256 levels. -/
def standard : Config := ⟨some defaultMaxDepth⟩

/-- A configuration without a depth bound. -/
def unbounded : Config := ⟨none⟩

/-- A configuration with the given depth bound. -/
def withMaxDepth (n : Nat) : Config := ⟨some n⟩

end Config

/-- A translated expression: the source node it came from once aliases are passed through, the
markup expression, and its markup type. -/
structure Mapping where
  source : Expr
  target : Node
  dataType : ValueType

/-- The markup type of a source type: strings, the integral types, doubles and booleans map;
every other type is unsupported. -/
def mapType (t : DataType) : Except Rejection ValueType :=
  match t with
  | .string => .ok .string
  | .byte | .short | .integer | .long => .ok .integer
  | .double => .ok .double
  | .boolean => .ok .boolean
  | _ => .error (.unsupported "DataType"
      ("Expected string, integral, double or boolean type, got " ++ t.typeName ++ " type"))

/-- The unsupported-construct error of a node, with a description. -/
def unsupportedNode (e : Expr) (description : String) : Rejection :=
  .unsupported e.nodeName description

/-- The type of an arithmetic result: whichever operand type accepts the other, the left one
first. -/
def widen (e : Expr) (l r : DataType) : Except Rejection DataType :=
  if l.accepts r then .ok l
  else if r.accepts l then .ok r
  else .error (unsupportedNode e
    (e.summary ++ " (operand types " ++ l.typeName ++ " and " ++ r.typeName ++
      " are incompatible)"))

/-- The markup function of a comparison symbol. -/
def comparisonFunction : String → Option String
  | "=" => some "equal"
  | ">" => some "greaterThan"
  | ">=" => some "greaterOrEqual"
  | "<" => some "lessThan"
  | "<=" => some "lessOrEqual"
  | _ => none

/-- The markup function and result type of a binary operation node, from its operand types. -/
def signature (e : Expr) (op : BinaryOperator) (l r : DataType) :
    Except Rejection (String × ValueType) :=
  match op.kind with
  | .logical => .ok (if op == .and then "and" else "or", .boolean)
  | .arithmetic =>
    if op.isWidening then do
      let t ← widen e l r
      let v ← mapType t
      pure (op.symbol, v)
    else .error (unsupportedNode e e.summary)
  | .comparison =>
    match comparisonFunction op.symbol with
    | some f => .ok (f, .boolean)
    | none => .error (unsupportedNode e e.summary)
  | .bitwise => .error (unsupportedNode e e.summary)

/-- The markup function of a null check. -/
def nullCheckFunction : NullCheck → String
  | .isNull => "isMissing"
  | .isNotNull => "isNotMissing"

mutual

/-- Translate the node at a path of the tree whose type table is given. -/
def translateAt (types : TypeTable) (p : Path) : Expr → Except Rejection Mapping
  | .aliased c _ => translateAt types (p ++ [0]) c
  | e@(.field n t) => do
    let v ← mapType t
    pure ⟨e, .fieldRef n, v⟩
  | e@(.binary op l r) => do
    let (f, v) ← signature e op (types.typeOf (p ++ [0]) l) (types.typeOf (p ++ [1]) r)
    let l' ← translateAt types (p ++ [0]) l
    let r' ← translateAt types (p ++ [1]) r
    pure ⟨e, .apply f [l'.target, r'.target], v⟩
  | e@(.cond c t u) => do
    let tt := types.typeOf (p ++ [1]) t
    let ut := types.typeOf (p ++ [2]) u
    if !tt.sameType ut then
      throw (unsupportedNode e (e.summary ++ " (branch types " ++ tt.typeName ++ " and " ++
        ut.typeName ++ " differ)"))
    let v ← mapType tt
    let c' ← translateAt types (p ++ [0]) c
    let t' ← translateAt types (p ++ [1]) t
    let u' ← translateAt types (p ++ [2]) u
    pure ⟨e, .apply "if" [c'.target, t'.target, u'.target], v⟩
  | e@(.isIn x cs) => do
    let x' ← translateAt types (p ++ [0]) x
    let cs' ← translateListAt types p 1 cs
    pure ⟨e, .apply "isIn" (x'.target :: cs'), .boolean⟩
  | e@(.literal val t) => do
    let v ← mapType t
    pure ⟨e, .constant val v, v⟩
  | e@(.negation c) => do
    let c' ← translateAt types (p ++ [0]) c
    pure ⟨e, .apply "not" [c'.target], .boolean⟩
  | e@(.nullCheck k c) => do
    let c' ← translateAt types (p ++ [0]) c
    pure ⟨e, .apply (nullCheckFunction k) [c'.target], .boolean⟩
  | e@(.cast ..) => throw (unsupportedNode e e.summary)
  | e@(.minus _) => throw (unsupportedNode e e.summary)
  | e@(.call ..) => throw (unsupportedNode e e.summary)

/-- Translate a list of children, the first at child index `i`, and collect their markup. -/
def translateListAt (types : TypeTable) (p : Path) (i : Nat) :
    List Expr → Except Rejection (List Node)
  | [] => pure []
  | c :: cs => do
    let c' ← translateAt types (p ++ [i]) c
    let cs' ← translateListAt types p (i + 1) cs
    pure (c'.target :: cs')

end

/-- Translate an expression: reject it if it is deeper than the bound, otherwise translate it
with the type table of the whole tree. -/
def translate (cfg : Config) (e : Expr) : Except Rejection Mapping :=
  match cfg.maxDepth with
  | some m => if e.exceedsDepth m then .error (.depthLimitExceeded m)
      else translateAt (TypeTable.infer e) [] e
  | none => translateAt (TypeTable.infer e) [] e

/-- Translate named expressions in order; the first failure is the result. -/
def translateAll (cfg : Config) : List (String × Expr) →
    Except Rejection (List (String × Mapping))
  | [] => .ok []
  | (n, e) :: rest => do
    let m ← translate cfg e
    let ms ← translateAll cfg rest
    pure ((n, m) :: ms)

end PmmlExport.Translate
