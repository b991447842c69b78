import PmmlExport.Number.Notation

/-!
# Literal values

The payload of a source literal and of a target constant: null, a boolean, a 64-bit integer, a
double or a string. A value is independent of the type declared beside it. Its markup text is
what a constant element holds; null has none, and a double is written positionally with its
shortest digits, except that integral values below `10 ^ 15` keep a `.0`.
-/

namespace PmmlExport

/-- A literal value. -/
inductive Literal where
  | null
  | boolean (b : Bool)
  | integer (n : Int64)
  | double (x : Binary64)
  | string (s : String)
  deriving DecidableEq, Repr

namespace Literal

/-- Doubles in markup: positional at every magnitude, `.0` on integral values below `10 ^ 15`,
ties of shortest decimals to the larger, and `NaN`, `INF`, `-INF` for the rest. -/
def markupNotation : Notation where
  positionalLow := none
  positionalHigh := none
  pointZeroBelow := 15
  exponentPlus := false
  tie := .up
  nanText := "NaN"
  infinityText := "INF"

/-- Whether the value is null. -/
def isNull : Literal → Bool
  | null => true
  | _ => false

/-- The text of a 64-bit integer in decimal. -/
def integerText (n : Int64) : String := toString n.toInt

/-- The text a constant element holds; `none` for null. -/
def markupText : Literal → Option String
  | null => none
  | boolean b => some (if b then "true" else "false")
  | integer n => some (integerText n)
  | double x => some (x.format markupNotation)
  | string s => some s

/-- The value as diagnostics show it: `null` for null, otherwise its markup text. -/
def display (v : Literal) : String :=
  match v.markupText with
  | some t => t
  | none => "null"

/-- The value of a double given as a hardware float. -/
def ofFloat (x : Float) : Literal := double (Binary64.ofFloat x)

end Literal

end PmmlExport
