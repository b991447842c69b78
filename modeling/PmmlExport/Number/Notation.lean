import PmmlExport.Number.Shortest

/-!
# Notations for doubles

A notation decides how the shortest decimal of a double is laid out: which leading exponents are
written positionally and which in scientific form, whether an integral positional value keeps a
trailing `.0`, how the exponent is signed, how a tie of shortest decimals is broken, and the texts
of NaN and the infinities. Zero is written as the integral value `0`.
-/

namespace PmmlExport

/-- The layout decisions of one way of writing doubles. -/
structure Notation where
  /-- Least leading exponent written positionally; `none` for no bound. -/
  positionalLow : Option Int
  /-- Greatest leading exponent written positionally; `none` for no bound. -/
  positionalHigh : Option Int
  /-- Integral positional values whose leading exponent is below this bound end in `.0`. -/
  pointZeroBelow : Int
  /-- Whether a nonnegative exponent in scientific form is written with a plus sign. -/
  exponentPlus : Bool
  /-- How a tie between two shortest decimals is broken. -/
  tie : Tie
  /-- The text of NaN. -/
  nanText : String
  /-- The text of positive infinity; negative infinity prefixes a minus sign. -/
  infinityText : String

namespace Notation

/-- Whether a leading exponent is written positionally. -/
def isPositional (n : Notation) (k : Int) : Bool :=
  (match n.positionalLow with | some lo => decide (lo ≤ k) | none => true) &&
    (match n.positionalHigh with | some hi => decide (k ≤ hi) | none => true)

/-- The digits of `d` laid out without an exponent. -/
def positional (n : Notation) (d : Decimal) : String :=
  let digits := Nat.repr d.digits
  let k := (digits.length : Int) - 1 + d.exponent
  if 0 ≤ d.exponent then
    let whole := digits ++ String.ofList (List.replicate d.exponent.toNat '0')
    if k < n.pointZeroBelow then whole ++ ".0" else whole
  else if 0 ≤ k then
    let cut := k.toNat + 1
    String.ofList (digits.toList.take cut) ++ "." ++ String.ofList (digits.toList.drop cut)
  else
    "0." ++ String.ofList (List.replicate (-k - 1).toNat '0') ++ digits

/-- The digits of `d` as one digit, the others after a point, and a power of ten. -/
def scientific (n : Notation) (d : Decimal) : String :=
  let digits := (Nat.repr d.digits).toList
  let k := (digits.length : Int) - 1 + d.exponent
  let mantissa :=
    match digits with
    | [] => ""
    | [c] => String.singleton c
    | c :: rest => String.singleton c ++ "." ++ String.ofList rest
  let sign := if k < 0 then "-" else if n.exponentPlus then "+" else ""
  mantissa ++ "e" ++ sign ++ Nat.repr k.natAbs

/-- A decimal laid out as the notation says. -/
def layout (n : Notation) (d : Decimal) : String :=
  let k := (decimalLength d.digits : Int) - 1 + d.exponent
  if d.digits == 0 || n.isPositional k then n.positional d else n.scientific d

end Notation

namespace Binary64

/-- The text of a double in a notation. -/
def format (x : Binary64) (n : Notation) : String :=
  if x.isNaN then n.nanText
  else if x.isInfinite then (if x.signBit then "-" else "") ++ n.infinityText
  else
    let sign := if x.signBit then "-" else ""
    if x.isZero then sign ++ n.layout ⟨0, 0⟩
    else sign ++ n.layout (x.shortest n.tie)

end Binary64

end PmmlExport
