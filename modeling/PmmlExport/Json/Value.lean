import PmmlExport.Number.Notation

/-!
# JSON documents

A JSON document as the interchange reader sees it. Numbers keep the class they were read in:
a nonnegative integer that fits 64 unsigned bits, a negative integer that fits 64 signed bits,
or a double. An object is the list of its members; a document read from text holds its members
sorted by key with the last of equal keys kept.
-/

namespace PmmlExport.Json

/-- A JSON number, in the class it was read in. -/
inductive Number where
  | posInt (n : Nat)
  | negInt (n : Int)
  | float (x : Binary64)
  deriving DecidableEq, Repr

/-- A JSON document. -/
inductive Value where
  | null
  | bool (b : Bool)
  | number (n : Number)
  | string (s : String)
  | array (items : List Value)
  | object (members : List (String × Value))

/-- Doubles in JSON text and in the reader's messages: positional for leading exponents from
`-5` to `15`, where integral values end in `.0`; otherwise one digit, a point and the rest,
then `e`, an explicit sign and the exponent; ties of shortest decimals to even. -/
def floatNotation : Notation where
  positionalLow := some (-5)
  positionalHigh := some 15
  pointZeroBelow := 16
  exponentPlus := true
  tie := .even
  nanText := "NaN"
  infinityText := "inf"

end PmmlExport.Json
