/-!
# Binary64 numbers

A double is kept as its 64-bit pattern, so that it has decidable equality and every field of
its encoding can be read exactly. A finite double `x` has magnitude
`significand x * 2 ^ exponent x`.
-/

namespace PmmlExport

/-- An IEEE 754 binary64 number, held as its bit pattern. -/
structure Binary64 where
  bits : UInt64
  deriving DecidableEq, Repr

namespace Binary64

/-- The number held by a hardware float. -/
def ofFloat (x : Float) : Binary64 := ⟨x.toBits⟩

/-- The hardware float with this bit pattern. -/
def toFloat (x : Binary64) : Float := Float.ofBits x.bits

/-- Positive zero. -/
def zero : Binary64 := ⟨0⟩

/-- Whether the sign bit is set (also for `-0.0` and a negative NaN). -/
def signBit (x : Binary64) : Bool := x.bits >>> 63 != 0

/-- The eleven-bit biased exponent field. -/
def biasedExponent (x : Binary64) : Nat := ((x.bits >>> 52) &&& 0x7FF).toNat

/-- The fifty-two-bit fraction field. -/
def fraction (x : Binary64) : Nat := (x.bits &&& 0xFFFFFFFFFFFFF).toNat

/-- Not a number: the top exponent with a nonzero fraction. -/
def isNaN (x : Binary64) : Bool := x.biasedExponent == 2047 && x.fraction != 0

/-- An infinity: the top exponent with a zero fraction. -/
def isInfinite (x : Binary64) : Bool := x.biasedExponent == 2047 && x.fraction == 0

/-- Neither NaN nor an infinity. -/
def isFinite (x : Binary64) : Bool := x.biasedExponent != 2047

/-- Either zero. -/
def isZero (x : Binary64) : Bool := x.biasedExponent == 0 && x.fraction == 0

/-- The integer significand of a finite number, with the hidden bit of normal numbers. -/
def significand (x : Binary64) : Nat :=
  if x.biasedExponent == 0 then x.fraction else x.fraction + Nat.pow 2 52

/-- The power of two that scales the significand of a finite number. -/
def exponent (x : Binary64) : Int :=
  (if x.biasedExponent == 0 then 1 else x.biasedExponent : Nat) - 1075

/-- Whether the next smaller double is nearer than the next larger one: a normal number whose
fraction is zero, above the smallest binade. -/
def lowerGapHalved (x : Binary64) : Bool :=
  x.fraction == 0 && x.biasedExponent > 1

/-- The same number with the sign bit flipped. -/
def neg (x : Binary64) : Binary64 := ⟨x.bits ^^^ 0x8000000000000000⟩

/-- Whether a finite number has no fractional part. -/
def isIntegral (x : Binary64) : Bool :=
  x.isFinite && (decide (0 ≤ x.exponent) || x.significand % Nat.pow 2 (-x.exponent).toNat == 0)

/-- The integer part of the magnitude of a finite number. -/
def integerPart (x : Binary64) : Nat :=
  if 0 ≤ x.exponent then x.significand * Nat.pow 2 x.exponent.toNat
  else x.significand / Nat.pow 2 (-x.exponent).toNat

end Binary64

end PmmlExport
