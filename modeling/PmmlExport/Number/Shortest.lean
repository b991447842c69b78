import PmmlExport.Number.Binary64

/-!
# Shortest decimals

Every finite nonzero double owns an interval of reals that round to it: half the gap to each
neighbour on either side, both ends included when the significand is even. The shortest decimal
of a double is the decimal with the fewest significant digits in that interval; of two such
decimals the one nearer the double is taken, and an exact tie is broken by a `Tie` rule.

All comparisons are exact: the interval ends and the candidates are scaled to natural numbers.
-/

namespace PmmlExport

/-- How a tie between two equally near shortest decimals is broken. -/
inductive Tie where
  /-- The decimal whose last digit is even. -/
  | even
  /-- The decimal of larger magnitude. -/
  | up
  deriving DecidableEq, Repr

/-- The decimal number `digits * 10 ^ exponent`. -/
structure Decimal where
  digits : Nat
  exponent : Int
  deriving DecidableEq, Repr

/-- The number of decimal digits of a natural number (one for zero). -/
def decimalLength (n : Nat) : Nat := (Nat.repr n).length

namespace Binary64

/-- The exponent of the leading decimal digit of a finite nonzero magnitude. -/
def leadingExponent (x : Binary64) : Int :=
  if 0 ≤ x.exponent then
    (decimalLength (x.significand * Nat.pow 2 x.exponent.toNat) : Int) - 1
  else
    let e := (-x.exponent).toNat
    (decimalLength (x.significand * Nat.pow 5 e) : Int) - 1 - e

/-- Scaled comparison data of a finite nonzero magnitude on the grid of step `10 ^ s`: the
magnitude, both interval ends, and the scale of one grid step, all as natural numbers of the same
unit. -/
structure GridView where
  value : Nat
  low : Nat
  high : Nat
  step : Nat
  inclusive : Bool

/-- The magnitude and its rounding interval, measured in a unit that makes them and the grid
`10 ^ s` whole numbers. -/
def gridView (x : Binary64) (s : Int) : GridView :=
  let m := x.significand
  let e := x.exponent
  let up := Nat.pow 2 (e - 2).toNat * Nat.pow 10 (-s).toNat
  let down := Nat.pow 2 (2 - e).toNat * Nat.pow 10 s.toNat
  { value := 4 * m * up
    low := (if x.lowerGapHalved then 4 * m - 1 else 4 * m - 2) * up
    high := (4 * m + 2) * up
    step := down
    inclusive := m % 2 == 0 }

/-- Whether the grid point `q * 10 ^ s` lies in the rounding interval. -/
def GridView.contains (g : GridView) (q : Nat) : Bool :=
  if g.inclusive then g.low ≤ q * g.step && q * g.step ≤ g.high
  else g.low < q * g.step && q * g.step < g.high

/-- The grid point of step `10 ^ s` chosen for the magnitude, if either grid neighbour of the
magnitude lies in its interval: the nearer one, or the one the tie rule names. -/
def GridView.pick (g : GridView) (tie : Tie) : Option Nat :=
  let q := g.value / g.step
  let lowOk := g.contains q
  let highOk := g.contains (q + 1)
  if lowOk && highOk then
    let below := g.value - q * g.step
    let above := (q + 1) * g.step - g.value
    if below < above then some q
    else if above < below then some (q + 1)
    else match tie with
      | .even => if q % 2 == 0 then some q else some (q + 1)
      | .up => some (q + 1)
  else if lowOk then some q
  else if highOk then some (q + 1)
  else none

/-- The magnitude of a finite double written exactly as a decimal. -/
def exactDecimal (x : Binary64) : Decimal :=
  if 0 ≤ x.exponent then ⟨x.integerPart, 0⟩
  else ⟨x.significand * Nat.pow 5 (-x.exponent).toNat, x.exponent⟩

/-- Try the grids `10 ^ s`, `10 ^ (s - 1)`, and so on, for `n` more steps. The caller starts
high enough and gives enough steps to reach a grid on which the magnitude itself lies, so the
exact decimal at the end is never needed. -/
def searchGrids (x : Binary64) (tie : Tie) : Nat → Int → Decimal
  | 0, _ => x.exactDecimal
  | n + 1, s =>
    match (x.gridView s).pick tie with
    | some q => ⟨q, s⟩
    | none => searchGrids x tie n (s - 1)

/-- The shortest decimal of the magnitude of a finite nonzero double. -/
def shortest (x : Binary64) (tie : Tie) : Decimal :=
  let top := x.leadingExponent + 1
  let bottom := min 0 x.exponent
  searchGrids x tie ((top - bottom).toNat + 1) top

end Binary64

end PmmlExport
