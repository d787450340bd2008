import TreeDump.Number.Binary64
import TreeDump.Number.Decimal

/-!
# The shortest decimal text of a binary64 number

The text of a finite number is the shortest decimal that reads back as that number, always
positional: the digits stand where their places put them, and there is no exponent.

Every magnitude is a multiple of `2 ^ -1074`, and the reals that round to one magnitude form an
interval wider than `10 ^ -324`, so the search stays on the grids of the multiples of
`10 ^ k / 10 ^ 324`. The coarsest grid with a point in the interval gives the fewest digits.
-/

namespace TreeDump

/-- A magnitude and the reals that round to it, all as multiples of `1 / (2 ^ 1076 * 10 ^ 324)`. -/
structure RoundingInterval where
  low : Nat
  value : Nat
  high : Nat
  /-- Whether the two ends round to the value too. -/
  closed : Bool

namespace RoundingInterval

/-- The size of `10 ^ -324` in the interval's own unit. -/
def place : Nat := Nat.pow 2 1076

/-- Whether a real rounds to the value. -/
def contains (interval : RoundingInterval) (x : Nat) : Bool :=
  if interval.closed then interval.low ≤ x && x ≤ interval.high
  else interval.low < x && x < interval.high

/-- The point of the grid of the multiples of `step` that rounds to the value and is nearest to it,
the upper one of two equally near. The answer counts places of `10 ^ -324`. -/
def nearestPoint? (interval : RoundingInterval) (step : Nat) : Option Nat :=
  let below := interval.value / (step * place) * step
  let above := below + step
  match interval.contains (below * place), interval.contains (above * place) with
  | true, true =>
    some (if interval.value - below * place < above * place - interval.value then below else above)
  | true, false => some below
  | false, true => some above
  | false, false => none

/-- The point that the first of the grids of step `10 ^ k`, `10 ^ (k - 1)`, …, 1 gives. -/
def firstPoint (interval : RoundingInterval) : Nat → Nat
  | 0 => (interval.nearestPoint? 1).getD (interval.value / place)
  | k + 1 => (interval.nearestPoint? (Nat.pow 10 (k + 1))).getD (interval.firstPoint k)

/-- The shortest decimal in the interval, in places of `10 ^ -324`. A third of the bits of the upper
end bounds its digits, so no coarser grid than the first has a point other than zero below it. -/
def shortest (interval : RoundingInterval) : Nat :=
  interval.firstPoint ((interval.high / place).log2 / 3 + 1)

end RoundingInterval

namespace Binary64

/-- The reals that round to the magnitude of a finite number that is not zero. Below a power of two
the numbers lie twice as close, except below the least normal one. -/
def interval (x : Binary64) : RoundingInterval :=
  let unit := Nat.pow 2 x.scale * Nat.pow 10 324
  { low := (4 * x.significand - if x.fractionField = 0 ∧ 1 < x.exponentField then 1 else 2) * unit
    value := 4 * x.significand * unit
    high := (4 * x.significand + 2) * unit
    closed := x.significand % 2 = 0 }

def magnitudeText (x : Binary64) : String :=
  if x.isInfinite then "inf"
  else if x.isZero then "0"
  else Decimal.fixed 324 x.interval.shortest

/-- The canonical text of a number: its sign, if that is minus, and its magnitude. -/
def text (x : Binary64) : String :=
  if x.isNaN then "NaN"
  else if x.isNegative then "-" ++ x.magnitudeText
  else x.magnitudeText

end Binary64

end TreeDump
