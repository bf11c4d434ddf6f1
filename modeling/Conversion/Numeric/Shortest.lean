import Conversion.Numeric.FloatFormat

/-!
# The shortest decimal of a floating-point value

Between a value and its neighbours lies an interval of numbers that round to the value; its ends
belong to it when the significand is even. `Shortest.search` goes down the decimal grids, from a
coarse one to finer ones, and takes the first that has a point in the interval. If a grid has one
there, one of the two grid points next to the value is such a point, so only these are tried; of two
hits the nearer one is taken, and the caller says which of two equally near ones.
-/

namespace Conversion

/-- A positive decimal number `digits * 10 ^ exponent`. -/
structure ShortestDecimal where
  digits : Nat
  exponent : Int
  deriving DecidableEq

/-- Which of two equally near decimals stands for a value. -/
inductive TieRule where
  /-- The greater one. -/
  | up
  /-- The one with an even last digit. -/
  | even
  deriving DecidableEq

namespace Shortest

/-- A positive number, as numerator over denominator, between the ends of its interval, which have
the same denominator. -/
structure Interval where
  low : Nat
  number : Nat
  high : Nat
  denominator : Nat
  closed : Bool

/-- The interval of the numbers that round to `significand * 2 ^ exponent`, in quarters of the last
place. Below a power of two the neighbour is half as far away, except at the least exponent. -/
def intervalOf (format : FloatFormat) (significand : Nat) (exponent : Int) : Interval :=
  let scale := Nat.pow 2 (exponent - 2).toNat
  let narrow := significand = Nat.pow 2 format.fractionBits ∧ format.leastExponent < exponent
  { low := (4 * significand - (if narrow then 1 else 2)) * scale
    number := 4 * significand * scale
    high := (4 * significand + 2) * scale
    denominator := Nat.pow 2 (2 - exponent).toNat
    closed := significand % 2 = 0 }

/-- Whether a number, given over the denominator of an interval, lies in it. -/
def Interval.holds (interval : Interval) (number : Nat) : Bool :=
  if interval.closed then interval.low ≤ number && number ≤ interval.high
  else interval.low < number && number < interval.high

/-- The interval with all its numbers multiplied or divided by a power of ten, so that the grid of
that power becomes the whole numbers. -/
def Interval.onGrid (interval : Interval) (exponent : Int) : Interval :=
  let factor := Nat.pow 10 (-exponent).toNat
  { low := interval.low * factor
    number := interval.number * factor
    high := interval.high * factor
    denominator := interval.denominator * Nat.pow 10 exponent.toNat
    closed := interval.closed }

/-- The whole number next to the number of an interval that lies in the interval, if one does. -/
def Interval.whole? (interval : Interval) (tie : TieRule) : Option Nat :=
  let below := interval.number / interval.denominator
  let distance := 2 * (interval.number % interval.denominator)
  let hasBelow := interval.holds (below * interval.denominator)
  let hasAbove := interval.holds ((below + 1) * interval.denominator)
  if hasBelow && hasAbove then
    if distance < interval.denominator then some below
    else if interval.denominator < distance then some (below + 1)
    else
      match tie with
      | .up => some (below + 1)
      | .even => some (below + below % 2)
  else if hasBelow then some below
  else if hasAbove then some (below + 1)
  else none

/-- The first grid, from the given one down, with a point in the interval. -/
def search (interval : Interval) (tie : TieRule) : Nat → Int → Option ShortestDecimal
  | 0, _ => none
  | steps + 1, exponent =>
      match (interval.onGrid exponent).whole? tie with
      | some digits => some ⟨digits, exponent⟩
      | none => search interval tie steps (exponent - 1)

/-- An exponent of ten whose power is above `2 ^ bits`. -/
def coarsest (bits : Int) : Int :=
  (bits * 30103).fdiv 100000 + 2

/-- The shortest decimal that reads back as `significand * 2 ^ exponent`, the nearest of the
shortest ones. The coarsest grid is at most three places above the first digit of the value, and
seventeen digits always suffice, so the search ends within twenty grids. -/
def ofFinite (format : FloatFormat) (tie : TieRule) (significand : Nat) (exponent : Int) :
    ShortestDecimal :=
  let interval := intervalOf format significand exponent
  let bits := FloatFormat.floorLog2 interval.number interval.denominator + 1
  (search interval tie 24 (coarsest bits)).getD ⟨significand, exponent⟩

end Shortest

end Conversion
