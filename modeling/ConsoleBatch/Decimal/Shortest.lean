import ConsoleBatch.Decimal.Binary

/-!
The shortest decimal that reads back as a given double.

The numbers that read as `significand * 2 ^ exponent` form an interval around it. Of all grids
of multiples of a power of ten the coarsest one with a point in the interval gives the fewest
digits, and of its points there the one nearest to the double is taken. Which of two equally
near points it is depends on the writer.
-/

namespace ConsoleBatch.Decimal

structure Scientific where
  digits : Nat
  exponent : Int

/-- The interval of numbers that read as a double, in units of `2 ^ (exponent - 2)`: the double
itself lies at `4 * significand`, and below a power of two the gap is half as wide. -/
structure Interval where
  low : Nat
  centre : Nat
  high : Nat
  closed : Bool
  exponent : Int

def intervalAround (significand : Nat) (exponent : Int) : Interval where
  low :=
    if significand = Nat.pow 2 52 ∧ exponent ≠ -1074 then 4 * significand - 1
    else 4 * significand - 2
  centre := 4 * significand
  high := 4 * significand + 2
  closed := significand % 2 = 0
  exponent := exponent - 2

def Interval.ratio (interval : Interval) (grid : Int) : Nat × Nat :=
  (Nat.pow 2 interval.exponent.toNat * Nat.pow 10 (-grid).toNat,
    Nat.pow 2 (-interval.exponent).toNat * Nat.pow 10 grid.toNat)

def Interval.holds (interval : Interval) (ratio : Nat × Nat) (point : Nat) : Bool :=
  let (top, bottom) := ratio
  if interval.closed then interval.low * top ≤ point * bottom && point * bottom ≤ interval.high * top
  else interval.low * top < point * bottom && point * bottom < interval.high * top

def Interval.nearestPoint? (interval : Interval) (tie : Tie) (grid : Int) : Option Nat :=
  let (top, bottom) := interval.ratio grid
  let below := interval.centre * top / bottom
  let up := tie.goesUp below (interval.centre * top % bottom) bottom
  let nearer := if up then below + 1 else below
  let farther := if up then below else below + 1
  if 0 < nearer ∧ interval.holds (top, bottom) nearer then some nearer
  else if 0 < farther ∧ interval.holds (top, bottom) farther then some farther
  else none

def Interval.coarsest (interval : Interval) (tie : Tie) (grid : Int) : Nat → Scientific
  | 0 => ⟨interval.centre, interval.exponent⟩
  | steps + 1 =>
    match interval.nearestPoint? tie grid with
    | some point => ⟨point, grid⟩
    | none => interval.coarsest tie (grid - 1) steps

/-- The shortest decimal that reads as `significand * 2 ^ exponent`. Doubles lie below
`10 ^ 309`, and a grid of `10 ^ (-324)` is finer than the gap between any two of them. -/
def shortest (tie : Tie) (significand : Nat) (exponent : Int) : Scientific :=
  (intervalAround significand exponent).coarsest tie 309 640

end ConsoleBatch.Decimal
