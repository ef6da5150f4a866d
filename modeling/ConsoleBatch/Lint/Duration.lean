import ConsoleBatch.Decimal.Layout

/-!
Durations in words: whole nanoseconds, written in the largest unit that they fill.
-/

namespace ConsoleBatch.Lint

open Decimal

def fractionText (part places : Nat) : List Char :=
  let digits := digitsOf part
  let padded := List.replicate (places - digits.length) '0' ++ digits
  match (padded.reverse.dropWhile (· == '0')).reverse with
  | [] => []
  | kept => '.' :: kept

def inUnit (nanos places : Nat) (unit : String) : String :=
  let whole := Nat.pow 10 places
  String.ofList (digitsOf (nanos / whole) ++ fractionText (nanos % whole) places) ++ unit

def durationText (nanos : Nat) : String :=
  if Nat.pow 10 9 ≤ nanos then inUnit nanos 9 "s"
  else if Nat.pow 10 6 ≤ nanos then inUnit nanos 6 "ms"
  else if Nat.pow 10 3 ≤ nanos then inUnit nanos 3 "µs"
  else inUnit nanos 0 "ns"

def secondsOf (nanos : Nat) : Float :=
  (UInt64.ofNat (nanos / Nat.pow 10 9)).toFloat +
    (UInt64.ofNat (nanos % Nat.pow 10 9)).toFloat / 1000000000.0

end ConsoleBatch.Lint
