import ConsoleBatch.Decimal.Double

/-!
The double nearest to a fraction.

A quotient is rounded to a whole number of 53 bits, a tie going to the even one.
-/

namespace ConsoleBatch.Decimal

inductive Tie where
  | up
  | toEven

def Tie.goesUp (tie : Tie) (below remainder divisor : Nat) : Bool :=
  match compare (2 * remainder) divisor, tie with
  | .lt, _ => false
  | .gt, _ => true
  | .eq, .up => true
  | .eq, .toEven => below % 2 = 1

def roundedQuotient (numerator denominator : Nat) : Nat :=
  let below := numerator / denominator
  if Tie.toEven.goesUp below (numerator % denominator) denominator then below + 1 else below

def scaledDown (numerator denominator : Nat) (exponent : Int) : Nat × Nat :=
  (numerator * Nat.pow 2 (-exponent).toNat, denominator * Nat.pow 2 exponent.toNat)

/-- The exponent at which a positive fraction has a significand of 53 bits, or the least
exponent of a double if that is larger. -/
def binaryExponent (numerator denominator : Nat) : Int :=
  let guess := max (Int.ofNat numerator.log2 - Int.ofNat denominator.log2 - 53) (-1074)
  let (top, bottom) := scaledDown numerator denominator guess
  if top / bottom < Nat.pow 2 53 then guess else guess + 1

def nearestBits (numerator denominator : Nat) : UInt64 :=
  let exponent := binaryExponent numerator denominator
  let (top, bottom) := scaledDown numerator denominator exponent
  let significand := roundedQuotient top bottom
  let bits :=
    if significand < Nat.pow 2 52 then significand
    else (exponent + 1075).toNat * Nat.pow 2 52 + (significand - Nat.pow 2 52)
  UInt64.ofNat (min bits (2047 * Nat.pow 2 52))

/-- The double nearest to `digits * 10 ^ exponent`. An exponent beyond reach of the digits
leaves infinity or zero. -/
def nearest (digits : Nat) (exponent : Int) : Double :=
  if digits = 0 then .zero
  else if 0 ≤ exponent then
    if 1100 < digits.log2 + 3 * exponent.toNat then .infinity
    else ⟨nearestBits (digits * Nat.pow 10 exponent.toNat) 1⟩
  else if digits.log2 + 1100 < 3 * (-exponent).toNat then .zero
  else ⟨nearestBits digits (Nat.pow 10 (-exponent).toNat)⟩

end ConsoleBatch.Decimal
