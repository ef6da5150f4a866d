/-!
Doubles, held by their bits.

Two doubles are equal when all of their bits are, so the two zeros differ, and a NaN equals
itself and keeps its sign. Arithmetic goes through `Float`, and only there.
-/

namespace ConsoleBatch.Decimal

structure Double where
  bits : UInt64
  deriving DecidableEq

/-- What the bits of a double say: `finite` is `± significand * 2 ^ exponent`. -/
inductive Parts where
  | nan
  | infinite (negative : Bool)
  | finite (negative : Bool) (significand : Nat) (exponent : Int)
  deriving DecidableEq

namespace Double

def zero : Double := ⟨0⟩

def infinity : Double := ⟨0x7FF0000000000000⟩

def nan : Double := ⟨0x7FF8000000000000⟩

def ofFloat (x : Float) : Double := ⟨x.toBits⟩

def toFloat (x : Double) : Float :=
  Float.ofBits x.bits

def isNegative (x : Double) : Bool :=
  x.bits.toNat / Nat.pow 2 63 == 1

def negate (x : Double) : Double :=
  ⟨x.bits ^^^ 0x8000000000000000⟩

def parts (x : Double) : Parts :=
  let bits := x.bits.toNat
  let biased := bits / Nat.pow 2 52 % Nat.pow 2 11
  let fraction := bits % Nat.pow 2 52
  if biased = 2047 then
    if fraction = 0 then .infinite x.isNegative else .nan
  else if biased = 0 then .finite x.isNegative fraction (-1074)
  else .finite x.isNegative (Nat.pow 2 52 + fraction) (Int.ofNat biased - 1075)

def isBelowZero (x : Double) : Bool :=
  match x.parts with
  | .nan => false
  | .infinite negative => negative
  | .finite negative significand _ => negative && significand != 0

def isFinite (x : Double) : Bool :=
  match x.parts with
  | .finite _ _ _ => true
  | _ => false

def isWhole (x : Double) : Bool :=
  match x.parts with
  | .finite _ significand exponent => significand % Nat.pow 2 (-exponent).toNat == 0
  | _ => false

end Double

end ConsoleBatch.Decimal
