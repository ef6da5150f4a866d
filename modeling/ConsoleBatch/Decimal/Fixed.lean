import ConsoleBatch.Decimal.Layout

/-!
Doubles with a fixed number of decimal places.
-/

namespace ConsoleBatch.Decimal

def tenths (significand : Nat) (exponent : Int) : Nat :=
  let (top, bottom) := scaledDown (10 * significand) 1 (-exponent)
  roundedQuotient top bottom

def oneDecimal (x : Double) : String :=
  match x.parts with
  | .finite negative significand exponent =>
    String.ofList (signed negative (positional ⟨tenths significand exponent, -1⟩))
  | _ => plain x

end ConsoleBatch.Decimal
