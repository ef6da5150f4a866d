import ConsoleBatch.Decimal.Shortest

/-!
How a double is written: its shortest decimal, laid out positionally or with an exponent.
-/

namespace ConsoleBatch.Decimal

def digitsOf (n : Nat) : List Char :=
  Nat.toDigits 10 n

def positional (number : Scientific) : List Char :=
  let digits := digitsOf number.digits
  if 0 ≤ number.exponent then digits ++ List.replicate number.exponent.toNat '0'
  else
    let places := (-number.exponent).toNat
    let padded := List.replicate (places + 1 - digits.length) '0' ++ digits
    padded.take (padded.length - places) ++ '.' :: padded.drop (padded.length - places)

def Scientific.magnitude (number : Scientific) : Int :=
  number.exponent + Int.ofNat (digitsOf number.digits).length - 1

def exponential (number : Scientific) : List Char :=
  let mantissa :=
    match digitsOf number.digits with
    | first :: second :: rest => first :: '.' :: second :: rest
    | digits => digits
  let power := number.magnitude
  mantissa ++ 'e' :: (if power < 0 then '-' else '+') :: digitsOf power.natAbs

structure Layout where
  tie : Tie
  isPositional : Int → Bool
  wholeEnding : List Char

def plainLayout : Layout where
  tie := .up
  isPositional _ := true
  wholeEnding := []

/-- From `1e-5` up to `1e16` nothing is written with an exponent, and whole numbers end in
`.0`. -/
def dataLayout : Layout where
  tie := .toEven
  isPositional power := -5 ≤ power && power < 16
  wholeEnding := ['.', '0']

def Layout.size (layout : Layout) (significand : Nat) (exponent : Int) : List Char :=
  if significand = 0 then '0' :: layout.wholeEnding
  else
    let number := shortest layout.tie significand exponent
    if layout.isPositional number.magnitude then
      if 0 ≤ number.exponent then positional number ++ layout.wholeEnding else positional number
    else exponential number

def signed (negative : Bool) (size : List Char) : List Char :=
  if negative then '-' :: size else size

def Layout.write (layout : Layout) (x : Double) : String :=
  match x.parts with
  | .nan => "NaN"
  | .infinite negative => if negative then "-inf" else "inf"
  | .finite negative significand exponent =>
    String.ofList (signed negative (layout.size significand exponent))

def plain (x : Double) : String :=
  plainLayout.write x

end ConsoleBatch.Decimal
