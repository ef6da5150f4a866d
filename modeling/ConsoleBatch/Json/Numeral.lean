import ConsoleBatch.Decimal.Reading
import ConsoleBatch.Json.Token
import ConsoleBatch.Json.Value

/-!
The values of numerals.

Whole numbers that fit a signed or an unsigned machine word are integers, other decimal
numerals are doubles, and a numeral too large for either is the string that it is written as.
A double is not always the nearest one: it is made from the digits that fit a word, by one
multiplication or division with a power of ten at a time.
-/

namespace ConsoleBatch.Json

open Decimal

def wordLimit : Nat := Nat.pow 2 64

def signedLimit : Nat := Nat.pow 2 63

structure DecimalParts where
  whole : List Char
  places : List Char
  power : List Char

def decimalParts (text : List Char) : DecimalParts :=
  let rest := text.dropWhile Char.isDigit
  match rest with
  | '.' :: after =>
    { whole := text.takeWhile Char.isDigit
      places := after.takeWhile Char.isDigit
      power := after.dropWhile Char.isDigit }
  | _ => { whole := text.takeWhile Char.isDigit, places := [], power := rest }

/-- Appends digits to a number as long as the result fits a word. Gives the result and how many
digits are left over. -/
def absorb (number : Nat) : List Char → Nat × Nat
  | [] => (number, 0)
  | digit :: rest =>
    let grown := extendDigits number [digit]
    if grown < wordLimit then absorb grown rest else (number, rest.length + 1)

/-- The digits of a numeral as a word, and the power of ten that they count, without the power
that is written. -/
def significandOf (numeral : DecimalParts) : Nat × Int :=
  let (whole, uncounted) := absorb 0 numeral.whole
  let (significand, dropped) := absorb whole numeral.places
  (significand, Int.ofNat uncounted - Int.ofNat (numeral.places.length - dropped))

def largestPower : Nat := 308

def powerOfTen (exponent : Nat) : Float :=
  (nearest 1 exponent).toFloat

def scaled? (value : Float) (exponent : Int) : Option Float :=
  if exponent.natAbs ≤ largestPower then
    if 0 ≤ exponent then
      let product := value * powerOfTen exponent.natAbs
      if product.isInf then none else some product
    else some (value / powerOfTen exponent.natAbs)
  else if value == 0 then some value
  else if 0 < exponent then none
  else scaled? (value / powerOfTen largestPower) (exponent + largestPower)
termination_by exponent.natAbs
decreasing_by
  simp only [largestPower] at *
  omega

def powerLimit : Nat := Nat.pow 2 31

def magnitude? (numeral : DecimalParts) : Option Double :=
  let (significand, exponent) := significandOf numeral
  match readPower? numeral.power with
  | none => none
  | some power =>
    if power.natAbs < powerLimit then
      (scaled? (UInt64.ofNat significand).toFloat (exponent + power)).map .ofFloat
    else if significand ≠ 0 ∧ 0 < power then none
    else some .zero

def integer? (negative : Bool) (numeral : DecimalParts) : Option Int :=
  let size := digitsValue numeral.whole
  if ! numeral.places.isEmpty || ! numeral.power.isEmpty then none
  else if negative then if 0 < size ∧ size ≤ signedLimit then some (-size) else none
  else if size < wordLimit then some size
  else none

def hexInteger? (negative : Bool) (digits : List Char) : Option Int :=
  (hexDigitsValue? digits).bind fun size =>
    if size < signedLimit then some (if negative then -size else size) else none

def numberOf? (text : List Char) : Option Number :=
  let (negative, size) := takeSign text
  match size with
  | '0' :: 'x' :: digits => (hexInteger? negative digits).map .integer
  | '0' :: 'X' :: digits => (hexInteger? negative digits).map .integer
  | size =>
    let numeral := decimalParts size
    match integer? negative numeral with
    | some value => some (.integer value)
    | none => (magnitude? numeral).map fun value => .float (if negative then value.negate else value)

def numeralValue (text : String) : Value :=
  match numberOf? text.toList with
  | some value => .number value
  | none => .string text

end ConsoleBatch.Json
