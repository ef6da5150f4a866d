import ConsoleBatch.Decimal.Binary

/-!
Reading a number that a person has typed.

A numeral is an optional sign and then `inf`, `infinity` or `nan` in any case of letters, or
ASCII digits with at most one point and at least one digit, and an optional power of ten after
`e` or `E`. Its value is the double nearest to it.
-/

namespace ConsoleBatch.Decimal

def extendDigits (before : Nat) (digits : List Char) : Nat :=
  digits.foldl (fun value digit => 10 * value + (digit.toNat - '0'.toNat)) before

def digitsValue (digits : List Char) : Nat :=
  extendDigits 0 digits

def takeSign : List Char → Bool × List Char
  | '-' :: rest => (true, rest)
  | '+' :: rest => (false, rest)
  | rest => (false, rest)

def readPower? : List Char → Option Int
  | [] => some 0
  | mark :: rest =>
    if mark = 'e' ∨ mark = 'E' then
      let (negative, digits) := takeSign rest
      if digits.isEmpty ∨ ! digits.all Char.isDigit then none
      else
        let size := Int.ofNat (digitsValue digits)
        some (if negative then -size else size)
    else none

/-- A numeral without its sign: its digits as a whole number, and the power of ten they
count. -/
def readSize? (text : List Char) : Option (Nat × Int) :=
  let whole := text.takeWhile Char.isDigit
  let rest := text.dropWhile Char.isDigit
  let (places, rest) :=
    match rest with
    | '.' :: after => (after.takeWhile Char.isDigit, after.dropWhile Char.isDigit)
    | _ => ([], rest)
  if whole.isEmpty ∧ places.isEmpty then none
  else (readPower? rest).map fun power =>
    (extendDigits (digitsValue whole) places, power - Int.ofNat places.length)

def readUnsigned? (text : List Char) : Option Double :=
  let word := String.ofList (text.map Char.toLower)
  if word = "inf" ∨ word = "infinity" then some .infinity
  else if word = "nan" then some .nan
  else (readSize? text).map fun (digits, exponent) => nearest digits exponent

def read? (text : List Char) : Option Double :=
  let (negative, size) := takeSign text
  (readUnsigned? size).map fun value => if negative then value.negate else value

end ConsoleBatch.Decimal
