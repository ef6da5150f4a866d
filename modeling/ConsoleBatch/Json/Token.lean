import ConsoleBatch.Text.Alphanumeric
import ConsoleBatch.Text.Blank

/-!
The tokens of configuration text.

The text is JSON with comments, strings in either kind of quotes, bare words as names, and
numerals with a plus sign or in hexadecimal. Every scanner looks at what follows the first
character of a token and says how many of those characters belong to it.
-/

namespace ConsoleBatch.Json

open Text

inductive Token where
  | openBrace
  | closeBrace
  | openBracket
  | closeBracket
  | comma
  | colon
  | null
  | bool (value : Bool)
  | string (text : String)
  | numeral (text : String)
  | word (text : String)
  deriving DecidableEq

/-- What a scanner found: the characters it took after the first one, and the token, unless it
was a comment. -/
structure Lexeme where
  taken : Nat
  token : Option Token := none

def blockLength? : List Char → Option Nat
  | '*' :: '/' :: _ => some 2
  | _ :: rest => (blockLength? rest).map (· + 1)
  | [] => none

def comment? : List Char → Option Lexeme
  | '/' :: rest => some { taken := 1 + (rest.takeWhile (· != '\n')).length }
  | '*' :: rest => (blockLength? rest).map fun length => { taken := 1 + length }
  | _ => none

/-- The characters up to the closing quote, escapes as they are written. A backslash keeps the
next character from ending the string. -/
def quotedBody? (quote : Char) : List Char → Option (List Char)
  | [] => none
  | '\\' :: c :: rest => (quotedBody? quote rest).map fun body => '\\' :: c :: body
  | c :: rest => if c = quote then some [] else (quotedBody? quote rest).map (c :: ·)

inductive StringPart where
  | character (c : Char)
  | unit (code : Nat)
  deriving DecidableEq

def hexValue? (c : Char) : Option Nat :=
  if c.isDigit then some (c.toNat - '0'.toNat)
  else if 'a' ≤ c ∧ c ≤ 'f' then some (c.toNat - 'a'.toNat + 10)
  else if 'A' ≤ c ∧ c ≤ 'F' then some (c.toNat - 'A'.toNat + 10)
  else none

def hexDigitsValue? (digits : List Char) : Option Nat :=
  digits.foldlM (fun value digit => (hexValue? digit).map (16 * value + ·)) 0

/-- The character of a short escape. Of the two quotes, only the one that ends the string may
be escaped. -/
def shortEscape? (quote c : Char) : Option Char :=
  match c with
  | '\\' => some '\\'
  | '/' => some '/'
  | 'b' => some '\x08'
  | 'f' => some '\x0c'
  | 'n' => some '\n'
  | 'r' => some '\r'
  | 't' => some '\t'
  | c => if c = quote then some quote else none

def stringParts? (quote : Char) : List Char → Option (List StringPart)
  | [] => some []
  | '\\' :: 'u' :: a :: b :: c :: d :: rest => do
    let code ← hexDigitsValue? [a, b, c, d]
    let parts ← stringParts? quote rest
    pure (.unit code :: parts)
  | '\\' :: c :: rest => do
    let escaped ← shortEscape? quote c
    let parts ← stringParts? quote rest
    pure (.character escaped :: parts)
  | '\\' :: [] => none
  | c :: rest => (stringParts? quote rest).map (.character c :: ·)

def isHighSurrogate (code : Nat) : Bool :=
  0xD800 ≤ code && code ≤ 0xDBFF

def isLowSurrogate (code : Nat) : Bool :=
  0xDC00 ≤ code && code ≤ 0xDFFF

def pairCode (high low : Nat) : Nat :=
  0x10000 + (high - 0xD800) * 0x400 + (low - 0xDC00)

/-- The characters of a string's parts. Surrogates count only in pairs. -/
def joinParts? : List StringPart → Option (List Char)
  | [] => some []
  | .character c :: rest => (joinParts? rest).map (c :: ·)
  | .unit high :: .unit low :: rest =>
    if isHighSurrogate high then
      if isLowSurrogate low then (joinParts? rest).map (Char.ofNat (pairCode high low) :: ·)
      else none
    else if isLowSurrogate high then none
    else (joinParts? (.unit low :: rest)).map (Char.ofNat high :: ·)
  | .unit code :: rest =>
    if isHighSurrogate code || isLowSurrogate code then none
    else (joinParts? rest).map (Char.ofNat code :: ·)

def string? (quote : Char) (rest : List Char) : Option Lexeme := do
  let body ← quotedBody? quote rest
  let text ← (stringParts? quote body).bind joinParts?
  pure { taken := body.length + 1, token := some (.string (String.ofList text)) }

def someDigits? (isDigit : Char → Bool) (text : List Char) : Option (List Char) :=
  let digits := text.takeWhile isDigit
  if digits.isEmpty then none else some digits

def fraction? : List Char → Option (List Char)
  | '.' :: rest => (someDigits? Char.isDigit rest).map ('.' :: ·)
  | _ => some []

def power? : List Char → Option (List Char)
  | [] => some []
  | mark :: rest =>
    if mark = 'e' ∨ mark = 'E' then
      match rest with
      | '-' :: digits => (someDigits? Char.isDigit digits).map fun power => mark :: '-' :: power
      | '+' :: digits => (someDigits? Char.isDigit digits).map fun power => mark :: '+' :: power
      | digits => (someDigits? Char.isDigit digits).map (mark :: ·)
    else some []

def decimalEnding? (rest : List Char) : Option (List Char) := do
  let fraction ← fraction? rest
  let power ← power? (rest.drop fraction.length)
  pure (fraction ++ power)

def unsigned? : List Char → Option (List Char)
  | [] => none
  | '0' :: rest =>
    match rest with
    | 'x' :: digits => (someDigits? (fun c => (hexValue? c).isSome) digits).map ('0' :: 'x' :: ·)
    | 'X' :: digits => (someDigits? (fun c => (hexValue? c).isSome) digits).map ('0' :: 'X' :: ·)
    | rest => (decimalEnding? rest).map ('0' :: ·)
  | text => do
    let whole ← someDigits? Char.isDigit text
    let ending ← decimalEnding? (text.drop whole.length)
    pure (whole ++ ending)

def numeral? (c : Char) (rest : List Char) : Option Lexeme := do
  let text ← if c = '-' ∨ c = '+' then (unsigned? rest).map (c :: ·) else unsigned? (c :: rest)
  pure { taken := text.length - 1, token := some (.numeral (String.ofList text)) }

def valueWords : List (String × Token) :=
  [("true", .bool true), ("false", .bool false), ("null", .null)]

def startsWord (word : String) (text : List Char) : Bool :=
  word.toList.isPrefixOf text && ! (text.drop word.toList.length).head?.any isAlphanumeric

def valueWord? (text : List Char) : Option Lexeme :=
  (valueWords.find? fun (word, _) => startsWord word text).map fun (word, token) =>
    { taken := word.toList.length - 1, token := some token }

def isWordChar (c : Char) : Bool :=
  isAlphanumeric c || c == '-' || c == '_'

def bareWord? (text : List Char) : Option Lexeme :=
  let word := text.takeWhile fun c => ! isBlank c && c != ':'
  if word.all isWordChar then
    some { taken := word.length - 1, token := some (.word (String.ofList word)) }
  else none

def word? (text : List Char) : Option Lexeme :=
  (valueWord? text).or (bareWord? text)

def lexeme? (c : Char) (rest : List Char) : Option Lexeme :=
  match c with
  | '{' => some { taken := 0, token := some .openBrace }
  | '}' => some { taken := 0, token := some .closeBrace }
  | '[' => some { taken := 0, token := some .openBracket }
  | ']' => some { taken := 0, token := some .closeBracket }
  | ',' => some { taken := 0, token := some .comma }
  | ':' => some { taken := 0, token := some .colon }
  | '/' => comment? rest
  | '"' => string? '"' rest
  | '\'' => string? '\'' rest
  | c => if c = '-' ∨ c = '+' ∨ c.isDigit then numeral? c rest else word? (c :: rest)

def tokens? : List Char → Option (List Token)
  | [] => some []
  | c :: rest =>
    if isBlank c then tokens? rest
    else match lexeme? c rest with
      | none => none
      | some lexeme => (tokens? (rest.drop lexeme.taken)).map (lexeme.token.toList ++ ·)
termination_by text => text.length

end ConsoleBatch.Json
