import ConsoleBatch.Decimal.Layout
import ConsoleBatch.Json.Value

/-!
Writing JSON, on one line without blanks or on many indented by two.
-/

namespace ConsoleBatch.Json

def hexDigit (n : Nat) : Char :=
  Nat.digitChar n

def escapeChar (c : Char) : List Char :=
  if c = '"' then ['\\', '"']
  else if c = '\\' then ['\\', '\\']
  else if c = '\n' then ['\\', 'n']
  else if c = '\r' then ['\\', 'r']
  else if c = '\t' then ['\\', 't']
  else if c = '\x08' then ['\\', 'b']
  else if c = '\x0c' then ['\\', 'f']
  else if c.toNat < 0x20 then
    ['\\', 'u', '0', '0', hexDigit (c.toNat / 16), hexDigit (c.toNat % 16)]
  else [c]

def quoted (text : String) : String :=
  String.ofList ('"' :: text.toList.flatMap escapeChar ++ ['"'])

def Number.text : Number → String
  | integer value => String.ofList (Decimal.signed (value < 0) (Decimal.digitsOf value.natAbs))
  | float value => Decimal.dataLayout.write value

structure Style where
  enclose : Nat → String → List String → String → String
  colon : String

mutual

def Style.write (style : Style) (depth : Nat) : Value → String
  | .null => "null"
  | .bool value => if value then "true" else "false"
  | .number value => value.text
  | .string text => quoted text
  | .array items => style.enclose depth "[" (style.writeItems (depth + 1) items) "]"
  | .object members => style.enclose depth "\x7b" (style.writeMembers (depth + 1) members) "\x7d"

def Style.writeItems (style : Style) (depth : Nat) : List Value → List String
  | [] => []
  | item :: rest => style.write depth item :: style.writeItems depth rest

def Style.writeMembers (style : Style) (depth : Nat) : List (String × Value) → List String
  | [] => []
  | (name, value) :: rest =>
    (quoted name ++ style.colon ++ style.write depth value) :: style.writeMembers depth rest

end

def oneLine : Style where
  enclose _ opening parts closing := opening ++ ",".intercalate parts ++ closing
  colon := ":"

def newLine (depth : Nat) : String :=
  String.ofList ('\n' :: List.replicate (2 * depth) ' ')

def indented : Style where
  enclose depth opening parts closing :=
    if parts.isEmpty then opening ++ closing
    else opening ++ newLine (depth + 1) ++ ("," ++ newLine (depth + 1)).intercalate parts ++
      newLine depth ++ closing
  colon := ": "

def Value.compact (value : Value) : String :=
  oneLine.write 0 value

def Value.pretty (value : Value) : String :=
  indented.write 0 value

end ConsoleBatch.Json
