import ConsoleBatch.Json.Numeral
import ConsoleBatch.Json.Token
import ConsoleBatch.Json.Value

/-!
Reading configuration text.

The reader goes through the tokens once. It keeps a stack of the arrays and objects that are
still open, the innermost first, and gives each value that is complete to the innermost one.
One comma may follow a value, but none has to.
-/

namespace ConsoleBatch.Json

inductive Frame where
  | members (read : List (String × Value)) (commaAllowed : Bool)
  | named (read : List (String × Value)) (name : String)
  | valued (read : List (String × Value)) (name : String)
  /-- An array before a value, a comma or its end. The items are kept last first. -/
  | items (read : List Value) (commaAllowed : Bool)

structure Reader where
  stack : List Frame := []
  root : Option Value := none

def deliver (reader : Reader) (value : Value) : Option Reader :=
  match reader.stack, reader.root with
  | [], none => some { root := some value }
  | .valued read name :: outer, root =>
    some { stack := .members (putMember name value read) true :: outer, root }
  | .items read _ :: outer, root => some { stack := .items (value :: read) true :: outer, root }
  | _, _ => none

def nameOrValue (reader : Reader) (name : String) (value : Value) : Option Reader :=
  match reader.stack with
  | .members read _ :: outer => some { reader with stack := .named read name :: outer }
  | _ => deliver reader value

def readToken (reader : Reader) (token : Token) : Option Reader :=
  match token, reader.stack with
  | .openBrace, stack => some { reader with stack := .members [] false :: stack }
  | .openBracket, stack => some { reader with stack := .items [] false :: stack }
  | .closeBrace, .members read _ :: outer => deliver { reader with stack := outer } (.object read)
  | .closeBracket, .items read _ :: outer =>
    deliver { reader with stack := outer } (.array read.reverse)
  | .comma, .members read true :: outer => some { reader with stack := .members read false :: outer }
  | .comma, .items read true :: outer => some { reader with stack := .items read false :: outer }
  | .colon, .named read name :: outer => some { reader with stack := .valued read name :: outer }
  | .word name, .members read _ :: outer => some { reader with stack := .named read name :: outer }
  | .string text, _ => nameOrValue reader text (.string text)
  | .numeral text, _ => nameOrValue reader text (numeralValue text)
  | .bool value, _ => deliver reader (.bool value)
  | .null, _ => deliver reader .null
  | _, _ => none

/-- The value that some tokens write; no tokens write the empty object. -/
def valueOf? (tokens : List Token) : Option Value := do
  let reader ← tokens.foldlM readToken {}
  match reader.stack, reader.root with
  | [], some value => some value
  | [], none => some (.object [])
  | _, _ => none

def read? (text : String) : Option Value :=
  (tokens? text.toList).bind valueOf?

end ConsoleBatch.Json
