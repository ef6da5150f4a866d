import ConsoleBatch.Json.Writing

/-!
Checking a value against a schema.

A fault says what is wrong and where. The members of an object are looked at in the order of
their names and the items of an array in theirs, each with all that is inside it before the
next one, and the first fault is the one reported.
-/

namespace ConsoleBatch.Config

open Json (Value)

inductive Schema where
  | string
  | nonemptyString
  | choice (options : List String)
  | boolean
  | count
  | list (item : Schema)
  | record (fields : List (String × Schema))
  | dictionary (member : Schema)

def Schema.typeName : Schema → String
  | .string | .nonemptyString | .choice _ => "string"
  | .boolean => "boolean"
  | .count => "integer"
  | .list _ => "array"
  | .record _ | .dictionary _ => "object"

inductive Problem where
  | wrongType (value : Value) (expected : String)
  | additionalProperty (name : String)
  | notAnOption (value : Value) (options : List String)
  | tooShort (value : Value)
  | negative (value : Value)

structure Fault where
  path : List String
  problem : Problem

namespace Problem

def optionsText (options : List String) : String :=
  " or ".intercalate (options.map Json.quoted)

def message : Problem → String
  | wrongType value expected => value.compact ++ " is not of type " ++ Json.quoted expected
  | additionalProperty name =>
    "Additional properties are not allowed ('" ++ name ++ "' was unexpected)"
  | notAnOption value options => value.compact ++ " is not one of " ++ optionsText options
  | tooShort value => value.compact ++ " is shorter than 1 character"
  | negative value => value.compact ++ " is less than the minimum of 0"

end Problem

def pointerPart (name : String) : String :=
  let escape (c : Char) : List Char :=
    if c = '~' then ['~', '0'] else if c = '/' then ['~', '1'] else [c]
  "/" ++ String.ofList (name.toList.flatMap escape)

def Fault.pointer (fault : Fault) : String :=
  String.join (fault.path.map pointerPart)

def Fault.message (fault : Fault) : String :=
  fault.problem.message ++ " at " ++ fault.pointer

def Fault.inside (step : String) (fault : Fault) : Fault :=
  { fault with path := step :: fault.path }

def here (problem : Problem) : Option Fault :=
  some { path := [], problem }

/-- Whether a number is whole, written with a fraction of zero or not. -/
def isWhole : Json.Number → Bool
  | .integer _ => true
  | .float value => value.isWhole

def isNegative : Json.Number → Bool
  | .integer value => value < 0
  | .float value => value.isBelowZero

mutual

def fault? (schema : Schema) (value : Value) : Option Fault :=
  match value, schema with
  | .string _, .string => none
  | .string text, .nonemptyString => if text = "" then here (.tooShort (.string text)) else none
  | .string text, .choice options =>
    if text ∈ options then none else here (.notAnOption (.string text) options)
  | .bool _, .boolean => none
  | .number number, .count =>
    if ! isWhole number then here (.wrongType (.number number) schema.typeName)
    else if isNegative number then here (.negative (.number number))
    else none
  | .array items, .list item => itemsFault? item 0 items
  | .object members, .record fields => membersFault? (fields.lookup ·) members
  | .object members, .dictionary member => membersFault? (fun _ => some member) members
  | value, schema => here (.wrongType value schema.typeName)

def itemsFault? (schema : Schema) (index : Nat) : List Value → Option Fault
  | [] => none
  | item :: rest =>
    ((fault? schema item).map (·.inside (toString index))).or (itemsFault? schema (index + 1) rest)

def membersFault? (schemaOf : String → Option Schema) : List (String × Value) → Option Fault
  | [] => none
  | (name, value) :: rest =>
    match schemaOf name with
    | none => here (.additionalProperty name)
    | some schema =>
      ((fault? schema value).map (·.inside name)).or (membersFault? schemaOf rest)

end

end ConsoleBatch.Config
