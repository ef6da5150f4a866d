import ConsoleBatch.Decimal.Double

/-!
JSON values.

The members of an object stand in the order of their names, each name once. `putMember` keeps
that order, and every object is built with it.
-/

namespace ConsoleBatch.Json

open Decimal (Double)

inductive Number where
  | integer (value : Int)
  | float (value : Double)
  deriving DecidableEq

inductive Value where
  | null
  | bool (value : Bool)
  | number (value : Number)
  | string (text : String)
  | array (items : List Value)
  | object (members : List (String × Value))

def putMember (name : String) (value : Value) : List (String × Value) → List (String × Value)
  | [] => [(name, value)]
  | (other, kept) :: rest =>
    if name < other then (name, value) :: (other, kept) :: rest
    else if name = other then (name, value) :: rest
    else (other, kept) :: putMember name value rest

namespace Value

def ofMembers (members : List (String × Value)) : Value :=
  object (members.foldl (fun sorted member => putMember member.1 member.2 sorted) [])

def natural (n : Nat) : Value :=
  number (.integer n)

/-- A double as a number; JSON has none for infinity and NaN. -/
def double (x : Double) : Value :=
  if x.isFinite then number (.float x) else null

def strings (texts : List String) : Value :=
  array (texts.map string)

def member? : Value → String → Option Value
  | object members, name => members.lookup name
  | _, _ => none

def string? : Value → Option String
  | string text => some text
  | _ => none

def bool? : Value → Option Bool
  | bool value => some value
  | _ => none

def strings? : Value → Option (List String)
  | array items => some (items.filterMap string?)
  | _ => none

def stringMembers? : Value → Option (List (String × String))
  | object members => some (members.filterMap fun (name, value) => value.string?.map (name, ·))
  | _ => none

end Value

end ConsoleBatch.Json
