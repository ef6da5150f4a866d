import ConsoleBatch.Action
import ConsoleBatch.Text.Blank
import ConsoleBatch.Text.Lower
import ConsoleBatch.Decimal.Reading

/-!
The `!sleep` directive.
-/

namespace ConsoleBatch

open Decimal (Double)
open Text

def sleepWord : String := "!sleep"

def isSleepDirective (line : String) : Bool :=
  sameIgnoringAsciiCase (line.toList.take sleepWord.toList.length) sleepWord.toList

inductive SleepError where
  | missingArgument
  | notANumber (argument : String)
  | outOfRange (argument : String)
  deriving DecidableEq

def SleepError.message : SleepError → String
  | missingArgument => "Invalid syntax for !sleep. Usage: !sleep <seconds>"
  | notANumber argument =>
    "Invalid duration for !sleep: '" ++ argument ++ "'. Expected a number."
  | outOfRange argument =>
    "Invalid duration for !sleep: '" ++ argument ++ "'. Expected a non-negative number."

/-- The length of the pause that a line asks for: its second word, whatever follows. -/
def sleepSeconds (line : String) : Except SleepError Double :=
  let argument := secondWord line.toList
  if argument.isEmpty then .error .missingArgument
  else match Decimal.read? argument with
    | none => .error (.notANumber (String.ofList argument))
    | some seconds =>
      if isPauseLength seconds then .ok seconds
      else .error (.outOfRange (String.ofList argument))

end ConsoleBatch
