import ConsoleBatch.Action
import ConsoleBatch.Command
import ConsoleBatch.Config.Basic
import ConsoleBatch.Sleep
import ConsoleBatch.Text.Lines

/-!
The lines of a batch and what each of them means.

Lines that are empty but for blanks, and comments, mean nothing. Every other line is a pause, a
`!sleep` that is no pause, a dropped command, or a command to run.
-/

namespace ConsoleBatch.Batch

open Decimal (Double)
open Text

structure Line where
  number : Nat
  text : String
  deriving DecidableEq

def Line.isSignificant (line : Line) : Bool :=
  line.text.toList.head?.any (· != '#')

def contentLines (content : String) : List String :=
  (lines content.toList).map String.ofList

inductive Meaning where
  | pause (seconds : Double)
  | badSleep (reason : SleepError)
  | dropped
  | command
  deriving DecidableEq

def isDropped (security : Security) (text : String) : Bool :=
  security.removeDangerousCommands && isDangerous text security.commandBlacklist

/-- The meaning of a line. A `!sleep` is never taken for a command. -/
def meaning (security : Security) (text : String) : Meaning :=
  if isSleepDirective text then
    match sleepSeconds text with
    | .ok seconds => .pause seconds
    | .error reason => .badSleep reason
  else if isDropped security text then .dropped
  else .command

end ConsoleBatch.Batch
