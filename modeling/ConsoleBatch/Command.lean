import ConsoleBatch.Text.Blank
import ConsoleBatch.Text.Lower

/-!
The name of a command, and the commands that must not run.

The command filter and the blacklist check both ask `isDangerous`, so that they agree.
-/

namespace ConsoleBatch

open Text

def withoutSlash : List Char → List Char
  | '/' :: rest => rest
  | line => line

def commandChars (line : List Char) : List Char :=
  firstWord (withoutSlash (trim line))

def commandName (line : String) : String :=
  String.ofList (commandChars line.toList)

@[simp] theorem toList_commandName (line : String) :
    (commandName line).toList = commandChars line.toList := by
  simp [commandName]

/-- Whether a command name is on the blacklist. Case does not matter, and no entry stands for
the empty name. -/
def isBlacklisted (name : String) (blacklist : List String) : Bool :=
  name != "" && (blacklist.map fun entry => lowerEach entry.toList).contains (lowerEach name.toList)

def isDangerous (line : String) (blacklist : List String) : Bool :=
  isBlacklisted (commandName line) blacklist

end ConsoleBatch
