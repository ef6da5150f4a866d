import ConsoleBatch.Sleep

/-!
What is found wrong with a batch.
-/

namespace ConsoleBatch.Batch

inductive Warning where
  | lint (lineNumber : Nat) (line message : String)
  | invalidSleep (lineNumber : Nat) (line : String) (reason : SleepError)
  | emptyFile
  deriving DecidableEq

namespace Warning

def message : Warning → String
  | lint _ _ message => message
  | invalidSleep _ _ reason => reason.message
  | emptyFile => "No valid commands found."

def lineNumber? : Warning → Option Nat
  | lint number _ _ => some number
  | invalidSleep number _ _ => some number
  | emptyFile => none

def shown (warning : Warning) : String :=
  match warning.lineNumber? with
  | some number => "Line " ++ toString number ++ ": " ++ warning.message
  | none => warning.message

def kind : Warning → String
  | lint _ _ _ => "lint"
  | invalidSleep _ _ _ => "invalid-sleep"
  | emptyFile => "empty-file"

def isLint : Warning → Bool
  | lint _ _ _ => true
  | _ => false

def isInvalidSleep : Warning → Bool
  | invalidSleep _ _ _ => true
  | _ => false

end Warning

end ConsoleBatch.Batch
