import ConsoleBatch.Decimal.Layout

/-!
What can go wrong around a batch, and the text that says so.
-/

namespace ConsoleBatch

open Decimal (Double)

def maxFileSize : Nat := 10 * 1024 * 1024

inductive LookupError where
  | invalidName (name : String)
  | notFound (name : String)
  deriving DecidableEq

inductive ReadError where
  | tooLarge
  | refused (reason : String)
  deriving DecidableEq

inductive BatchError where
  | configuration (detail : String)
  | lookup (error : LookupError)
  | reading (error : ReadError)
  | lintTimeout
  | invalidPause (seconds : Double)
  deriving DecidableEq

def LookupError.message : LookupError → String
  | invalidName name => "Invalid batch file name: " ++ name
  | notFound name => "Batch file not found: " ++ name

def ReadError.message : ReadError → String
  | tooLarge => "file size exceeds limit of " ++ toString maxFileSize ++ " bytes"
  | refused reason => reason

def BatchError.message : BatchError → String
  | configuration detail => "Configuration error: " ++ detail
  | lookup error => error.message
  | reading error => "I/O error: " ++ error.message
  | lintTimeout => "lint deadline exceeded"
  | invalidPause seconds =>
    "invalid pause duration: " ++ Decimal.plain seconds ++
      " (expected a finite, non-negative number of seconds)"

end ConsoleBatch
