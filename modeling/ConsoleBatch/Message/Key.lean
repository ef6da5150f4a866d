/-!
The messages that a requester may be sent.
-/

namespace ConsoleBatch.Message

inductive Key where
  | usage
  | invalidFileName
  | fileNotFound
  | executionStarted
  | invalidSleep
  | readError
  | lintWarning
  | lintTimeout
  | executionCancelled
  | emptyFile
  | timingReport
  | skippedDangerous
  | success
  deriving DecidableEq

namespace Key

def all : List Key :=
  [usage, invalidFileName, fileNotFound, executionStarted, invalidSleep, readError, lintWarning,
    lintTimeout, executionCancelled, emptyFile, timingReport, skippedDangerous, success]

def name : Key → String
  | usage => "usage"
  | invalidFileName => "invalid-file-name"
  | fileNotFound => "file-not-found"
  | executionStarted => "execution-started"
  | invalidSleep => "invalid-sleep"
  | readError => "read-error"
  | lintWarning => "lint-warning"
  | lintTimeout => "lint-timeout"
  | executionCancelled => "execution-cancelled"
  | emptyFile => "empty-file"
  | timingReport => "timing-report"
  | skippedDangerous => "skipped-dangerous"
  | success => "success"

def builtIn : Key → String
  | usage => "Usage: /filebatch <filename>"
  | invalidFileName => "Invalid batch file name: <filename>"
  | fileNotFound => "Batch file not found: <filename>"
  | executionStarted => "Executing batch file: <filename>"
  | invalidSleep => "Invalid sleep directive: <line>"
  | readError => "Could not read the batch file."
  | lintWarning => "Line <line_number>: <message>"
  | lintTimeout => "Linting took too long and was skipped for the rest of <filename>."
  | executionCancelled => "Execution of <filename> was cancelled: linting exceeded its time budget."
  | emptyFile => "<filename> contains no valid commands."
  | timingReport => "<report>"
  | skippedDangerous => "Skipped <count> dangerous command(s) in <filename>."
  | success => "Executed <count> command(s) from <filename>."

def ofName? (text : String) : Option Key :=
  all.find? fun key => key.name == text

end Key

end ConsoleBatch.Message
