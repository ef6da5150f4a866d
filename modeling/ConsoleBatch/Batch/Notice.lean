import ConsoleBatch.Batch.Parsed

/-!
What a requester is told about a parsed batch.

Pauses that cannot be made and a lint timeout are told before the batch starts; what linting
found, and the timing report, when it is done.
-/

namespace ConsoleBatch.Batch

open Message (Catalog)

def openingNotice (messages : Catalog) : Warning → List String
  | .invalidSleep _ line _ => messages.message .invalidSleep [("line", line)]
  | _ => []

def openingMessages (config : Config) (fileName : String) (batch : Parsed) : List String :=
  batch.warnings.flatMap (openingNotice config.messages) ++
    if batch.lintTimedOut then config.messages.message .lintTimeout [("filename", fileName)] else []

def closingNotice (messages : Catalog) (fileName : String) : Warning → List String
  | .lint lineNumber line message =>
    messages.message .lintWarning
      [("line_number", toString lineNumber), ("line", line), ("message", message)]
  | .emptyFile => messages.message .emptyFile [("filename", fileName)]
  | .invalidSleep _ _ _ => []

/-- The messages that are held back until the batch is done. -/
def deferredMessages (config : Config) (fileName : String) (batch : Parsed) : List String :=
  batch.warnings.flatMap (closingNotice config.messages fileName) ++
    if config.linter.execution.debugMode then
      config.messages.message .timingReport [("report", batch.timings.report)]
    else []

end ConsoleBatch.Batch
