import ConsoleBatch.Batch.Parsed
import ConsoleBatch.Cli.Arguments
import ConsoleBatch.Json.Writing

/-!
Lint reports, as text and as JSON.
-/

namespace ConsoleBatch.Cli

open Batch (Parsed Warning)
open Json (Value)

def warningLines (fileName : String) (warnings : List Warning) : List String :=
  if warnings.isEmpty then []
  else ("\n" ++ fileName ++ ":") ::
    warnings.map fun warning => "  " ++ warning.shown ++ " [" ++ warning.kind ++ "]"

def countLine (fileName : String) (batch : Parsed) : String :=
  "\nParsed " ++ fileName ++ ": " ++ toString batch.commandCount ++ " command(s), " ++
    toString batch.pauseCount ++ " pause(s), " ++ toString batch.skipped ++
    " dangerous skipped, " ++ toString batch.warnings.length ++ " warning(s)"

def textReport (fileName : String) (batch : Parsed) (timings : Bool) : List String :=
  warningLines fileName batch.warnings ++
    (if batch.lintTimedOut then ["\nLinting stopped early: time budget exceeded"] else []) ++
    [countLine fileName batch] ++
    (if timings then ["\n" ++ batch.timings.report] else [])

def actionValue : Action → Value
  | .command text => .ofMembers [("command", .string text)]
  | .pause seconds => .ofMembers [("pause", .double seconds)]

def warningValue (warning : Warning) : Value :=
  let about : List (String × Value) :=
    match warning with
    | .lint lineNumber line _ | .invalidSleep lineNumber line _ =>
      [("line_number", .natural lineNumber), ("line", .string line)]
    | .emptyFile => []
  .ofMembers ([("kind", .string warning.kind), ("message", .string warning.message)] ++ about)

def timingsValue (timings : Lint.Timings) : Value :=
  .ofMembers (timings.entries.map fun (check, nanos) =>
    (check.name, .double (.ofFloat (Lint.secondsOf nanos * 1000.0))))

def reportValue (fileName : String) (batch : Parsed) (timings : Bool) : Value :=
  .ofMembers
    [("file", .string fileName),
     ("actions", .array (batch.actions.map actionValue)),
     ("skipped", .natural batch.skipped),
     ("lint_timed_out", .bool batch.lintTimedOut),
     ("warnings", .array (batch.warnings.map warningValue)),
     ("timings_ms", if timings then timingsValue batch.timings else .null)]

def report (format : Format) (fileName : String) (batch : Parsed) (timings : Bool) : List String :=
  match format with
  | .text => textReport fileName batch timings
  | .json => [(reportValue fileName batch timings).pretty]

end ConsoleBatch.Cli
