import ConsoleBatch.Batch.Line
import ConsoleBatch.Batch.Warning
import ConsoleBatch.Lint.Linter

/-!
From the lines of a file to a batch.

The lines are taken one after the other. Each is linted first, as long as the deadline has not come,
and then does what it means, whatever linting said. When the deadline comes, the policy decides
whether the batch goes on without linting or is cancelled.
-/

namespace ConsoleBatch.Batch

open Lint (Clock Context Timings)
open Text (trimmed)

structure Parsed where
  actions : List Action
  skipped : Nat
  warnings : List Warning
  timings : Timings
  lintTimedOut : Bool
  deriving DecidableEq

namespace Parsed

def commandCount (batch : Parsed) : Nat :=
  batch.actions.countP Action.isCommand

def pauseCount (batch : Parsed) : Nat :=
  batch.actions.length - batch.commandCount

def lintWarnings (batch : Parsed) : List Warning :=
  batch.warnings.filter Warning.isLint

def invalidSleeps (batch : Parsed) : List Warning :=
  batch.warnings.filter Warning.isInvalidSleep

def isEmptyFile (batch : Parsed) : Bool :=
  batch.warnings.contains .emptyFile

end Parsed

structure Draft where
  actions : Array Action := #[]
  skipped : Nat := 0
  warnings : Array Warning := #[]
  timings : Timings := .empty
  lintTimedOut : Bool := false

namespace Draft

def act (draft : Draft) (action : Action) : Draft :=
  { draft with actions := draft.actions.push action }

def warn (draft : Draft) (warning : Warning) : Draft :=
  { draft with warnings := draft.warnings.push warning }

def note (draft : Draft) (line : Line) (finding : Lint.Finding) : Draft :=
  let timed := { draft with timings := draft.timings.merge finding.timings }
  match finding.warning with
  | some message => timed.warn (.lint line.number line.text message)
  | none => timed

/-- Lints the next line, unless the deadline came on one before it. If it comes now, the policy is to
go on or to cancel the batch. -/
def lint (draft : Draft) (linter : LinterConfig) (ctx : Context) (line : Line) (clock : Clock) :
    Option Draft × Clock :=
  if draft.lintTimedOut then (some draft, clock)
  else
    match Lint.lintLine linter ctx line.text clock with
    | (some finding, clock) => (some (draft.note line finding), clock)
    | (none, clock) =>
      match linter.execution.onTimeout with
      | .skipLinter => (some { draft with lintTimedOut := true }, clock)
      | .cancelExecution => (none, clock)

def take (draft : Draft) (security : Security) (line : Line) : Draft :=
  match meaning security line.text with
  | .pause seconds => draft.act (.pause seconds)
  | .badSleep reason => draft.warn (.invalidSleep line.number line.text reason)
  | .dropped => { draft with skipped := draft.skipped + 1 }
  | .command => draft.act (.command line.text)

def finish (draft : Draft) (rules : LintRules) : Parsed :=
  let whole :=
    if draft.actions.isEmpty && rules.warnEmptyFile then draft.warn .emptyFile else draft
  { actions := whole.actions.toList
    skipped := whole.skipped
    warnings := whole.warnings.toList
    timings := whole.timings
    lintTimedOut := whole.lintTimedOut }

end Draft

def parseOnto (config : Config) (ctx : Context) :
    Draft → Clock → Nat → List String → Option Draft
  | draft, _, _, [] => some draft
  | draft, clock, number, raw :: rest =>
    let line : Line := { number, text := trimmed raw }
    if line.isSignificant then
      match draft.lint config.linter ctx line clock with
      | (some draft, clock) =>
        parseOnto config ctx (draft.take config.security line) clock (number + 1) rest
      | (none, _) => none
    else parseOnto config ctx draft clock (number + 1) rest

def nanosPerMilli : Nat := Nat.pow 10 6

def lintContext (config : Config) (known : List String) (now : Nat) : Context where
  known
  blacklist := config.security.commandBlacklist
  order := config.linter.execution.lintOrder
  due := now + config.linter.execution.maxLintTime * nanosPerMilli

/-- Parses lines, or gives nothing if the lint deadline comes and the batch is to be cancelled.
The names in `known` are lower-cased. -/
def parseLines (config : Config) (known : List String) (lines : List String) (clock : Clock) :
    Option Parsed :=
  (parseOnto config (lintContext config known clock.now) {} clock.next 1 lines).map
    (Draft.finish · config.linter.rules)

def parse (config : Config) (known : List String) (content : String) (clock : Clock) :
    Option Parsed :=
  parseLines config known (contentLines content) clock

end ConsoleBatch.Batch
