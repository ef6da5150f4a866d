import ConsoleBatch.Command
import ConsoleBatch.Config.Basic
import ConsoleBatch.Lint.Clock
import ConsoleBatch.Lint.Suggestion
import ConsoleBatch.Lint.Timings
import ConsoleBatch.Sleep

/-!
Linting one line.

The checks run in the configured order, and the first warning ends them. The deadline is looked
at before each check, also before one that is switched off.
-/

namespace ConsoleBatch.Lint

open Text

structure Context where
  known : List String
  blacklist : List String
  order : List Check
  /-- The time from which on no check starts. -/
  due : Nat

inductive LineKind where
  | sleep
  | directive
  | command
  deriving DecidableEq

def lineKind? (line : String) : Option LineKind :=
  match line.toList with
  | [] => none
  | '#' :: _ => none
  | '!' :: _ => some (if isSleepDirective line then .sleep else .directive)
  | _ => some .command

def loweredName (line : String) : String :=
  lowered (commandName line)

def sleepWarning? (line : String) : Option String :=
  match sleepSeconds line with
  | .error error => some error.message
  | .ok _ => none

def directiveWarning (line : String) : String :=
  "Unknown meta-command '" ++ String.ofList (firstWord line.toList) ++ "'. Supported: !sleep"

def blacklistWarning? (blacklist : List String) (line : String) : Option String :=
  if isDangerous line blacklist then some ("Command '" ++ loweredName line ++ "' is blacklisted.")
  else none

def existenceWarning? (rules : LintRules) (known : List String) (line : String) : Option String :=
  let name := loweredName line
  if name ∈ known then none
  else
    let suggestion := if rules.suggestAlternatives then closestMatch name known else none
    match suggestion with
    | some other => some ("Unknown command '" ++ name ++ "'. Did you mean '" ++ other ++ "'?")
    | none => some ("Unknown command '" ++ name ++ "'.")

def warning? (rules : LintRules) (ctx : Context) (kind : LineKind) (line : String) :
    Check → Option String
  | .metaSyntax => if kind = .sleep then sleepWarning? line else none
  | .unknownMeta => if kind = .directive then some (directiveWarning line) else none
  | .blacklist => if kind = .command then blacklistWarning? ctx.blacklist line else none
  | .existence => if kind = .command then existenceWarning? rules ctx.known line else none

structure Finding where
  warning : Option String := none
  timings : Timings := .empty
  deriving DecidableEq

/-- Runs checks on a line after those that took `timings`. Gives nothing if the deadline has
come when a check is to start. -/
def runChecks (rules : LintRules) (ctx : Context) (kind : LineKind) (line : String)
    (timings : Timings) (clock : Clock) : List Check → Option Finding × Clock
  | [] => (some { timings }, clock)
  | check :: rest =>
    if ctx.due ≤ clock.now then (none, clock.next)
    else if rules.enables check then
      let started := clock.next
      let ended := started.next
      let timings := timings.record check (ended.now - started.now)
      match warning? rules ctx kind line check with
      | some warning => (some { warning := some warning, timings }, ended.next)
      | none => runChecks rules ctx kind line timings ended.next rest
    else runChecks rules ctx kind line timings clock.next rest

def lintLine (linter : LinterConfig) (ctx : Context) (line : String) (clock : Clock) :
    Option Finding × Clock :=
  let line := trimmed line
  match lineKind? line with
  | some kind =>
    if linter.enabled then runChecks linter.rules ctx kind line .empty clock ctx.order
    else (some {}, clock)
  | none => (some {}, clock)

end ConsoleBatch.Lint
