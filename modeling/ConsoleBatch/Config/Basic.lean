import ConsoleBatch.Lint.Check
import ConsoleBatch.Message.Catalog

/-!
The configuration: where batch files live, which commands are filtered, how lines are linted,
and what is said about it.
-/

namespace ConsoleBatch

inductive TimerMode where
  | ticks
  | realtime
  deriving DecidableEq

structure Settings where
  batchFolder : String := "batches"
  fileExtension : String := ".batch"
  timerMode : TimerMode := .ticks
  deriving DecidableEq

structure Security where
  removeDangerousCommands : Bool := true
  commandBlacklist : List String := ["stop", "restart", "reload", "op", "deop", "ban-ip"]
  deriving DecidableEq

inductive TimeoutPolicy where
  | skipLinter
  | cancelExecution
  deriving DecidableEq

structure LintRules where
  warnInvalidSyntax : Bool := true
  warnUnknownMeta : Bool := true
  warnOnBlacklisted : Bool := true
  checkCommandExistence : Bool := true
  suggestAlternatives : Bool := true
  warnEmptyFile : Bool := true
  deriving DecidableEq

def LintRules.enables (rules : LintRules) : Lint.Check → Bool
  | .metaSyntax => rules.warnInvalidSyntax
  | .unknownMeta => rules.warnUnknownMeta
  | .blacklist => rules.warnOnBlacklisted
  | .existence => rules.checkCommandExistence

structure LintExecution where
  lintOrder : List Lint.Check := Lint.Check.all
  /-- Milliseconds for linting one batch. -/
  maxLintTime : Nat := 1000
  onTimeout : TimeoutPolicy := .skipLinter
  debugMode : Bool := false
  deriving DecidableEq

structure LinterConfig where
  enabled : Bool := true
  rules : LintRules := {}
  execution : LintExecution := {}
  deriving DecidableEq

structure HostConfig where
  knownCommands : List String := []
  deriving DecidableEq

structure Config where
  settings : Settings := {}
  security : Security := {}
  messages : Message.Catalog := {}
  linter : LinterConfig := {}
  host : HostConfig := {}
  deriving DecidableEq

end ConsoleBatch
