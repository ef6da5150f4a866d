import ConsoleBatch.Config.Basic
import ConsoleBatch.Json.Writing

/-!
A configuration as a value, with every setting written out. Of the message templates only those
that are configured are written, next to the text that every message starts with.
-/

namespace ConsoleBatch

open Json (Value)

def TimerMode.name : TimerMode → String
  | ticks => "ticks"
  | realtime => "realtime"

def TimeoutPolicy.name : TimeoutPolicy → String
  | skipLinter => "SKIP_LINTER"
  | cancelExecution => "CANCEL_EXECUTION"

def Message.Catalog.members (catalog : Message.Catalog) : List (String × Value) :=
  ("prefix", .string catalog.opening) ::
    catalog.templates.map fun (name, template) => (name, .string template)

section

-- Makes a value of members: it keeps them as they come, or in order.
variable (object : List (String × Value) → Value)

def Settings.write (settings : Settings) : Value :=
  object
    [("batch-folder", .string settings.batchFolder),
     ("file-extension", .string settings.fileExtension),
     ("timer-mode", .string settings.timerMode.name)]

def Security.write (security : Security) : Value :=
  object
    [("remove-dangerous-commands", .bool security.removeDangerousCommands),
     ("command-blacklist", .strings security.commandBlacklist)]

def Message.Catalog.write (catalog : Message.Catalog) : Value :=
  object catalog.members

def LintRules.write (rules : LintRules) : Value :=
  object
    [("warn-invalid-syntax", .bool rules.warnInvalidSyntax),
     ("warn-unknown-meta", .bool rules.warnUnknownMeta),
     ("warn-on-blacklisted", .bool rules.warnOnBlacklisted),
     ("check-command-existence", .bool rules.checkCommandExistence),
     ("suggest-alternatives", .bool rules.suggestAlternatives),
     ("warn-empty-file", .bool rules.warnEmptyFile)]

def LintExecution.write (execution : LintExecution) : Value :=
  object
    [("lint-order", .strings (execution.lintOrder.map Lint.Check.name)),
     ("max-lint-time-ms", .natural execution.maxLintTime),
     ("on-timeout", .string execution.onTimeout.name),
     ("debug-mode", .bool execution.debugMode)]

def LinterConfig.write (linter : LinterConfig) : Value :=
  object
    [("enabled", .bool linter.enabled),
     ("rules", linter.rules.write object),
     ("execution", linter.execution.write object)]

def HostConfig.write (host : HostConfig) : Value :=
  object [("known-commands", .strings host.knownCommands)]

def Config.write (config : Config) : Value :=
  object
    [("settings", config.settings.write object),
     ("security", config.security.write object),
     ("messages", config.messages.write object),
     ("linter", config.linter.write object),
     ("host", config.host.write object)]

end

def Config.toValue (config : Config) : Value :=
  config.write .ofMembers

/-- The configuration on one line, its settings in the order in which they are declared. -/
def Config.text (config : Config) : String :=
  (config.write .object).compact

end ConsoleBatch
