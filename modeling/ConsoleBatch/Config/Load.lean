import ConsoleBatch.Config.Basic
import ConsoleBatch.Config.Schema
import ConsoleBatch.Json.Reading

/-!
Loading a configuration from text.

The text is read, the value is checked against the schema, and only then are the settings
taken from it. Whatever the value leaves out has its default.
-/

namespace ConsoleBatch.Config

open Decimal (Double)
open Json (Value)

def settingsSchema : Schema :=
  .record
    [("batch-folder", .nonemptyString),
     ("file-extension", .string),
     ("timer-mode", .choice ["ticks", "realtime"])]

def securitySchema : Schema :=
  .record
    [("remove-dangerous-commands", .boolean),
     ("command-blacklist", .list .string)]

def rulesSchema : Schema :=
  .record
    [("warn-invalid-syntax", .boolean),
     ("warn-unknown-meta", .boolean),
     ("warn-on-blacklisted", .boolean),
     ("check-command-existence", .boolean),
     ("suggest-alternatives", .boolean),
     ("warn-empty-file", .boolean)]

def executionSchema : Schema :=
  .record
    [("lint-order", .list .string),
     ("max-lint-time-ms", .count),
     ("on-timeout", .choice ["SKIP_LINTER", "CANCEL_EXECUTION"]),
     ("debug-mode", .boolean)]

def linterSchema : Schema :=
  .record
    [("enabled", .boolean),
     ("rules", rulesSchema),
     ("execution", executionSchema)]

def schema : Schema :=
  .record
    [("$schema", .string),
     ("settings", settingsSchema),
     ("security", securitySchema),
     ("messages", .dictionary .string),
     ("linter", linterSchema),
     ("host", .record [("known-commands", .list .string)])]

def field (value : Value) (name : String) (read : Value → Option α) (default : α) : α :=
  ((value.member? name).bind read).getD default

def part (value : Value) (name : String) : Value :=
  (value.member? name).getD (.object [])

def timerMode? : Value → Option TimerMode
  | .string "ticks" => some .ticks
  | .string "realtime" => some .realtime
  | _ => none

def timeoutPolicy? : Value → Option TimeoutPolicy
  | .string "SKIP_LINTER" => some .skipLinter
  | .string "CANCEL_EXECUTION" => some .cancelExecution
  | _ => none

def lintOrder? (value : Value) : Option (List Lint.Check) :=
  value.strings?.map (·.filterMap Lint.Check.ofName?)

def count? : Value → Option Nat
  | .number (.integer value) => some value.toNat
  | _ => none

def settingsOf (value : Value) : Settings :=
  let default : Settings := {}
  { batchFolder := field value "batch-folder" Value.string? default.batchFolder
    fileExtension := field value "file-extension" Value.string? default.fileExtension
    timerMode := field value "timer-mode" timerMode? default.timerMode }

def securityOf (value : Value) : Security :=
  let default : Security := {}
  { removeDangerousCommands :=
      field value "remove-dangerous-commands" Value.bool? default.removeDangerousCommands
    commandBlacklist := field value "command-blacklist" Value.strings? default.commandBlacklist }

/-- The messages. What every message starts with is called `prefix`; every other name is that
of a template. -/
def messagesOf (value : Value) : Message.Catalog where
  opening := field value "prefix" Value.string? ""
  templates := (value.stringMembers?.getD []).filter fun (name, _) => name != "prefix"

def rulesOf (value : Value) : LintRules where
  warnInvalidSyntax := field value "warn-invalid-syntax" Value.bool? true
  warnUnknownMeta := field value "warn-unknown-meta" Value.bool? true
  warnOnBlacklisted := field value "warn-on-blacklisted" Value.bool? true
  checkCommandExistence := field value "check-command-existence" Value.bool? true
  suggestAlternatives := field value "suggest-alternatives" Value.bool? true
  warnEmptyFile := field value "warn-empty-file" Value.bool? true

def executionOf (value : Value) : LintExecution :=
  let default : LintExecution := {}
  { lintOrder := field value "lint-order" lintOrder? default.lintOrder
    maxLintTime := field value "max-lint-time-ms" count? default.maxLintTime
    onTimeout := field value "on-timeout" timeoutPolicy? default.onTimeout
    debugMode := field value "debug-mode" Value.bool? default.debugMode }

def linterOf (value : Value) : LinterConfig where
  enabled := field value "enabled" Value.bool? true
  rules := rulesOf (part value "rules")
  execution := executionOf (part value "execution")

def ofValue (value : Value) : Config where
  settings := settingsOf (part value "settings")
  security := securityOf (part value "security")
  messages := messagesOf (part value "messages")
  linter := linterOf (part value "linter")
  host := { knownCommands := field (part value "host") "known-commands" Value.strings? [] }

inductive LoadError where
  | unreadable
  | malformed
  | invalid (fault : Fault)
  | notACount (value : Double)

def LoadError.message : LoadError → String
  | unreadable => "Failed to read config"
  | malformed => "Invalid JSONC"
  | invalid fault => "Config validation failed: " ++ fault.message
  | notACount value =>
    "Invalid config: invalid type: floating point `" ++ Decimal.dataLayout.write value ++
      "`, expected u64"

def fractionalBudget? (value : Value) : Option Double :=
  match (part (part value "linter") "execution").member? "max-lint-time-ms" with
  | some (.number (.float budget)) => some budget
  | _ => none

def check (value : Value) : Except LoadError Config :=
  match fault? schema value, fractionalBudget? value with
  | some fault, _ => .error (.invalid fault)
  | none, some budget => .error (.notACount budget)
  | none, none => .ok (ofValue value)

def load (text : String) : Except LoadError Config :=
  match Json.read? text with
  | none => .error .malformed
  | some value => check value

end ConsoleBatch.Config
