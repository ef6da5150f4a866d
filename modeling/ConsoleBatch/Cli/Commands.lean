import ConsoleBatch.Cli.Report
import ConsoleBatch.Config.Discover
import ConsoleBatch.Run.Session

/-!
The commands of the command line.

A command comes to a transcript: what is printed and how long is waited in between, in order,
and the exit code at the end.
-/

namespace ConsoleBatch.Cli

open Files (Folder Tree)
open Lint (Clock)
open Run (Event Session)

inductive Act where
  | out (line : String)
  | err (line : String)
  | wait (millis : Nat)
  deriving DecidableEq

structure Transcript where
  acts : List Act
  code : Nat
  deriving DecidableEq

namespace Transcript

def stdout (transcript : Transcript) : String :=
  String.join (transcript.acts.map fun
    | .out line => line ++ "\n"
    | _ => "")

def stderr (transcript : Transcript) : String :=
  String.join (transcript.acts.map fun
    | .err line => line ++ "\n"
    | _ => "")

end Transcript

def unusable : Nat := 2

def Invocation.baseDir (invocation : Invocation) : String :=
  invocation.dir.getD "."

def configPath? (invocation : Invocation) (files : Tree) : Option String :=
  invocation.config.or (Config.discover files invocation.baseDir)

def loadConfig (invocation : Invocation) (files : Tree) : Except Config.LoadError Config :=
  match configPath? invocation files with
  | some path => Config.loadFile files path
  | none => .ok {}

def tickMillis : Nat := 1000 / ticksPerSecond

def maxTicks : Nat := Nat.pow 2 32 - 1

def showEvent : Event → List Act
  | .message text => [.err text]
  | .dispatch _ command => [.out ("> " ++ command)]
  | .finished _ => []

/-- How the time until a job or inside it passes. -/
def waitFor : Run.Job → List Act
  | .wait millis _ => [.wait millis]
  | .resumeLater ticks _ => [.wait (min ticks maxTicks * tickMillis)]
  | _ => []

def showTask (ran : Session.Ran) : List Act :=
  waitFor ran.task.job ++ ran.events.flatMap showEvent

def isCompleted (events : List Event) : Bool :=
  events.any fun
    | .finished outcome => outcome.isCompleted
    | _ => false

def runFile (config : Config) (folder : Folder) (files : Tree) (clock : Clock) (file : String) :
    Transcript :=
  let idle : Session := { config, folder, files, registry := config.host.knownCommands }
  let requested := idle.request "console" file
  let (ran, done) := requested.drain clock
  { acts := requested.log.flatMap (fun entry => showEvent entry.event) ++ ran.flatMap showTask
    code := if isCompleted (done.log.map Run.Entry.event) then 0 else 1 }

def failure (lines : List String) : Transcript where
  acts := lines.map .err
  code := 1

/-- Lints a file without running it. The exit code tells whether there are warnings. -/
def lintFile (config : Config) (folder : Folder) (files : Tree) (clock : Clock) (file : String)
    (format : Format) (timings : Bool) : Transcript :=
  match folder.locate files file with
  | .error error => failure [error.message]
  | .ok fileName =>
    match folder.read files fileName with
    | .error _ => failure (config.messages.message .readError [])
    | .ok content =>
      match Batch.parse config (config.host.knownCommands.map Text.lowered) content clock with
      | none => failure (config.messages.message .executionCancelled [("filename", fileName)])
      | some batch =>
        let timings := timings || config.linter.execution.debugMode
        { acts := (report format fileName batch timings).map .out
          code := if batch.warnings.isEmpty then 0 else 1 }

def listFiles (folder : Folder) (files : Tree) (start : String) : Transcript :=
  if ! files.isFolder folder.dir then { acts := [], code := 0 }
  else match folder.list files start with
    | .ok names => { acts := names.map .out, code := 0 }
    | .error error => { acts := [.err error.message], code := unusable }

def perform (config : Config) (files : Tree) (clock : Clock) (invocation : Invocation) :
    Transcript :=
  let folder := Folder.ofConfig invocation.baseDir config
  match invocation.command with
  | .run file => runFile config folder files clock file
  | .lint file format timings => lintFile config folder files clock file format timings
  | .list start => listFiles folder files start

def usage : String :=
  "Invalid arguments. Usage: [--config FILE] [--dir DIR] [--verbose] " ++
    "(run FILE | lint FILE [--format text|json] [--timings] | list [START])"

def execute (arguments : List String) (files : Tree) (clock : Clock) : Transcript :=
  match parseArguments arguments with
  | none => { acts := [.err usage], code := unusable }
  | some invocation =>
    match loadConfig invocation files with
    | .error error =>
      { acts := [.err (BatchError.configuration error.message).message], code := unusable }
    | .ok config => perform config files clock invocation

end ConsoleBatch.Cli
