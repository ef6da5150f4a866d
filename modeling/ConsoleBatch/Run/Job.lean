import ConsoleBatch.Batch.Notice
import ConsoleBatch.Files.Folder
import ConsoleBatch.Run.Event

/-!
The jobs of a request.

A request is carried through by one job at a time. Each job is run once, on the worker or on
the host's primary context, and comes to some events and at most one job to follow it. A job
holds all it needs: apart from the configuration only the file is looked at when it runs.
-/

namespace ConsoleBatch.Run

open Batch (Parsed)
open Decimal (Double)
open Files (Folder Tree)
open Lint (Clock)
open Message (Bindings Key)

structure InFlight where
  fileName : String
  execution : Execution
  deferred : List String := []
  deriving DecidableEq

inductive Job where
  /-- Reads and parses a file. The known commands are those of the moment of the request. -/
  | read (fileName : String) (known : List String)
  | reportUnreadable
  | begin (fileName : String) (parsed : Option Parsed)
  | wait (millis : Nat) (batch : InFlight)
  | resume (batch : InFlight)
  | resumeLater (ticks : Nat) (batch : InFlight)
  deriving DecidableEq

inductive Place where
  | worker
  | primary
  | later (ticks : Nat)
  deriving DecidableEq

def Job.place : Job → Place
  | read _ _ | wait _ _ => .worker
  | reportUnreadable | begin _ _ | resume _ => .primary
  | resumeLater ticks _ => .later ticks

structure Effect where
  events : List Event
  next : Option Job := none
  deriving DecidableEq

def tell (config : Config) (key : Key) (bindings : Bindings) : List Event :=
  (config.messages.message key bindings).map .message

def resumption (mode : TimerMode) (seconds : Double) (batch : InFlight) : Job :=
  match mode with
  | .ticks => .resumeLater (pauseTicks seconds) batch
  | .realtime => .wait (pauseMillis seconds) batch

def closing (config : Config) (fileName : String) (deferred : List String) (summary : Summary) :
    List Event :=
  deferred.map .message ++
    (if 0 < summary.skipped then
      tell config .skippedDangerous
        [("count", toString summary.skipped), ("filename", fileName)]
    else []) ++
    tell config .success [("count", toString summary.executed), ("filename", fileName)] ++
    [.finished (.completed summary)]

def drive (config : Config) (batch : InFlight) : Effect :=
  let advance := batch.execution.advance
  let dispatches := advance.dispatched.map (.dispatch .console)
  match advance.stop with
  | .pause seconds =>
    let suspended := { batch with execution := advance.execution }
    { events := dispatches
      next := some (resumption config.settings.timerMode seconds suspended) }
  | .finished summary =>
    { events := dispatches ++ closing config batch.fileName batch.deferred summary }

def freshExecution (batch : Parsed) : Execution where
  actions := batch.actions
  skipped := batch.skipped

def beginBatch (config : Config) (fileName : String) : Option Parsed → Effect
  | none =>
    { events := tell config .executionCancelled [("filename", fileName)] ++ [.finished .cancelled] }
  | some batch =>
    let effect := drive config
      { fileName
        execution := freshExecution batch
        deferred := Batch.deferredMessages config fileName batch }
    { effect with
      events := (Batch.openingMessages config fileName batch).map .message ++ effect.events }

def afterReading (config : Config) (fileName : String) (known : List String) (clock : Clock) :
    Except BatchError String → Job
  | .ok content => .begin fileName (Batch.parse config known content clock)
  | .error _ => .reportUnreadable

def runJob (config : Config) (folder : Folder) (files : Tree) (clock : Clock) : Job → Effect
  | .read fileName known =>
    { events := []
      next := some (afterReading config fileName known clock (folder.read files fileName)) }
  | .reportUnreadable =>
    { events := tell config .readError [] ++ [.finished .readFailed] }
  | .begin fileName parsed => beginBatch config fileName parsed
  | .wait _ batch => { events := [], next := some (.resume batch) }
  | .resume batch => drive config batch
  | .resumeLater _ batch => drive config batch

/-- The message and the end of a request whose name leads to no file. An empty name is answered
with the usage text as it is, without a file name in it. -/
def refusal (config : Config) : LookupError → Effect
  | .invalidName name =>
    let message :=
      if name = "" then tell config .usage [] else tell config .invalidFileName [("filename", name)]
    { events := message ++ [.finished .rejected] }
  | .notFound name =>
    { events := tell config .fileNotFound [("filename", name)] ++ [.finished .notFound] }

/-- The start of a request. The names that the host knows are taken now, in lower case. -/
def openRequest (config : Config) (folder : Folder) (files : Tree) (registry : List String)
    (name : String) : Effect :=
  match folder.locate files name with
  | .error error => refusal config error
  | .ok fileName =>
    { events := tell config .executionStarted [("filename", fileName)]
      next := some (.read fileName (registry.map Text.lowered)) }

end ConsoleBatch.Run
