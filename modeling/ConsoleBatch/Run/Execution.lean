import ConsoleBatch.Action

/-!
The steps of a batch, taken up to the next pause at a time.

An execution is a place in the list of steps, and how many commands went out so far. Advancing
never waits: it stops at a pause and is advanced again when the pause is over.
-/

namespace ConsoleBatch.Run

open Decimal (Double)

inductive RunState where
  | running
  | suspended
  | finished
  deriving DecidableEq

structure Summary where
  executed : Nat := 0
  skipped : Nat := 0
  deriving DecidableEq

structure Execution where
  actions : List Action
  cursor : Nat := 0
  executed : Nat := 0
  skipped : Nat := 0
  state : RunState := .running
  deriving DecidableEq

inductive Stop where
  | pause (seconds : Double)
  | finished (summary : Summary)
  deriving DecidableEq

/-- What came of advancing: the commands to dispatch, where it stopped, and the execution from
there on. -/
structure Advance where
  dispatched : List String
  stop : Stop
  execution : Execution
  deriving DecidableEq

def leadingCommands (actions : List Action) : List String :=
  (actions.takeWhile Action.isCommand).filterMap Action.text?

def afterCommands (actions : List Action) : List Action :=
  actions.dropWhile Action.isCommand

namespace Execution

def summary (execution : Execution) : Summary where
  executed := execution.executed
  skipped := execution.skipped

def ahead (execution : Execution) : List Action :=
  execution.actions.drop execution.cursor

def moved (execution : Execution) (steps commands : Nat) (state : RunState) : Execution :=
  { execution with
    cursor := execution.cursor + steps
    executed := execution.executed + commands
    state }

/-- Goes on to the next pause or the end. An execution that is finished stays as it is. -/
def advance (execution : Execution) : Advance :=
  if execution.state = .finished then
    { dispatched := [], stop := .finished execution.summary, execution }
  else
    let commands := leadingCommands execution.ahead
    let passed := execution.ahead.length - (afterCommands execution.ahead).length
    match afterCommands execution.ahead with
    | .pause seconds :: _ =>
      { dispatched := commands
        stop := .pause seconds
        execution := execution.moved (passed + 1) commands.length .suspended }
    | _ =>
      let execution := execution.moved passed commands.length .finished
      { dispatched := commands, stop := .finished execution.summary, execution }

end Execution

end ConsoleBatch.Run
