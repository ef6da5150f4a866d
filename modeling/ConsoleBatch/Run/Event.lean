import ConsoleBatch.Run.Execution

/-!
What the host sees of a request.
-/

namespace ConsoleBatch.Run

structure Identity where
  name : String
  deriving DecidableEq

def Identity.console : Identity where
  name := "CONSOLE"

inductive Outcome where
  | completed (summary : Summary)
  | rejected
  | notFound
  | readFailed
  | cancelled
  deriving DecidableEq

def Outcome.isCompleted : Outcome → Bool
  | completed _ => true
  | _ => false

inductive Event where
  | message (text : String)
  | dispatch (identity : Identity) (command : String)
  | finished (outcome : Outcome)
  deriving DecidableEq

end ConsoleBatch.Run
