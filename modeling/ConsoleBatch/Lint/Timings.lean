import ConsoleBatch.Decimal.Fixed
import ConsoleBatch.Lint.Check
import ConsoleBatch.Lint.Duration

/-!
How long each check took.

A table holds nanoseconds for the checks that ran, and no entry for the others. Running a check
again adds to its entry, and so does putting two tables together.
-/

namespace ConsoleBatch.Lint

structure Timings where
  metaSyntax : Option Nat := none
  unknownMeta : Option Nat := none
  blacklist : Option Nat := none
  existence : Option Nat := none
  deriving DecidableEq

namespace Timings

def empty : Timings := {}

def get? (timings : Timings) : Check → Option Nat
  | .metaSyntax => timings.metaSyntax
  | .unknownMeta => timings.unknownMeta
  | .blacklist => timings.blacklist
  | .existence => timings.existence

def merge (left right : Timings) : Timings where
  metaSyntax := Option.merge (· + ·) left.metaSyntax right.metaSyntax
  unknownMeta := Option.merge (· + ·) left.unknownMeta right.unknownMeta
  blacklist := Option.merge (· + ·) left.blacklist right.blacklist
  existence := Option.merge (· + ·) left.existence right.existence

def single (check : Check) (nanos : Nat) : Timings :=
  match check with
  | .metaSyntax => { metaSyntax := some nanos }
  | .unknownMeta => { unknownMeta := some nanos }
  | .blacklist => { blacklist := some nanos }
  | .existence => { existence := some nanos }

def record (timings : Timings) (check : Check) (nanos : Nat) : Timings :=
  timings.merge (single check nanos)

def entries (timings : Timings) : List (Check × Nat) :=
  Check.all.filterMap fun check => (timings.get? check).map (check, ·)

def checks (timings : Timings) : List Check :=
  Check.all.filter fun check => (timings.get? check).isSome

def size (timings : Timings) : Nat :=
  timings.entries.length

def isEmpty (timings : Timings) : Bool :=
  timings.entries.isEmpty

def total (timings : Timings) : Nat :=
  timings.entries.foldr (fun entry rest => entry.2 + rest) 0

def percentage (nanos total : Nat) : Decimal.Double :=
  if 0 < secondsOf total then .ofFloat (secondsOf nanos / secondsOf total * 100.0) else .zero

def column (width : Nat) (text : String) : String :=
  text ++ String.ofList (List.replicate (width - text.length) ' ')

def rule : String :=
  let dashes (width : Nat) := String.ofList (List.replicate width '-')
  dashes 15 ++ "-+-" ++ dashes 15 ++ "-+-" ++ dashes 10

def row (total : Nat) (entry : Check × Nat) : String :=
  column 15 entry.1.name ++ " | " ++ column 15 (durationText entry.2) ++ " | " ++
    column 10 (Decimal.oneDecimal (percentage entry.2 total)) ++ "%"

/-- The table as text, the longest time first; equal times keep the order of the checks. -/
def report (timings : Timings) : String :=
  if timings.isEmpty then "Lint Timings: no checks executed"
  else
    let sorted := timings.entries.mergeSort fun left right => right.2 ≤ left.2
    let heading := column 15 "Check" ++ " | " ++ column 15 "Duration" ++ " | " ++ column 10 "%"
    let last := column 15 "Total" ++ " | " ++ column 15 (durationText timings.total)
    "\n".intercalate
      (["Lint Timings:", heading, rule] ++ sorted.map (row timings.total) ++ [rule, last])

end Timings

end ConsoleBatch.Lint
