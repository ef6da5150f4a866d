import ConsoleBatch.Decimal.Double

/-!
The steps of a batch, and how a pause becomes a timer.
-/

namespace ConsoleBatch

open Decimal (Double)

inductive Action where
  | command (text : String)
  | pause (seconds : Double)
  deriving DecidableEq

namespace Action

def isCommand : Action → Bool
  | command _ => true
  | pause _ => false

def text? : Action → Option String
  | command text => some text
  | pause _ => none

end Action

def isPauseLength (seconds : Double) : Bool :=
  seconds.isFinite && ! seconds.isBelowZero

def ticksPerSecond : Nat := 20

def pauseTicks (seconds : Double) : Nat :=
  (seconds.toFloat * 20.0).toUInt64.toNat

def pauseMillis (seconds : Double) : Nat :=
  (seconds.toFloat * 1000.0).toUInt64.toNat

end ConsoleBatch
