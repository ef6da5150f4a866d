/-!
The clock that linting is measured with.

A clock holds everything it will ever show, so that linting is a function of its lines and its
clock. Times are in nanoseconds.
-/

namespace ConsoleBatch.Lint

/-- A clock that has been read some times. -/
structure Clock where
  readings : Nat → Nat
  taken : Nat := 0

namespace Clock

def still (time : Nat) : Clock where
  readings _ := time

def steady (step : Nat) : Clock where
  readings taken := taken * step

def now (clock : Clock) : Nat :=
  clock.readings clock.taken

def next (clock : Clock) : Clock :=
  { clock with taken := clock.taken + 1 }

end Clock

end ConsoleBatch.Lint
