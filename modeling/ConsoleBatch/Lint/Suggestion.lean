/-!
Suggestions for commands that are not known.

The edit distance of two words is the least number of characters to insert, delete or replace
that turns one into the other. The closest candidate within three edits is suggested.
-/

namespace ConsoleBatch.Lint

def replacementCost (left right : Char) : Nat :=
  if left = right then 0 else 1

def emptyRow : List Char → List Nat
  | [] => [0]
  | c :: rest => ((c :: rest).length) :: emptyRow rest

/-- From the distances of a word to each end of `word`, those of the same word with `first` in
front. -/
def extendRow (first : Char) : List Char → List Nat → List Nat
  | c :: rest, below :: row =>
    let right := extendRow first rest row
    let diagonal := row.headD 0 + replacementCost first c
    min (min (below + 1) (right.headD 0 + 1)) diagonal :: right
  | _, row => row.map (· + 1)

def distanceRow (left right : List Char) : List Nat :=
  left.foldr (fun first row => extendRow first right row) (emptyRow right)

def editDistance (left right : List Char) : Nat :=
  (distanceRow left right).headD 0

def suggestionReach : Nat := 3

abbrev Scored := Nat × String

/-- Whether a candidate is preferred: it is nearer, or equally near and first in the order of
strings. -/
def isPreferred (candidate best : Scored) : Bool :=
  candidate.1 < best.1 || (candidate.1 == best.1 && candidate.2 < best.2)

def preferred (best : Option Scored) (candidate : Scored) : Option Scored :=
  match best with
  | none => some candidate
  | some current => if isPreferred candidate current then some candidate else some current

def closestMatch (target : String) (candidates : List String) : Option String :=
  let scored := candidates.map fun name => (editDistance target.toList name.toList, name)
  match scored.foldl preferred none with
  | some (distance, name) => if 1 ≤ distance ∧ distance ≤ suggestionReach then some name else none
  | none => none

end ConsoleBatch.Lint
