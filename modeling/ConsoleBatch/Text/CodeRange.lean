/-!
Sets of characters given by intervals of code points.
-/

namespace ConsoleBatch.Text

abbrev CodeRange := Nat × Nat

def inRanges (ranges : List CodeRange) (c : Char) : Bool :=
  ranges.any fun (first, last) => first ≤ c.toNat && c.toNat ≤ last

end ConsoleBatch.Text
