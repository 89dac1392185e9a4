/-!
A set of characters given by the closed ranges of their code points.
-/

namespace RestOperations.Text

/-- Some range of the table holds the code point. -/
def inRanges (table : List (Nat × Nat)) (n : Nat) : Bool :=
  table.any fun r => decide (r.1 ≤ n) && decide (n ≤ r.2)

end RestOperations.Text
