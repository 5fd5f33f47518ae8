/-!
# Ranges of code points

The tables of character properties are lists of closed ranges.
-/

namespace TemporalQuery.Text

def inRanges (ranges : List (Nat × Nat)) (n : Nat) : Bool :=
  ranges.any fun r => decide (r.1 ≤ n) && decide (n ≤ r.2)

end TemporalQuery.Text
