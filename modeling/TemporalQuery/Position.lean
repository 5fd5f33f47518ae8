/-!
# Positions

Offsets in a text as lines and columns, both counted from 1. Only a line feed ends a line.
-/

namespace TemporalQuery

structure Position where
  line : Nat
  column : Nat
  deriving DecidableEq

def Position.after (before : List Char) : Position where
  line := before.count '\n' + 1
  column := (before.reverse.takeWhile (· ≠ '\n')).length + 1

/-- The position of offset `index` in `text`. An offset outside is taken for the nearer end. -/
def position (text : String) (index : Int) : Position :=
  .after (text.toList.take index.toNat)

end TemporalQuery
