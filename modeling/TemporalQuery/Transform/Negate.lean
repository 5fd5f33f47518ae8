import TemporalQuery.Syntax.Condition

/-!
# Negation

`negate` puts `!` in front of a condition, in parentheses where `!` would take only its first part.
-/

namespace TemporalQuery.Condition

/-- The condition where an operator stands in front of it: in parentheses unless it is primary. -/
def asPrimary (c : Condition) : Condition := if c.isPrimary then c else group c

/-- The condition inside a chain, not first: in parentheses if it is a chain itself. -/
def asOperand (c : Condition) : Condition := if c.isBinary then group c else c

def negate (c : Condition) : Condition := unary .negation c.asPrimary

end TemporalQuery.Condition
