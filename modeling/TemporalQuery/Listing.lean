import TemporalQuery.Debug

/-!
# Sorted listings

What occurs in a query as sorted lists without repetition, in the order of code points.
-/

namespace TemporalQuery

def sortText (xs : List String) : List String := xs.mergeSort fun a b => decide (a ≤ b)

def distinctNames (names : List String) : List String := sortText names.eraseDups

/-- The debug texts of the distinct subexpressions; different ones may show alike. -/
def Expr.listing (e : Expr) : List String := sortText (e.subexpressions.eraseDups.map debug)

/-- The debug texts of the distinct subformulas; different ones may show alike. -/
def Condition.listing (c : Condition) : List String := sortText (c.subformulas.eraseDups.map debug)

end TemporalQuery
