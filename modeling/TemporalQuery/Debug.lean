import TemporalQuery.Canonical
import TemporalQuery.Text.Quoted

/-!
# Debug texts

Expressions and conditions as the kind of their node around their canonical text, bounds and queries
as their fields.
-/

namespace TemporalQuery

def Text.optional (x : Option String) : String := x.getD "None"

namespace Expr

def nodeKind : Expr → String
  | int _ => "IntConstant"
  | name _ => "Name"
  | minus _ => "Negate"
  | group _ => "ParenExpr"
  | binary op _ _ => op.nodeKind

def debug (e : Expr) : String := e.nodeKind ++ parenthesized e.text

end Expr

namespace Condition

def nodeKind : Condition → String
  | constant k => k.nodeKind
  | bare _ | compare .. => "Comparison"
  | unary op _ => op.nodeKind
  | group _ => "ParenCondition"
  | binary op _ _ => op.nodeKind

def debug (c : Condition) : String := c.nodeKind ++ parenthesized c.text

end Condition

namespace Bound

def nodeKind : Bound → String
  | time _ => "TimeBound"
  | steps _ => "StepsBound"

def debug : Bound → String
  | time n => "TimeBound(max=" ++ toString n ++ ")"
  | steps n => "StepsBound(max=" ++ toString n ++ ")"

end Bound

def Quantifier.debug (q : Quantifier) : String :=
  "<Quantifier." ++ q.label ++ ": " ++ Text.quoted q.symbol ++ ">"

def Modality.debug (m : Modality) : String :=
  "<Modality." ++ m.label ++ ": " ++ Text.quoted m.symbol ++ ">"

def Query.debug (q : Query) : String :=
  "Query(condition=" ++ q.condition.debug ++
    ", quantifier=" ++ Text.optional (q.quantifier.map (·.debug)) ++
    ", modality=" ++ Text.optional (q.modality.map (·.debug)) ++
    ", bound=" ++ Text.optional (q.bound.map (·.debug)) ++ ")"

end TemporalQuery
