import TemporalQuery.Json
import TemporalQuery.Syntax.Query

/-!
# Syntax trees

Expressions, conditions, bounds and queries as JSON, one object a node: its type, its operator if it
has one, then its parts.
-/

namespace TemporalQuery

namespace Json

def node (kind : String) (fields : List (String × Json)) : Json :=
  obj (("type", str kind) :: fields)

def ofOption (x : Option Json) : Json := x.getD null

end Json

open Json

def Expr.tree : Expr → Json
  | int n => node "IntConstant" [("value", .int n)]
  | name x => node "Name" [("identifier", str x)]
  | minus e => node "Negate" [("operand", e.tree)]
  | group e => node "ParenExpr" [("inner", e.tree)]
  | binary op l r =>
    node op.nodeKind [("op", str op.symbol), ("left", l.tree), ("right", r.tree)]

def Condition.tree : Condition → Json
  | constant k => node k.nodeKind []
  | bare e => node "Comparison" [("left", e.tree), ("relop", null), ("right", null)]
  | compare l op r =>
    node "Comparison" [("left", l.tree), ("relop", str op.symbol), ("right", r.tree)]
  | unary op c => node op.nodeKind [("operand", c.tree)]
  | group c => node "ParenCondition" [("inner", c.tree)]
  | binary op l r =>
    node op.nodeKind [("op", str op.word), ("left", l.tree), ("right", r.tree)]

def Bound.tree : Bound → Json
  | time n => node "TimeBound" [("max", .int n)]
  | steps n => node "StepsBound" [("max", .int n)]

def Query.tree (q : Query) : Json :=
  obj [("quantifier", ofOption (q.quantifier.map (str ·.symbol))),
    ("modality", ofOption (q.modality.map (str ·.symbol))),
    ("bound", ofOption (q.bound.map (·.tree))), ("condition", q.condition.tree)]

end TemporalQuery
