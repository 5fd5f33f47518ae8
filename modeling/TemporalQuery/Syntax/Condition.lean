import TemporalQuery.Syntax.Expr

/-!
# Conditions

State and path formulas over comparisons of expressions. `subformulas` and `names` list what occurs
in a condition; `isPure` and `containsUntil` say which path operators do.
-/

namespace TemporalQuery

/-- A condition. `bare` is an expression that stands alone; `group` is a pair of parentheses. -/
inductive Condition
  | constant (c : Constant)
  | bare (e : Expr)
  | compare (left : Expr) (op : RelOp) (right : Expr)
  | unary (op : UnaryOp) (operand : Condition)
  | group (inner : Condition)
  | binary (op : Connective) (left right : Condition)

namespace Condition

/-- Whether the conditions are of one kind and have equal parts. -/
def equals : Condition → Condition → Bool
  | constant k, constant k' => k = k'
  | bare e, bare e' => e.equals e'
  | compare a op b, compare a' op' b' => a.equals a' && op = op' && b.equals b'
  | unary op c, unary op' c' => op = op' && c.equals c'
  | group c, group c' => c.equals c'
  | binary op l r, binary op' l' r' => op = op' && l.equals l' && r.equals r'
  | _, _ => false

theorem equals_iff (c d : Condition) : c.equals d ↔ c = d := by
  induction c generalizing d with
  | constant k => cases d <;> simp [equals]
  | bare e | compare e op e' => cases d <;> simp [equals, Expr.equals_iff, and_assoc]
  | unary op c ih | group c ih => cases d <;> simp [equals, ih]
  | binary op l r ihl ihr => cases d <;> simp [equals, ihl, ihr, and_assoc]

instance : DecidableEq Condition := fun c d => decidable_of_iff (c.equals d) (c.equals_iff d)

/-- Every condition that occurs in `c`, `c` itself first; repeated if it occurs repeatedly. -/
def subformulas : Condition → List Condition
  | constant k => [constant k]
  | bare e => [bare e]
  | compare l op r => [compare l op r]
  | unary op c => unary op c :: c.subformulas
  | group c => group c :: c.subformulas
  | binary op l r => binary op l r :: (l.subformulas ++ r.subformulas)

/-- The identifiers that occur in the comparisons of `c`, from left to right. -/
def names : Condition → List String
  | constant _ => []
  | bare e => e.names
  | compare l _ r => l.names ++ r.names
  | unary _ c => c.names
  | group c => c.names
  | binary _ l r => l.names ++ r.names

/-- Whether an operator may stand right in front of the condition. -/
def isPrimary : Condition → Bool
  | constant _ | bare _ | compare .. | group _ => true
  | unary .. | binary .. => false

def isBinary : Condition → Bool
  | binary .. => true
  | _ => false

def isUntil : Condition → Bool
  | binary .strongUntil _ _ => true
  | _ => false

def isNext : Condition → Bool
  | unary .nextState _ => true
  | _ => false

def containsUntil (c : Condition) : Bool := c.subformulas.any isUntil

/-- Whether `c` is a state formula: no path operator occurs, so one state decides it. -/
def isPure (c : Condition) : Bool := c.subformulas.all fun s => !s.isNext && !s.isUntil

end Condition

end TemporalQuery
