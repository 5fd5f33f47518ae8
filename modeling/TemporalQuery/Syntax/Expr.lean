import TemporalQuery.Syntax.Operator

/-!
# Expressions

Integer arithmetic over names. `subexpressions` and `names` list what occurs in an expression.
-/

namespace TemporalQuery

/-- An arithmetic expression. `group` is a pair of parentheses, kept as it was written. -/
inductive Expr
  | int (value : Nat)
  | name (identifier : String)
  | minus (operand : Expr)
  | group (inner : Expr)
  | binary (op : ArithOp) (left right : Expr)

namespace Expr

/-- Whether the expressions are of one kind and have equal parts. -/
def equals : Expr → Expr → Bool
  | int m, int n => m = n
  | name x, name y => x = y
  | minus a, minus b => a.equals b
  | group a, group b => a.equals b
  | binary op a b, binary op' a' b' => op = op' && a.equals a' && b.equals b'
  | _, _ => false

theorem equals_iff (a b : Expr) : a.equals b ↔ a = b := by
  induction a generalizing b with
  | int n | name x => cases b <;> simp [equals]
  | minus e ih | group e ih => cases b <;> simp [equals, ih]
  | binary op l r ihl ihr => cases b <;> simp [equals, ihl, ihr, and_assoc]

instance : DecidableEq Expr := fun a b => decidable_of_iff (a.equals b) (a.equals_iff b)

/-- Every expression that occurs in `e`, `e` itself first; repeated if it occurs repeatedly. -/
def subexpressions : Expr → List Expr
  | int n => [int n]
  | name x => [name x]
  | minus e => minus e :: e.subexpressions
  | group e => group e :: e.subexpressions
  | binary op l r => binary op l r :: (l.subexpressions ++ r.subexpressions)

def names : Expr → List String
  | int _ => []
  | name x => [x]
  | minus e => e.names
  | group e => e.names
  | binary _ l r => l.names ++ r.names

/-- Whether a minus sign may stand right in front of the expression. -/
def isPrimary : Expr → Bool
  | int _ | name _ | group _ => true
  | minus _ | binary .. => false

def isBinary : Expr → Bool
  | binary .. => true
  | _ => false

end Expr

end TemporalQuery
