import TemporalQuery.Transform.Negate

/-!
# Simplification

One pass from the leaves up: constants are absorbed, double negations and needless parentheses
dropped. Implications and untils keep their shape.
-/

namespace TemporalQuery.Condition

def unwrap : Condition → Condition
  | group c => c.unwrap
  | c => c

def complement : Condition → Condition
  | constant .truth => constant .falsity
  | constant .falsity => constant .truth
  | unary .negation c => c
  | c => c.negate

def meet (l r : Condition) : Condition :=
  if l = constant .truth then r
  else if r = constant .truth then l
  else if l = constant .falsity ∨ r = constant .falsity then constant .falsity
  else binary .conjunction l r.asOperand

def join (l r : Condition) : Condition :=
  if l = constant .truth ∨ r = constant .truth then constant .truth
  else if l = constant .falsity then r
  else if r = constant .falsity then l
  else binary .disjunction l r.asOperand

def simplify : Condition → Condition
  | group c => c.simplify.asOperand
  | unary .negation c => c.simplify.unwrap.complement
  | unary .nextState c => unary .nextState c.simplify.asPrimary
  | binary .conjunction l r => meet l.simplify r.simplify
  | binary .disjunction l r => join l.simplify r.simplify
  | binary op l r => binary op l.simplify r.simplify.asOperand
  | c => c

end TemporalQuery.Condition
