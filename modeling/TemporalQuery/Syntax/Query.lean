import TemporalQuery.Syntax.Condition

/-!
# Queries

A query is a condition under an optional quantifier, modality and bound on runs. Which combinations
mean something is for the engine that answers the query to say.
-/

namespace TemporalQuery

/-- A limit on runs, in units of model time or in discrete steps. -/
inductive Bound
  | time (max : Nat)
  | steps (max : Nat)
  deriving DecidableEq

structure Query where
  condition : Condition
  quantifier : Option Quantifier := none
  modality : Option Modality := none
  bound : Option Bound := none

namespace Query

def equals (p q : Query) : Bool :=
  p.condition.equals q.condition && p.quantifier = q.quantifier && p.modality = q.modality &&
    p.bound = q.bound

theorem equals_iff (p q : Query) : p.equals q ↔ p = q := by
  cases p
  cases q
  simp [equals, Condition.equals_iff, and_assoc]

instance : DecidableEq Query := fun p q => decidable_of_iff (p.equals q) (p.equals_iff q)

def names (q : Query) : List String := q.condition.names

end Query

end TemporalQuery
