import TemporalQuery.Syntax.Query
import Mathlib.Data.Set.Defs
import Mathlib.Logic.Basic

/-!
# What conditions and queries mean

Conditions hold at positions of an infinite sequence of states. What a comparison and `deadlock` say
of a state is a parameter, the `Interpretation`. Queries hold in a `Model`, which has many such
sequences and says which positions of each a bound admits.
-/

namespace TemporalQuery

universe u

structure Interpretation (S : Type u) where
  bare : Expr → S → Prop
  compare : Expr → RelOp → Expr → S → Prop
  deadlock : S → Prop

namespace Condition

variable {S : Type u}

def Holds (I : Interpretation S) (σ : Nat → S) : Nat → Condition → Prop
  | _, constant .truth => True
  | _, constant .falsity => False
  | i, constant .deadlock => I.deadlock (σ i)
  | i, bare e => I.bare e (σ i)
  | i, compare l op r => I.compare l op r (σ i)
  | i, group c => Holds I σ i c
  | i, unary .negation c => ¬ Holds I σ i c
  | i, unary .nextState c => Holds I σ (i + 1) c
  | i, binary .conjunction l r => Holds I σ i l ∧ Holds I σ i r
  | i, binary .disjunction l r => Holds I σ i l ∨ Holds I σ i r
  | i, binary .implication l r => Holds I σ i l → Holds I σ i r
  | i, binary .strongUntil l r =>
    ∃ j, i ≤ j ∧ Holds I σ j r ∧ ∀ k, i ≤ k → k < j → Holds I σ k l

variable {I : Interpretation S} {σ : Nat → S} {i : Nat}

/-- The meaning of a connective depends on what its operands mean, at every position. -/
theorem holds_binary_congr (op : Connective) {l l' r r' : Condition}
    (left : ∀ j, Holds I σ j l ↔ Holds I σ j l') (right : ∀ j, Holds I σ j r ↔ Holds I σ j r') :
    Holds I σ i (binary op l r) ↔ Holds I σ i (binary op l' r') := by
  cases op with
  | conjunction => exact and_congr (left i) (right i)
  | disjunction => exact or_congr (left i) (right i)
  | implication => exact imp_congr (left i) (right i)
  | strongUntil => simp only [Holds, left, right]

end Condition

/-! ### Queries -/

/-- What a query is asked about: some runs, what is said of their states, and the positions of each run
that are within a bound. -/
structure Model (S : Type u) where
  interpretation : Interpretation S
  runs : Set (Nat → S)
  admitted : Option Bound → (Nat → S) → Set Nat

/-- At some of the positions, or at all. -/
def Modality.Over (positions : Set Nat) (P : Nat → Prop) : Modality → Prop
  | eventually => ∃ i ∈ positions, P i
  | globally => ∀ i ∈ positions, P i

/-- On all of the runs, or on some. A probability is asked for and not claimed. -/
def Quantifier.Over {S : Type u} (runs : Set (Nat → S)) (P : (Nat → S) → Prop) : Quantifier → Prop
  | universal => ∀ σ ∈ runs, P σ
  | existential => ∃ σ ∈ runs, P σ
  | probability | probabilityR => False

/-- Only a query with a quantifier over runs and a modality claims anything. -/
def Query.Holds {S : Type u} (M : Model S) (q : Query) : Prop :=
  ∃ k m, q.quantifier = some k ∧ q.modality = some m ∧
    k.Over M.runs fun σ => m.Over (M.admitted q.bound σ) fun i => q.condition.Holds M.interpretation σ i

end TemporalQuery
