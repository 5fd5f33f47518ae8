import TemporalQuery.Transform.Simplify
import TemporalQuery.Proofs.Semantics

/-!
# Simplification keeps the meaning

Each rule keeps the truth value at every position, and so does the pass as a whole
(`Condition.holds_simplify`).
-/

namespace TemporalQuery.Condition

universe u

variable {S : Type u} {I : Interpretation S} {σ : Nat → S} {i : Nat}

theorem holds_unwrap (c : Condition) : Holds I σ i c.unwrap ↔ Holds I σ i c := by
  induction c with
  | group c ih => exact ih
  | _ => exact Iff.rfl

theorem holds_asPrimary (c : Condition) : Holds I σ i c.asPrimary ↔ Holds I σ i c := by
  unfold asPrimary
  split <;> exact Iff.rfl

theorem holds_asOperand (c : Condition) : Holds I σ i c.asOperand ↔ Holds I σ i c := by
  unfold asOperand
  split <;> exact Iff.rfl

theorem holds_negate (c : Condition) : Holds I σ i c.negate ↔ ¬ Holds I σ i c :=
  not_congr (holds_asPrimary c)

theorem holds_complement (c : Condition) : Holds I σ i c.complement ↔ ¬ Holds I σ i c := by
  unfold complement
  split
  · exact not_true.symm
  · exact not_false_iff.symm
  · exact not_not.symm
  · exact holds_negate _

theorem holds_meet (l r : Condition) :
    Holds I σ i (meet l r) ↔ Holds I σ i (binary .conjunction l r) := by
  unfold meet
  split
  · rename_i truth
    rw [truth]
    simp only [Holds, true_and]
  · split
    · rename_i truth
      rw [truth]
      simp only [Holds, and_true]
    · split
      · rename_i falsity
        rcases falsity with falsity | falsity
        · rw [falsity]
          simp only [Holds, false_and]
        · rw [falsity]
          simp only [Holds, and_false]
      · exact holds_binary_congr .conjunction (fun _ => Iff.rfl) fun _ => holds_asOperand r

theorem holds_join (l r : Condition) :
    Holds I σ i (join l r) ↔ Holds I σ i (binary .disjunction l r) := by
  unfold join
  split
  · rename_i truth
    rcases truth with truth | truth
    · rw [truth]
      simp only [Holds, true_or]
    · rw [truth]
      simp only [Holds, or_true]
  · split
    · rename_i falsity
      rw [falsity]
      simp only [Holds, false_or]
    · split
      · rename_i falsity
        rw [falsity]
        simp only [Holds, or_false]
      · exact holds_binary_congr .disjunction (fun _ => Iff.rfl) fun _ => holds_asOperand r

/-- A condition and what it is simplified to hold at the same positions of every run. -/
theorem holds_simplify (I : Interpretation S) (σ : Nat → S) (i : Nat) (c : Condition) :
    Holds I σ i c.simplify ↔ Holds I σ i c := by
  -- The position varies: `next` and `until` ask for the operands at other positions.
  induction c generalizing i with
  | constant k => exact Iff.rfl
  | bare e => exact Iff.rfl
  | compare l op r => exact Iff.rfl
  | group c ih => exact (holds_asOperand c.simplify).trans (ih i)
  | unary op c ih =>
    cases op with
    | negation =>
      have inner : Holds I σ i c.simplify.unwrap ↔ Holds I σ i c := (holds_unwrap _).trans (ih i)
      exact (holds_complement _).trans (not_congr inner)
    | nextState => exact (holds_asPrimary c.simplify).trans (ih (i + 1))
  | binary op l r ihl ihr =>
    have operands := holds_binary_congr (i := i) op ihl ihr
    have grouped := holds_binary_congr (i := i) op ihl fun j =>
      (holds_asOperand r.simplify).trans (ihr j)
    cases op with
    | conjunction => exact (holds_meet l.simplify r.simplify).trans operands
    | disjunction => exact (holds_join l.simplify r.simplify).trans operands
    | strongUntil => exact grouped
    | implication => exact grouped

end TemporalQuery.Condition
